import LiveCompile.Header
import LiveCompile.ContentHash
import LiveCompile.Chunk.PerChunk
import LiveCompile.Chunk.Value

/-! What a compiler writes: a header and chunks. The payload of a chunk stays the text it
was written as until its value is needed. -/

namespace LiveCompile

/-- A chunk whose payload is the text of a JSON value. -/
structure RawChunk where
  name : ChunkName
  payload : String
  hash : ContentHash
  deriving DecidableEq, Repr, Inhabited

/-- Chunks are in the order of their emission and may repeat a name. -/
structure CompilerOutput where
  header : Header := {}
  chunks : List RawChunk := []
  deriving DecidableEq, Repr, Inhabited

namespace RawChunk

/-- A chunk with a payload given as text, which may have blanks around it. -/
def ofText? (name : ChunkName) (text : String) (hash : ContentHash) : Option RawChunk := do
  return ⟨name, ← (← Document.ofText? text).text?, hash⟩

/-- A chunk that carries the fingerprint of its own payload. -/
def hashed (name : ChunkName) (value : Json) : RawChunk :=
  ⟨name, value.text, ContentHash.ofText value.text⟩

def hash? (document : Document) : Option ContentHash := document.string?.map ContentHash.mk

def ofDocument? (document : Document) : Option RawChunk := do
  let fields ← document.recordMembers? ["name", "data", "contentHash"]
  return {
    name := ← Document.field? fields "name" ChunkName.ofDocument?
    payload := ← Document.field? fields "data" Document.text?
    hash := ← Document.field? fields "contentHash" hash? }

def toDocument (chunk : RawChunk) : Document := .ofFields
  [("name", .ofJson (.string chunk.name.text)),
    ("data", .verbatim (Document.alone chunk.payload)),
    ("contentHash", .ofJson (.string chunk.hash.token))]

/-- The typed value of a chunk, if its payload fits. -/
def value? (chunk : RawChunk) : Option ChunkValue := ChunkValue.decode? chunk.name chunk.payload

end RawChunk

namespace CompilerOutput

def ofDocument? (document : Document) : Option CompilerOutput := do
  let fields ← document.recordMembers? ["header", "chunks"]
  return {
    header := ← Document.fieldOr? fields "header" {} Header.ofDocument?
    chunks := ← Document.fieldOr? fields "chunks" [] (Document.list? RawChunk.ofDocument?) }

def ofText? (text : String) : Option CompilerOutput := do ofDocument? (← Document.read? text)

/-- An output written as octets. What is not UTF-8 may stand only where it is skipped. -/
def ofOctets? (octets : List UInt8) : Option CompilerOutput := do
  ofDocument? ((← Document.ofOctets? octets).within Document.depthLimit)

def toDocument (output : CompilerOutput) : Document := .ofFields
  [("header", .ofJson output.header.toJson),
    ("chunks", .ofItems (output.chunks.map RawChunk.toDocument))]

/-- The text of an output, with every payload as it was. -/
def text (output : CompilerOutput) : String := output.toDocument.text?.getD ""

/-- The chunk of a name: the last one if there are several. -/
def chunk? (output : CompilerOutput) (name : ChunkName) : Option RawChunk :=
  output.chunks.reverse.find? (·.name = name)

/-- The fingerprint of each name that has a chunk; a later chunk replaces an earlier one. -/
def chunkHashes (output : CompilerOutput) : PerChunk (Option ContentHash) :=
  output.chunks.foldl (fun hashes chunk => hashes.set chunk.name (some chunk.hash))
    (PerChunk.ofFn fun _ => none)

def distinctChunkCount (output : CompilerOutput) : Nat := output.chunkHashes.entries.length

end CompilerOutput

/-- Fingerprints by chunk name as JSON. -/
def hashesToJson (hashes : PerChunk (Option ContentHash)) : Json :=
  .object (hashes.entries.map fun (name, hash) => (name.text, .string hash.token))

end LiveCompile
