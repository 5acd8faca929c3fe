import LiveCompile.Output
import LiveCompile.Path

/-! Events of a project: the course of its compiles, and what the editor shows. -/

namespace LiveCompile

/-- The sizes that are reported with a finished compile. -/
structure WorldSummary where
  entities : Nat
  locations : Nat
  exits : Nat
  deriving DecidableEq, Repr, Inhabited

inductive Event where
  /-- the compiler is about to be called -/
  | compilerStarted (compileId : Nat) (timestamp : Int) (inputFileCount : Nat)
  /-- the compile succeeded and its output was resolved; the duration is in milliseconds -/
  | compilerCompleted (compileId : Nat) (duration : Binary64)
      (chunkHashes : PerChunk (Option ContentHash)) (worldCounts : WorldSummary)
  /-- the compile failed and nothing was resolved -/
  | compilerError (compileId : Nat) (message : String)
  /-- the editor shows another file -/
  | activeFileChanged (path : Path)
  deriving Inhabited, Repr

namespace WorldSummary

def ofCounts (counts : WorldCounts) : WorldSummary :=
  ⟨counts.entities, counts.locations, counts.exits⟩

def ofDocument? (document : Document) : Option WorldSummary := do
  let fields ← document.recordMembers? ["entities", "locations", "exits"]
  let count (name : String) := Document.field? fields name (Document.natUpTo? maxCount)
  return ⟨← count "entities", ← count "locations", ← count "exits"⟩

def toJson (counts : WorldSummary) : Json := .object
  [("entities", Json.nat counts.entities), ("locations", Json.nat counts.locations),
    ("exits", Json.nat counts.exits)]

end WorldSummary

/-- Fingerprints by chunk name. -/
def chunkHashes? (document : Document) : Option (PerChunk (Option ContentHash)) := do
  let members ← document.members?
  members.foldlM (fun hashes (name, value) => do
    return hashes.set (← ChunkName.ofText? name) (some (← RawChunk.hash? value)))
    (PerChunk.ofFn fun _ => none)

namespace Event

def name : Event → String
  | compilerStarted .. => "compiler.started"
  | compilerCompleted .. => "compiler.completed"
  | compilerError .. => "compiler.error"
  | activeFileChanged _ => "editor.activeFileChanged"

def compileId? : Event → Option Nat
  | compilerStarted compileId .. => some compileId
  | compilerCompleted compileId .. => some compileId
  | compilerError compileId _ => some compileId
  | activeFileChanged _ => none

/-- Whether the editor raised the event. -/
def isEditor : Event → Bool
  | activeFileChanged _ => true
  | _ => false

/-- Whether the event ends a compile. -/
def isTerminal : Event → Bool
  | compilerCompleted .. => true
  | compilerError .. => true
  | _ => false

/-- The fields of each kind of event. -/
def fieldNames : String → Option (List String)
  | "compiler.started" => some ["compileId", "timestamp", "inputFileCount"]
  | "compiler.completed" => some ["compileId", "durationMs", "chunkHashes", "worldCounts"]
  | "compiler.error" => some ["compileId", "error"]
  | "editor.activeFileChanged" => some ["path"]
  | _ => none

def path? (document : Document) : Option Path := document.string?.map Path.ofText

def ofDocument? (document : Document) : Option Event := do
  let (kind, fields) ← document.tagged? "type" fieldNames
  let compileId := Document.field? fields "compileId" (Document.natUpTo? maxCount)
  match kind with
  | "compiler.started" =>
    return .compilerStarted (← compileId) (← Document.field? fields "timestamp" timestamp?)
      (← Document.field? fields "inputFileCount" (Document.natUpTo? maxCount))
  | "compiler.completed" =>
    return .compilerCompleted (← compileId)
      (← Document.field? fields "durationMs" Document.float?)
      (← Document.field? fields "chunkHashes" chunkHashes?)
      (← Document.field? fields "worldCounts" WorldSummary.ofDocument?)
  | "compiler.error" =>
    return .compilerError (← compileId) (← Document.field? fields "error" Document.string?)
  | "editor.activeFileChanged" => return .activeFileChanged (← Document.field? fields "path" path?)
  | _ => none

def ofText? (text : String) : Option Event := do ofDocument? (← Document.read? text)

/-- The fields of an event; a path must be text. -/
def fields? : Event → Option (Fields Json)
  | compilerStarted compileId timestamp inputFileCount =>
    some [("compileId", Json.nat compileId), ("timestamp", .number (.int timestamp)),
      ("inputFileCount", Json.nat inputFileCount)]
  | compilerCompleted compileId duration hashes counts =>
    some [("compileId", Json.nat compileId), ("durationMs", Json.float duration),
      ("chunkHashes", hashesToJson hashes), ("worldCounts", counts.toJson)]
  | compilerError compileId message =>
    some [("compileId", Json.nat compileId), ("error", .string message)]
  | activeFileChanged path => path.text?.map fun text => [("path", .string text)]

/-- The kind that is written with the fields. -/
def tag : Event → String
  | compilerStarted .. => "compiler.started"
  | compilerCompleted .. => "compiler.completed"
  | compilerError .. => "compiler.error"
  | activeFileChanged _ => "editor.activeFileChanged"

def toJson? (event : Event) : Option Json :=
  event.fields?.map fun fields => .object (("type", .string event.tag) :: fields)

end Event

end LiveCompile
