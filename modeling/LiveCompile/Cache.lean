import LiveCompile.Output

/-! Memoization of chunk values by fingerprint. For each chunk name the cache holds the
last payload that could be decoded. A chunk with the fingerprint of the entry is not
decoded again; a chunk that is absent or does not decode gives the entry's value; without
an entry the value is the empty default of its name.

A value that is handed out is shared, so each has a token: two values with one token are
the same value in memory, not merely equal. -/

namespace LiveCompile

structure Shared (α : Type) where
  token : Nat
  value : α
  deriving Inhabited, Repr

/-- Whether two shared values are one. -/
def Shared.same {α : Type} (a b : Shared α) : Bool := a.token = b.token

namespace ChunkValue

/-- A shared value of a given chunk; values of other chunks are refused. -/
def ofName? (name : ChunkName) (shared : Shared ChunkValue) : Option (Shared ChunkValue) :=
  if shared.value.name = name then some shared else none

end ChunkValue

/-- How the value of a chunk was obtained. -/
inductive Provenance where
  | reused
  | resolved
  | retained
  | defaulted
  deriving DecidableEq, Repr, Inhabited

def Provenance.text : Provenance → String
  | reused => "reused"
  | resolved => "resolved"
  | retained => "retained"
  | defaulted => "defaulted"

structure CacheEntry where
  hash : ContentHash
  value : Shared ChunkValue
  deriving Inhabited, Repr

/-- The entries, the shared defaults and the first token that is not yet in use. -/
structure Cache where
  entries : PerChunk (Option CacheEntry)
  defaults : PerChunk (Shared ChunkValue)
  nextToken : Nat
  deriving Inhabited, Repr

/-- A compiler output with a value for each chunk name. -/
structure ResolvedOutput where
  header : Header
  values : PerChunk (Shared ChunkValue)
  provenance : PerChunk Provenance
  deriving Inhabited, Repr

namespace ResolvedOutput

def value (output : ResolvedOutput) (name : ChunkName) : ChunkValue :=
  (output.values.get name).value

def world (output : ResolvedOutput) : ResolvedWorld :=
  match output.value .compiledWorld with
  | .compiledWorld world => world
  | _ => .empty

def diagnostics (output : ResolvedOutput) : Diagnostics :=
  match output.value .diagnostics with
  | .diagnostics diagnostics => diagnostics
  | _ => .empty

/-- Sizes of the world that is held, whatever the header claims. -/
def worldCounts (output : ResolvedOutput) : WorldCounts := .ofWorld output.world.world

def hasErrors (output : ResolvedOutput) : Bool := output.diagnostics.hasErrors

end ResolvedOutput

namespace Cache

/-- A cache without entries; the defaults take the first tokens. -/
def empty : Cache where
  entries := .ofFn fun _ => none
  defaults := .ofFn fun name => ⟨name.index, .empty name⟩
  nextToken := ChunkName.all.length

/-- The default of a name, shared by all who get it. -/
def defaultValue (cache : Cache) (name : ChunkName) : Shared ChunkValue :=
  (ChunkValue.ofName? name (cache.defaults.get name)).getD ⟨cache.nextToken, .empty name⟩

/-- The entry of a name, if it holds a value of that chunk. -/
def held? (cache : Cache) (name : ChunkName) : Option CacheEntry := do
  let entry ← cache.entries.get name
  let value ← ChunkValue.ofName? name entry.value
  return { entry with value }

/-- The value of a name when there is nothing new to decode. -/
def fallback (cache : Cache) (name : ChunkName) : Shared ChunkValue × Provenance :=
  match cache.held? name with
  | some entry => (entry.value, .retained)
  | none => (cache.defaultValue name, .defaulted)

/-- Decodes a chunk and makes it the entry of its name. -/
def store (cache : Cache) (name : ChunkName) (chunk : RawChunk) (value : ChunkValue) :
    Shared ChunkValue × Cache :=
  let shared := ⟨cache.nextToken, value⟩
  (shared, { cache with
    entries := cache.entries.set name (some ⟨chunk.hash, shared⟩)
    nextToken := cache.nextToken + 1 })

/-- The value of one chunk name for an output. -/
def resolveChunk (cache : Cache) (output : CompilerOutput) (name : ChunkName) :
    (Shared ChunkValue × Provenance) × Cache :=
  match output.chunk? name with
  | none => (cache.fallback name, cache)
  | some chunk =>
    match (cache.held? name).filter (·.hash = chunk.hash) with
    | some entry => ((entry.value, .reused), cache)
    | none =>
      match ChunkValue.decode? name chunk.payload with
      | some value =>
        let (shared, cache) := cache.store name chunk value
        ((shared, .resolved), cache)
      | none => (cache.fallback name, cache)

/-- The values of some chunk names in turn. -/
def resolveChunks (output : CompilerOutput) (names : List ChunkName)
    (results : PerChunk (Shared ChunkValue × Provenance)) (cache : Cache) :
    PerChunk (Shared ChunkValue × Provenance) × Cache :=
  names.foldl (fun (results, cache) name =>
    let (result, cache) := cache.resolveChunk output name
    (results.set name result, cache)) (results, cache)

/-- The values of all chunk names for an output, and the cache afterwards. -/
def resolve (cache : Cache) (output : CompilerOutput) : ResolvedOutput × Cache :=
  let start := PerChunk.ofFn fun name => (cache.defaultValue name, .defaulted)
  let (results, cache) := resolveChunks output ChunkName.all start cache
  ({ header := output.header
     values := .ofFn fun name => (results.get name).1
     provenance := .ofFn fun name => (results.get name).2 }, cache)

/-- Drops every entry; the defaults stay. -/
def clear (cache : Cache) : Cache := { cache with entries := .ofFn fun _ => none }

def entry? (cache : Cache) (name : ChunkName) : Option CacheEntry := cache.entries.get name

/-- The names that have an entry, in the order of all names. -/
def names (cache : Cache) : List ChunkName := cache.entries.entries.map (·.1)

def size (cache : Cache) : Nat := cache.names.length

def isEmpty (cache : Cache) : Bool := cache.names.isEmpty

end Cache

end LiveCompile
