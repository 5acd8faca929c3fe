import LiveCompile.Path

/-! The map of source buffers: the text of every file to compile, by path. Entries are in
the order of their paths and there is one entry for each list of components; it keeps the
spelling it was created with. An entry is dirty if its text was changed since it was
loaded or last marked clean. -/

namespace LiveCompile

structure Buffer where
  path : Path
  content : String
  dirty : Bool
  deriving DecidableEq, Repr, Inhabited

structure BufferMap where
  entries : List Buffer
  deriving DecidableEq, Repr, Inhabited

namespace BufferMap

def empty : BufferMap := ⟨[]⟩

def find? (map : BufferMap) (path : Path) : Option Buffer :=
  map.entries.find? fun entry => path.compare entry.path = .eq

def get? (map : BufferMap) (path : Path) : Option String := (map.find? path).map (·.content)

/-- The buffer at a path, under the path as it was asked for. -/
def buffer? (map : BufferMap) (path : Path) : Option Buffer :=
  (map.find? path).map fun entry => { entry with path }

def contains (map : BufferMap) (path : Path) : Bool := (map.find? path).isSome

def isDirty (map : BufferMap) (path : Path) : Bool := (map.find? path).any (·.dirty)

def hasDirty (map : BufferMap) : Bool := map.entries.any (·.dirty)

def paths (map : BufferMap) : List Path := map.entries.map (·.path)

def dirtyPaths (map : BufferMap) : List Path := (map.entries.filter (·.dirty)).map (·.path)

/-- Every path with its text, in order. -/
def getAll (map : BufferMap) : List (Path × String) :=
  map.entries.map fun entry => (entry.path, entry.content)

def size (map : BufferMap) : Nat := map.entries.length

def isEmpty (map : BufferMap) : Bool := map.entries.isEmpty

/-- Puts a text at a path: in an entry that is there, or in a new one at its place. -/
def store (path : Path) (content : String) (dirty : Bool) : List Buffer → List Buffer
  | [] => [⟨path, content, dirty⟩]
  | entry :: rest =>
    match path.compare entry.path with
    | .lt => ⟨path, content, dirty⟩ :: entry :: rest
    | .eq => ⟨entry.path, content, dirty⟩ :: rest
    | .gt => entry :: store path content dirty rest

/-- A change by the editor. The text that is already there is no change. -/
def set (map : BufferMap) (path : Path) (content : String) : Bool × BufferMap :=
  if map.get? path = some content then (false, map)
  else (true, ⟨store path content true map.entries⟩)

/-- A text from disk, which is no change by the editor. -/
def load (map : BufferMap) (path : Path) (content : String) : BufferMap :=
  ⟨store path content false map.entries⟩

def remove (map : BufferMap) (path : Path) : Bool × BufferMap :=
  (map.contains path, ⟨map.entries.filter fun entry => path.compare entry.path ≠ .eq⟩)

def markClean (map : BufferMap) (path : Path) : BufferMap :=
  ⟨map.entries.map fun entry =>
    if path.compare entry.path = .eq then { entry with dirty := false } else entry⟩

def markAllClean (map : BufferMap) : BufferMap :=
  ⟨map.entries.map fun entry => { entry with dirty := false }⟩

section
variable {map : BufferMap} {path : Path} {content : String}

theorem set_same (same : (map.set path content).1 = false) : (map.set path content).2 = map := by
  unfold set at *
  split <;> simp_all

theorem remove_absent (absent : (map.remove path).1 = false) : (map.remove path).2 = map := by
  have kept : ∀ entry ∈ map.entries, path.compare entry.path ≠ .eq := by
    simpa [remove, contains, find?] using absent
  simp only [remove]
  congr 1
  rw [List.filter_eq_self]
  intro entry member
  simpa using kept entry member

@[simp] theorem getAll_markClean : (map.markClean path).getAll = map.getAll := by
  simp only [markClean, getAll, List.map_map]
  apply List.map_congr_left
  intro entry _
  simp only [Function.comp_apply]
  split <;> rfl

@[simp] theorem getAll_markAllClean : map.markAllClean.getAll = map.getAll := by
  simp [markAllClean, getAll, Function.comp_def]

end

def ofFiles (files : List (Path × String)) : BufferMap :=
  files.foldl (fun map (path, content) => map.load path content) empty

end BufferMap

/-- The operations that may change a buffer map. -/
inductive BufferMap.Operation where
  | set (path : Path) (content : String)
  | load (path : Path) (content : String)
  | remove (path : Path)
  | markClean (path : Path)
  | markAllClean
  | clear
  deriving DecidableEq, Repr

/-- Whether an operation replaces texts without telling listeners. -/
def BufferMap.Operation.replaces : BufferMap.Operation → Bool
  | .load .. | .clear => true
  | _ => false

/-- What an operation leaves: the answer of `set` and `remove`, the path to tell
listeners about if there was a change, and the map. -/
structure BufferMap.Effect where
  changed : Option Bool
  notified : Option Path
  map : BufferMap

namespace BufferMap

def answered (path : Path) (outcome : Bool × BufferMap) : Effect :=
  ⟨some outcome.1, if outcome.1 then some path else none, outcome.2⟩

def apply (map : BufferMap) : Operation → Effect
  | .set path content => answered path (map.set path content)
  | .load path content => ⟨none, none, map.load path content⟩
  | .remove path => answered path (map.remove path)
  | .markClean path => ⟨none, none, map.markClean path⟩
  | .markAllClean => ⟨none, none, map.markAllClean⟩
  | .clear => ⟨none, none, empty⟩

/-- An operation that listeners are not told about leaves the texts as they are, unless it
replaces them without telling. -/
theorem getAll_unnotified {map : BufferMap} {operation : Operation}
    (unnotified : (map.apply operation).notified = none) (kept : operation.replaces = false) :
    (map.apply operation).map.getAll = map.getAll := by
  cases operation with
  | set path content => rw [apply, answered, set_same (by simpa [apply, answered] using unnotified)]
  | remove path => rw [apply, answered, remove_absent (by simpa [apply, answered] using unnotified)]
  | markClean path => exact getAll_markClean
  | markAllClean => exact getAll_markAllClean
  | load | clear => cases kept

end BufferMap

/-- Questions about a buffer map. -/
inductive BufferMap.Query where
  | get (path : Path)
  | buffer (path : Path)
  | getAll
  | contains (path : Path)
  | isDirty (path : Path)
  | listing
  deriving DecidableEq, Repr

end LiveCompile
