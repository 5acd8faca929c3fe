import LiveCompile.Chunk.Name

/-! One value for each chunk name. -/

namespace LiveCompile

structure PerChunk (α : Type) where
  syntaxTree : α
  symbolTable : α
  factSet : α
  propertyDependencyIndex : α
  definitionIndex : α
  compiledWorld : α
  diagnostics : α
  deriving Inhabited, Repr

namespace PerChunk

variable {α β : Type}

def get (table : PerChunk α) : ChunkName → α
  | .syntaxTree => table.syntaxTree
  | .symbolTable => table.symbolTable
  | .factSet => table.factSet
  | .propertyDependencyIndex => table.propertyDependencyIndex
  | .definitionIndex => table.definitionIndex
  | .compiledWorld => table.compiledWorld
  | .diagnostics => table.diagnostics

def ofFn (f : ChunkName → α) : PerChunk α where
  syntaxTree := f .syntaxTree
  symbolTable := f .symbolTable
  factSet := f .factSet
  propertyDependencyIndex := f .propertyDependencyIndex
  definitionIndex := f .definitionIndex
  compiledWorld := f .compiledWorld
  diagnostics := f .diagnostics

def set (table : PerChunk α) (name : ChunkName) (value : α) : PerChunk α :=
  ofFn fun other => if other = name then value else table.get other

@[simp] theorem get_ofFn (f : ChunkName → α) (name : ChunkName) : (ofFn f).get name = f name := by
  cases name <;> rfl

theorem get_set (table : PerChunk α) (name other : ChunkName) (value : α) :
    (table.set name value).get other = if other = name then value else table.get other := by
  simp [set]

theorem ext_get {table other : PerChunk α} (same : ∀ name, table.get name = other.get name) :
    table = other := by
  cases table
  cases other
  simp only [PerChunk.mk.injEq]
  exact ⟨same .syntaxTree, same .symbolTable, same .factSet, same .propertyDependencyIndex,
    same .definitionIndex, same .compiledWorld, same .diagnostics⟩

/-- The names with their values, in the order of all names. -/
def toList (table : PerChunk α) : List (ChunkName × α) :=
  ChunkName.all.map fun name => (name, table.get name)

/-- The names that have a value, in the order of all names. -/
def entries (table : PerChunk (Option α)) : List (ChunkName × α) :=
  ChunkName.all.filterMap fun name => (table.get name).map fun value => (name, value)

end PerChunk

end LiveCompile
