import LiveCompile.Json.Record

/-! The closed set of chunks a compile can emit. -/

namespace LiveCompile

inductive ChunkName where
  | syntaxTree
  | symbolTable
  | factSet
  | propertyDependencyIndex
  | definitionIndex
  | compiledWorld
  | diagnostics
  deriving DecidableEq, Repr, Inhabited

namespace ChunkName

/-- Every name, in the order of all listings. -/
def all : List ChunkName :=
  [syntaxTree, symbolTable, factSet, propertyDependencyIndex, definitionIndex, compiledWorld,
    diagnostics]

def text : ChunkName → String
  | syntaxTree => "syntaxTree"
  | symbolTable => "symbolTable"
  | factSet => "factSet"
  | propertyDependencyIndex => "propertyDependencyIndex"
  | definitionIndex => "definitionIndex"
  | compiledWorld => "compiledWorld"
  | diagnostics => "diagnostics"

def ofText? (text : String) : Option ChunkName := all.find? (·.text == text)

theorem mem_all (name : ChunkName) : name ∈ all := by cases name <;> decide

/-- What is said about a text that is no chunk name. -/
def unknownMessage (text : String) : String := "unknown chunk name '" ++ text ++ "'"

def ofDocument? (document : Document) : Option ChunkName := do ofText? (← document.label?)

/-- The place in the order of all names. -/
def index (name : ChunkName) : Nat := all.idxOf name

end ChunkName

end LiveCompile
