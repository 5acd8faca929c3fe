import LiveCompile.Chunk.Name
import LiveCompile.Chunk.SymbolTable
import LiveCompile.Chunk.FactSet
import LiveCompile.Chunk.Index
import LiveCompile.Chunk.Diagnostics
import LiveCompile.Chunk.World

/-! The typed value of a chunk of any name. -/

namespace LiveCompile

inductive ChunkValue where
  | syntaxTree (value : SyntaxTree)
  | symbolTable (value : SymbolTable)
  | factSet (value : FactSet)
  | propertyDependencyIndex (value : PropertyDependencyIndex)
  | definitionIndex (value : DefinitionIndex)
  | compiledWorld (value : ResolvedWorld)
  | diagnostics (value : Diagnostics)
  deriving Inhabited, Repr

namespace ChunkValue

/-- The chunk a value belongs to. -/
def name : ChunkValue → ChunkName
  | syntaxTree _ => .syntaxTree
  | symbolTable _ => .symbolTable
  | factSet _ => .factSet
  | propertyDependencyIndex _ => .propertyDependencyIndex
  | definitionIndex _ => .definitionIndex
  | compiledWorld _ => .compiledWorld
  | diagnostics _ => .diagnostics

/-- The value of a chunk that has never been seen. -/
def empty : ChunkName → ChunkValue
  | .syntaxTree => syntaxTree .empty
  | .symbolTable => symbolTable .empty
  | .factSet => factSet .empty
  | .propertyDependencyIndex => propertyDependencyIndex .empty
  | .definitionIndex => definitionIndex .empty
  | .compiledWorld => compiledWorld .empty
  | .diagnostics => diagnostics .empty

/-- The value of a payload that fits the schema of its chunk. -/
def ofDocument? : ChunkName → Document → Option ChunkValue
  | .syntaxTree, document => (SyntaxTree.ofDocument? document).map syntaxTree
  | .symbolTable, document => (SymbolTable.ofDocument? document).map symbolTable
  | .factSet, document => (FactSet.ofDocument? document).map factSet
  | .propertyDependencyIndex, document =>
    (PropertyDependencyIndex.ofDocument? document).map propertyDependencyIndex
  | .definitionIndex, document => (DefinitionIndex.ofDocument? document).map definitionIndex
  | .compiledWorld, document => (ResolvedWorld.ofDocument? document).map compiledWorld
  | .diagnostics, document => (Diagnostics.ofDocument? document).map diagnostics

/-- The value of a payload text. -/
def decode? (name : ChunkName) (payload : String) : Option ChunkValue := do
  ofDocument? name (← Document.read? payload)

/-- The typed value as JSON; of a world the normalized one. -/
def toJson : ChunkValue → Json
  | syntaxTree value => value.toJson
  | symbolTable value => value.toJson
  | factSet value => value.toJson
  | propertyDependencyIndex value => value.toJson
  | definitionIndex value => value.toJson
  | compiledWorld value => value.world.toJson
  | diagnostics value => value.toJson

theorem name_empty (name : ChunkName) : (empty name).name = name := by cases name <;> rfl

theorem name_of_ofDocument? {name : ChunkName} {document : Document} {value : ChunkValue}
    (read : ofDocument? name document = some value) : value.name = name := by
  cases name <;>
    · simp only [ofDocument?, Option.map_eq_some_iff] at read
      obtain ⟨_, _, rfl⟩ := read
      rfl

theorem compiledWorld_of_name {value : ChunkValue} (named : value.name = .compiledWorld) :
    ∃ world, value = .compiledWorld world := by
  cases value with
  | compiledWorld world => exact ⟨world, rfl⟩
  | _ => cases named

theorem diagnostics_of_name {value : ChunkValue} (named : value.name = .diagnostics) :
    ∃ diagnostics, value = .diagnostics diagnostics := by
  cases value with
  | diagnostics diagnostics => exact ⟨diagnostics, rfl⟩
  | _ => cases named

end ChunkValue

end LiveCompile
