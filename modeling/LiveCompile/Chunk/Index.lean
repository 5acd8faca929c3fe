import LiveCompile.Chunk.SyntaxTree

/-! Two indexes over a story, each a map from names in the order of the names: which
properties and rules depend on a property, and where a name is defined. -/

namespace LiveCompile

namespace Fields

variable {α : Type}

/-- Puts a member before the first greater name. -/
def insertSorted (name : String) (value : α) : Fields α → Fields α
  | [] => [(name, value)]
  | (other, old) :: rest =>
    if name < other then (name, value) :: (other, old) :: rest
    else (other, old) :: insertSorted name value rest

/-- The members in the order of their names. -/
def sorted (fields : Fields α) : Fields α :=
  fields.foldr (fun (name, value) rest => insertSorted name value rest) []

end Fields

structure PropertyDependencyIndex where
  dependencies : Fields (List String)
  deriving Inhabited, Repr

namespace PropertyDependencyIndex

def empty : PropertyDependencyIndex := ⟨[]⟩

def ofDocument? (document : Document) : Option PropertyDependencyIndex := do
  let fields ← document.recordMembers? ["dependencies"]
  let dependencies ← Document.fieldOr? fields "dependencies" []
    (Document.dictionary? (Document.list? Document.string?))
  return ⟨Fields.sorted dependencies⟩

def toJson (index : PropertyDependencyIndex) : Json := .object
  [("dependencies", .object (index.dependencies.map fun (name, dependents) =>
    (name, .array (dependents.map .string))))]

def dependents (index : PropertyDependencyIndex) (property : String) : List String :=
  (index.dependencies.get? property).getD []

end PropertyDependencyIndex

/-- A place in a source file. Lines and columns count from one. -/
structure DefinitionSite where
  file : String
  line : Nat
  column : Nat
  deriving Inhabited, DecidableEq, Repr

structure DefinitionIndex where
  definitions : Fields DefinitionSite
  deriving Inhabited, Repr

namespace DefinitionSite

def ofDocument? (document : Document) : Option DefinitionSite := do
  let fields ← document.recordMembers? ["file", "line", "column"]
  return {
    file := ← Document.fieldOr? fields "file" "" Document.string?
    line := ← Document.fieldOr? fields "line" 0 (Document.natUpTo? maxPosition)
    column := ← Document.fieldOr? fields "column" 0 (Document.natUpTo? maxPosition) }

def toJson (site : DefinitionSite) : Json := .object
  [("file", .string site.file), ("line", Json.nat site.line), ("column", Json.nat site.column)]

end DefinitionSite

namespace DefinitionIndex

def empty : DefinitionIndex := ⟨[]⟩

def ofDocument? (document : Document) : Option DefinitionIndex := do
  let fields ← document.recordMembers? ["definitions"]
  let definitions ← Document.fieldOr? fields "definitions" []
    (Document.dictionary? DefinitionSite.ofDocument?)
  return ⟨Fields.sorted definitions⟩

def toJson (index : DefinitionIndex) : Json := .object
  [("definitions", .object (index.definitions.map fun (name, site) => (name, site.toJson)))]

end DefinitionIndex

end LiveCompile
