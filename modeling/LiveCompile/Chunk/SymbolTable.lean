import LiveCompile.Chunk.SyntaxTree

/-! The symbols a story declares. -/

namespace LiveCompile

structure Symbol where
  name : String
  kind : String
  file : Option String
  line : Option Nat
  extra : Fields Json
  deriving Inhabited, Repr

/-- Symbols in the order of their declarations. -/
structure SymbolTable where
  symbols : List Symbol
  deriving Inhabited, Repr

namespace Symbol

def ofDocument? (document : Document) : Option Symbol := do
  let fields ← document.members?
  return {
    name := ← Document.fieldOr? fields "name" "" Document.string?
    kind := ← Document.fieldOr? fields "kind" "" Document.string?
    file := ← Document.fieldOr? fields "file" none (Document.nullable? Document.string?)
    line := ← Document.fieldOr? fields "line" none
      (Document.nullable? (Document.natUpTo? maxPosition))
    extra := ← Document.others? fields ["name", "kind", "file", "line"] }

def toJson (symbol : Symbol) : Json := .object
  ([("name", .string symbol.name), ("kind", .string symbol.kind)]
    ++ Json.optionalMember "file" .string symbol.file
    ++ Json.optionalMember "line" Json.nat symbol.line ++ symbol.extra)

end Symbol

namespace SymbolTable

def empty : SymbolTable := ⟨[]⟩

def ofDocument? (document : Document) : Option SymbolTable := do
  let fields ← document.recordMembers? ["symbols"]
  return ⟨← Document.fieldOr? fields "symbols" [] (Document.list? Symbol.ofDocument?)⟩

def toJson (table : SymbolTable) : Json :=
  .object [("symbols", .array (table.symbols.map Symbol.toJson))]

/-- The first symbol of a name. -/
def get? (table : SymbolTable) (name : String) : Option Symbol :=
  table.symbols.find? (·.name == name)

end SymbolTable

end LiveCompile
