import LiveCompile.Json.Record

/-! The facts a story asserts. -/

namespace LiveCompile

structure Fact where
  subject : String
  predicate : String
  object : Json
  extra : Fields Json
  deriving Inhabited, Repr

structure FactSet where
  facts : List Fact
  deriving Inhabited, Repr

namespace Fact

def ofDocument? (document : Document) : Option Fact := do
  let fields ← document.members?
  return {
    subject := ← Document.fieldOr? fields "subject" "" Document.string?
    predicate := ← Document.fieldOr? fields "predicate" "" Document.string?
    object := ← Document.fieldOr? fields "object" .null Document.json?
    extra := ← Document.others? fields ["subject", "predicate", "object"] }

def toJson (fact : Fact) : Json := .object
  ([("subject", .string fact.subject), ("predicate", .string fact.predicate),
    ("object", fact.object)] ++ fact.extra)

end Fact

namespace FactSet

def empty : FactSet := ⟨[]⟩

def ofDocument? (document : Document) : Option FactSet := do
  let fields ← document.recordMembers? ["facts"]
  return ⟨← Document.fieldOr? fields "facts" [] (Document.list? Fact.ofDocument?)⟩

def toJson (set : FactSet) : Json := .object [("facts", .array (set.facts.map Fact.toJson))]

def about (set : FactSet) (subject : String) : List Fact :=
  set.facts.filter (·.subject == subject)

end FactSet

end LiveCompile
