import LiveCompile.Json.Document

/-! Reading typed values out of documents. A record is an object with a known member at
most once, or an array with the values of its fields in order; an open record is an
object whose other members are kept. -/

namespace LiveCompile.Document

variable {α : Type}

def string? : Document → Option String
  | string _ value => some value
  | _ => none

def number? : Document → Option Number
  | number _ value => some value
  | _ => none

def natUpTo? (bound : Nat) (document : Document) : Option Nat := do
  (← document.number?).natUpTo? bound

def int? (document : Document) : Option Int := do (← document.number?).int?

def float? (document : Document) : Option Binary64 := document.number?.map Number.toBinary64

def list? (read : Document → Option α) : Document → Option (List α)
  | array _ items => items.mapM read
  | _ => none

/-- A value that may be `null`. -/
def nullable? (read : Document → Option α) : Document → Option (Option α)
  | null => some none
  | document => (read document).map some

/-- The members of an object. -/
def members? : Document → Option (Fields Document)
  | object _ fields => some fields
  | _ => none

/-- The members of a record with the given fields. An array may be shorter than the
record but not longer. -/
def recordMembers? (names : List String) : Document → Option (Fields Document)
  | object _ fields => some fields
  | array _ items => if items.length ≤ names.length then some (names.zip items) else none
  | _ => none

/-- A name without content: a text, or an object that maps the text to `null`. -/
def label? : Document → Option String
  | string _ value => some value
  | object _ [(name, null)] => some name
  | _ => none

/-- An object as a map from names to values; a later member replaces an earlier one. -/
def dictionary? (read : Document → Option α) : Document → Option (Fields α)
  | object _ fields => do
    return Fields.ofList (← fields.mapM fun (name, value) => (read value).map (name, ·))
  | _ => none

/-- The member of a name: nothing at all if the name is there twice. -/
def single? (fields : Fields α) (name : String) : Option (Option α) :=
  match fields.filter (·.1 == name) with
  | [] => some none
  | [(_, value)] => some (some value)
  | _ => none

/-- A field that must be there. -/
def field? (fields : Fields Document) (name : String) (read : Document → Option α) : Option α := do
  read (← (← single? fields name))

/-- A field that has a value of its own when it is absent. -/
def fieldOr? (fields : Fields Document) (name : String) (absent : α)
    (read : Document → Option α) : Option α := do
  match ← single? fields name with
  | none => return absent
  | some document => read document

/-- The members beside the known ones, in order. -/
def others? (fields : Fields Document) (known : List String) : Option (Fields Json) := do
  let members ← fieldValues? (fields.filter fun (name, _) => !known.contains name)
  return Fields.ofList members

/-- A record of one of several kinds. The kind is the text of the member `tag`, or the
first item of an array; `kinds` gives the fields of each kind. Every part of the document
must be representable, also where nobody asks for it. -/
def tagged? (tag : String) (kinds : String → Option (List String)) (document : Document) :
    Option (String × Fields Document) := do
  if !document.isRepresentable then none
  else match document with
  | object _ fields =>
    let kind ← field? fields tag string?
    let _ ← kinds kind
    return (kind, fields.filter (·.1 != tag))
  | array _ (string _ kind :: items) =>
    let names ← kinds kind
    if items.length ≤ names.length then return (kind, names.zip items) else none
  | _ => none

end LiveCompile.Document

namespace LiveCompile.Json

/-- A member that is written only if it has a value. -/
def optionalMember {α : Type} (name : String) (toJson : α → Json) : Option α → Fields Json
  | none => []
  | some value => [(name, toJson value)]

end LiveCompile.Json
