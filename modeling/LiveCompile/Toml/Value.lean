/-! Values of a TOML document. Numbers with a fraction and dates are known to be well
formed; nothing here uses what they say. A table notes how it came about: implicitly, as
part of the name of another one, and by a dotted key. -/

namespace LiveCompile.Toml

/-- How a table came about. -/
structure Origin where
  implicit : Bool
  dotted : Bool
  deriving DecidableEq, Repr, Inhabited

inductive Value where
  | text (content : String)
  | integer (value : Int)
  | boolean (value : Bool)
  | float
  | moment
  | array (items : List Value)
  /-- a table in braces, complete where it stands -/
  | inlineTable (origin : Origin) (entries : List (String × Value))
  | table (origin : Origin) (entries : List (String × Value))
  /-- tables with one name, in order -/
  | tables (elements : List (List (String × Value)))
  deriving Inhabited, Repr

abbrev Entries := List (String × Value)

def Entries.get? (entries : Entries) (key : String) : Option Value :=
  (entries.find? (·.1 == key)).map (·.2)

/-- A new value for a key that is there, or a new entry at the end. -/
def Entries.put (entries : Entries) (key : String) (value : Value) : Entries :=
  match entries with
  | [] => [(key, value)]
  | (other, old) :: rest =>
    if other = key then (key, value) :: rest else (other, old) :: Entries.put rest key value

def Entries.erase (entries : Entries) (key : String) : Entries :=
  entries.filter (·.1 != key)

end LiveCompile.Toml
