import LiveCompile.Json.Number

/-! JSON values with ordered members, the operations on member lists, and the compact
text of a value. -/

namespace LiveCompile

inductive Json where
  | null
  | bool (value : Bool)
  | number (value : Number)
  | string (value : String)
  | array (items : List Json)
  | object (fields : List (String × Json))
  deriving Inhabited, Repr

/-- Members in order; an operation here keeps names unique if they were. -/
abbrev Fields (α : Type) := List (String × α)

namespace Fields

variable {α : Type}

def get? (fields : Fields α) (name : String) : Option α :=
  (fields.find? (·.1 == name)).map (·.2)

/-- A new value for a name that is present keeps the name's place; a new name goes to
the end. -/
def insert (fields : Fields α) (name : String) (value : α) : Fields α :=
  match fields with
  | [] => [(name, value)]
  | (other, old) :: rest =>
    if other = name then (name, value) :: rest else (other, old) :: insert rest name value

/-- The last member takes the place of the removed one. -/
def swapRemove (fields : Fields α) (name : String) : Fields α :=
  match fields with
  | [] => []
  | (other, old) :: rest =>
    if other = name then
      match rest.getLast? with
      | none => []
      | some last => last :: rest.dropLast
    else (other, old) :: swapRemove rest name

/-- Of members with one name the first gives the place and the last the value. -/
def ofList (members : List (String × α)) : Fields α :=
  members.foldl (fun fields (name, value) => insert fields name value) []

end Fields

namespace Json

def hexDigit (n : Nat) : Char := "0123456789abcdef".toList.getD n '0'

/-- The written form of a character inside a string. -/
def escapedChar (c : Char) : List Char :=
  match c with
  | '"' => ['\\', '"']
  | '\\' => ['\\', '\\']
  | '\x08' => ['\\', 'b']
  | '\x0c' => ['\\', 'f']
  | '\n' => ['\\', 'n']
  | '\r' => ['\\', 'r']
  | '\t' => ['\\', 't']
  | c =>
    if c.toNat < 32 then ['\\', 'u', '0', '0', hexDigit (c.toNat / 16), hexDigit (c.toNat % 16)]
    else [c]

def quoted (text : String) : String :=
  "\"" ++ String.ofList (text.toList.flatMap escapedChar) ++ "\""

/-- Texts in brackets, with commas between them. -/
def bracketed (opening closing : String) (parts : List String) : String :=
  opening ++ ",".intercalate parts ++ closing

mutual

/-- The compact text of a value. -/
def text : Json → String
  | .null => "null"
  | .bool true => "true"
  | .bool false => "false"
  | .number value => value.text
  | .string value => quoted value
  | .array items => bracketed "[" "]" (itemTexts items)
  | .object fields => bracketed "\x7b" "\x7d" (fieldTexts fields)

def itemTexts : List Json → List String
  | [] => []
  | item :: rest => item.text :: itemTexts rest

def fieldTexts : List (String × Json) → List String
  | [] => []
  | (name, value) :: rest => (quoted name ++ ":" ++ value.text) :: fieldTexts rest

end

def nat (n : Nat) : Json := .number (.int n)

def float (x : Binary64) : Json := .number (.float x)

def ofOption {α : Type} (toJson : α → Json) : Option α → Json
  | none => .null
  | some value => toJson value

end Json

end LiveCompile
