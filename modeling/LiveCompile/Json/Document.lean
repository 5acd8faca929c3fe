import LiveCompile.Json.Basic

/-! JSON documents as they are written. A document keeps the text of each of its values
and all members of an object, repeated names included. A value that follows the grammar
but cannot be represented (a number beyond the finite range, a string with half a
surrogate pair or octets that are not UTF-8, an object with such a name) is known by its
text only: readers of a typed record refuse it, while a member nobody asks for and a
payload kept as text may be anything that follows the grammar. -/

namespace LiveCompile

/-- Where something is written: the input from its first octet on, and what follows it,
which is a tail of that input. -/
structure Span where
  input : List UInt8
  rest : List UInt8 := []
  deriving Inhabited

/-- The octets of a span. -/
def Span.octets (span : Span) : List UInt8 :=
  span.input.take (span.input.length - span.rest.length)

inductive Document where
  | verbatim (span : Span)
  | null
  | bool (value : Bool)
  | number (span : Span) (value : Number)
  | string (span : Span) (value : String)
  | array (span : Span) (items : List Document)
  | object (span : Span) (fields : List (String × Document))
  deriving Inhabited

namespace Document

def octets (text : String) : List UInt8 := text.toUTF8.toList

/-- A text that stands alone. -/
def alone (text : String) : Span := ⟨octets text, []⟩

/-- The octets a value was written as. -/
def source : Document → List UInt8
  | verbatim span => span.octets
  | null => octets "null"
  | bool value => octets (if value then "true" else "false")
  | number span _ => span.octets
  | string span _ => span.octets
  | array span _ => span.octets
  | object span _ => span.octets

/-- The text of a value whose octets are UTF-8. -/
def text? (document : Document) : Option String :=
  String.fromUTF8? ⟨document.source.toArray⟩

/-- Space, line feed, carriage return and tab. -/
def isBlank (octet : UInt8) : Bool := octet = 32 || octet = 10 || octet = 13 || octet = 9

def skipBlanks (input : List UInt8) : List UInt8 := input.dropWhile isBlank

/-- What is left after a given start. -/
def after? : List UInt8 → List UInt8 → Option (List UInt8)
  | [], input => some input
  | _ :: _, [] => none
  | expected :: more, octet :: rest => if expected = octet then after? more rest else none

/-- A piece of a string literal: an octet of its text, or a code unit given by number. -/
inductive Piece where
  | octet (value : UInt8)
  | unit (value : Nat)
  deriving DecidableEq, Repr

def hexValue? (octet : UInt8) : Option Nat :=
  if 48 ≤ octet && octet ≤ 57 then some (octet.toNat - 48)
  else if 97 ≤ octet && octet ≤ 102 then some (octet.toNat - 87)
  else if 65 ≤ octet && octet ≤ 70 then some (octet.toNat - 55)
  else none

/-- The octet that a backslash and a letter stand for. -/
def shortEscape? (letter : UInt8) : Option UInt8 :=
  if letter = 34 || letter = 92 || letter = 47 then some letter
  else if letter = 98 then some 8
  else if letter = 102 then some 12
  else if letter = 110 then some 10
  else if letter = 114 then some 13
  else if letter = 116 then some 9
  else none

/-- The pieces of a string literal after its opening quote, and what follows the closing
one. -/
def pieces? : List UInt8 → Option (List Piece × List UInt8)
  | [] => none
  | 34 :: rest => some ([], rest)
  | 92 :: 117 :: a :: b :: c :: d :: rest => do
    let high := (← hexValue? a) * 16 + (← hexValue? b)
    let unit := high * 256 + (← hexValue? c) * 16 + (← hexValue? d)
    let (more, rest) ← pieces? rest
    return (.unit unit :: more, rest)
  | 92 :: letter :: rest => do
    let octet ← shortEscape? letter
    let (more, rest) ← pieces? rest
    return (.octet octet :: more, rest)
  | octet :: rest =>
    if octet < 32 || octet = 92 then none
    else do
      let (more, rest) ← pieces? rest
      return (.octet octet :: more, rest)

def isHighSurrogate (unit : Nat) : Bool := 0xD800 ≤ unit && unit < 0xDC00

def isLowSurrogate (unit : Nat) : Bool := 0xDC00 ≤ unit && unit < 0xE000

/-- The octets that pieces stand for: two surrogates in a row are one character, half a
pair is refused. -/
def encoded? : List Piece → Option (List UInt8)
  | [] => some []
  | .octet value :: rest => (encoded? rest).map (value :: ·)
  | .unit high :: .unit low :: rest =>
    if isHighSurrogate high then
      if isLowSurrogate low then do
        let character := Char.ofNat (0x10000 + (high - 0xD800) * 0x400 + (low - 0xDC00))
        return String.utf8EncodeChar character ++ (← encoded? rest)
      else none
    else if isLowSurrogate high then none
    else (encoded? (.unit low :: rest)).map (String.utf8EncodeChar (Char.ofNat high) ++ ·)
  | .unit value :: rest =>
    if isHighSurrogate value || isLowSurrogate value then none
    else (encoded? rest).map (String.utf8EncodeChar (Char.ofNat value) ++ ·)

def decoded? (pieces : List Piece) : Option String := do
  String.fromUTF8? ⟨(← encoded? pieces).toArray⟩

def ofNumber (span : Span) : Option Number → Document
  | some value => number span value
  | none => verbatim span

def ofString (span : Span) : Option String → Document
  | some value => string span value
  | none => verbatim span

/-- An object whose names can all be represented. -/
def ofMembers (span : Span) (members : List (Option String × Document)) : Document :=
  match members.mapM fun (name, value) => name.map (·, value) with
  | some fields => object span fields
  | none => verbatim span

mutual

/-- A value at the start of the input, and the rest. The first argument bounds the calls. -/
def readValue? : Nat → List UInt8 → Option (Document × List UInt8)
  | 0, _ => none
  | _ + 1, [] => none
  | steps + 1, octet :: rest =>
    if octet = 110 then (after? (octets "ull") rest).map (null, ·)
    else if octet = 116 then (after? (octets "rue") rest).map (bool true, ·)
    else if octet = 102 then (after? (octets "alse") rest).map (bool false, ·)
    else if octet = 34 then do
      let (pieces, left) ← pieces? rest
      return (ofString ⟨octet :: rest, left⟩ (decoded? pieces), left)
    else if octet = 91 then do
      let (items, left) ← match skipBlanks rest with
        | 93 :: left => some ([], left)
        | input => readItems? steps input
      return (array ⟨octet :: rest, left⟩ items, left)
    else if octet = 123 then do
      let (members, left) ← match skipBlanks rest with
        | 125 :: left => some ([], left)
        | input => readMembers? steps input
      return (ofMembers ⟨octet :: rest, left⟩ members, left)
    else do
      let (literal, left) ← NumberLiteral.read? (octet :: rest)
      return (ofNumber ⟨octet :: rest, left⟩ literal.value?, left)

/-- Items up to the closing bracket. -/
def readItems? : Nat → List UInt8 → Option (List Document × List UInt8)
  | 0, _ => none
  | steps + 1, input => do
    let (item, rest) ← readValue? steps (skipBlanks input)
    match skipBlanks rest with
    | 93 :: left => return ([item], left)
    | 44 :: more =>
      let (items, left) ← readItems? steps more
      return (item :: items, left)
    | _ => none

/-- Members up to the closing brace. -/
def readMembers? : Nat → List UInt8 → Option (List (Option String × Document) × List UInt8)
  | 0, _ => none
  | steps + 1, input =>
    match skipBlanks input with
    | 34 :: rest => do
      let (name, rest) ← pieces? rest
      match skipBlanks rest with
      | 58 :: rest =>
        let (value, rest) ← readValue? steps (skipBlanks rest)
        match skipBlanks rest with
        | 125 :: left => return ([(decoded? name, value)], left)
        | 44 :: more =>
          let (members, left) ← readMembers? steps more
          return ((decoded? name, value) :: members, left)
        | _ => none
      | _ => none
    | _ => none

end

/-- A whole document, with blanks around it. Every second call takes an octet. -/
def ofOctets? (input : List UInt8) : Option Document := do
  let (document, rest) ← readValue? (2 * input.length + 2) (skipBlanks input)
  if (skipBlanks rest).isEmpty then some document else none

def ofText? (text : String) : Option Document := ofOctets? (octets text)

mutual

/-- Arrays and objects more than `depth` deep become known by their text only. -/
def within : Nat → Document → Document
  | 0, array span _ => verbatim span
  | 0, object span _ => verbatim span
  | depth + 1, array span items => array span (itemsWithin depth items)
  | depth + 1, object span fields => object span (fieldsWithin depth fields)
  | _, document => document

def itemsWithin (depth : Nat) : List Document → List Document
  | [] => []
  | item :: rest => within depth item :: itemsWithin depth rest

def fieldsWithin (depth : Nat) : List (String × Document) → List (String × Document)
  | [] => []
  | (name, value) :: rest => (name, within depth value) :: fieldsWithin depth rest

end

/-- How deep arrays and objects may be nested where their content is used. -/
def depthLimit : Nat := 127

/-- A document whose content is used, down to the depth limit. -/
def read? (text : String) : Option Document := (ofText? text).map (within depthLimit)

mutual

/-- Whether every part of a document can be represented. -/
def isRepresentable : Document → Bool
  | verbatim _ => false
  | array _ items => itemsRepresentable items
  | object _ fields => fieldsRepresentable fields
  | _ => true

def itemsRepresentable : List Document → Bool
  | [] => true
  | item :: rest => isRepresentable item && itemsRepresentable rest

def fieldsRepresentable : List (String × Document) → Bool
  | [] => true
  | (_, value) :: rest => isRepresentable value && fieldsRepresentable rest

end

/-- The name by which an object says that it stands for a document written in a text. -/
def enclosingName : String := "$serde_json::private::RawValue"

/-- The text of the document that an object stands for, if its first member says so. The
text must then be the only member; without it the object stands for nothing. -/
def enclosed? : List (String × Document) → Option (Option String)
  | [] => none
  | (name, value) :: rest =>
    if name = enclosingName then
      match value, rest with
      | string _ text, [] => some (some text)
      | _, _ => some none
    else none

mutual

/-- The value of a document whose every part can be represented; `read` gives the value of
a document that is enclosed as a text. -/
def jsonWith? (read : String → Option Json) : Document → Option Json
  | verbatim _ => none
  | null => some .null
  | bool value => some (.bool value)
  | number _ value => some (.number value)
  | string _ value => some (.string value)
  | array _ items => (itemValuesWith? read items).map .array
  | object _ fields =>
    match enclosed? fields with
    | some text => text.bind read
    | none => (fieldValuesWith? read fields).map fun members => .object (Fields.ofList members)

def itemValuesWith? (read : String → Option Json) : List Document → Option (List Json)
  | [] => some []
  | item :: rest => do return (← jsonWith? read item) :: (← itemValuesWith? read rest)

def fieldValuesWith? (read : String → Option Json) :
    List (String × Document) → Option (List (String × Json))
  | [] => some []
  | (name, value) :: rest => do
    return (name, ← jsonWith? read value) :: (← fieldValuesWith? read rest)

end

/-- The value of a document that is enclosed as a text, down to so many enclosures. -/
def enclosedValue? : Nat → String → Option Json
  | 0, _ => none
  | depth + 1, text => do (← read? text).jsonWith? (enclosedValue? depth)

/-- The value of a text; what it encloses is shorter than the text itself. -/
def valueOfText? (text : String) : Option Json := enclosedValue? (text.length + 1) text

def json? (document : Document) : Option Json := document.jsonWith? valueOfText?

def fieldValues? (fields : List (String × Document)) : Option (List (String × Json)) :=
  fieldValuesWith? valueOfText? fields

/-- The texts of parts in brackets, with commas between them. -/
def bracketed (opening closing : UInt8) (parts : List (List UInt8)) : List UInt8 :=
  opening :: [44].intercalate parts ++ [closing]

/-- An array of documents, written compactly. -/
def ofItems (items : List Document) : Document :=
  array ⟨bracketed 91 93 (items.map source), []⟩ items

/-- An object of documents, written compactly. -/
def ofFields (fields : List (String × Document)) : Document :=
  object ⟨bracketed 123 125 (fields.map fun (name, value) =>
    octets (Json.quoted name) ++ 58 :: value.source), []⟩ fields

mutual

/-- A value as a document, written compactly. -/
def ofJson : Json → Document
  | .null => null
  | .bool value => bool value
  | .number value => number (alone value.text) value
  | .string value => string (alone (Json.quoted value)) value
  | .array items => ofItems (itemsOfJson items)
  | .object fields => ofFields (fieldsOfJson fields)

def itemsOfJson : List Json → List Document
  | [] => []
  | item :: rest => ofJson item :: itemsOfJson rest

def fieldsOfJson : List (String × Json) → List (String × Document)
  | [] => []
  | (name, value) :: rest => (name, ofJson value) :: fieldsOfJson rest

end

end Document

/-- The value of a text, if it is one. -/
def Json.ofText? (text : String) : Option Json := Document.valueOfText? text

end LiveCompile
