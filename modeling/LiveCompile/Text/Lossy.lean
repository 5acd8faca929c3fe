/-! Reading octets as UTF-8 when some of them may not be. Octets that do not belong to a
character are shown as U+FFFD: one for each octet that starts no character, and one for the
longest start of a character that is cut off. -/

namespace LiveCompile

/-- What the first octet of a character of several octets says: the bits it gives, the
least and the greatest second octet, and how many octets come after the second. -/
structure Utf8Lead where
  bits : Nat
  least : Nat
  greatest : Nat
  more : Nat
  deriving DecidableEq, Repr

def utf8Lead? (octet : Nat) : Option Utf8Lead :=
  if 0xC2 ≤ octet ∧ octet ≤ 0xDF then some ⟨octet - 0xC0, 0x80, 0xBF, 0⟩
  else if 0xE0 ≤ octet ∧ octet ≤ 0xEF then
    some ⟨octet - 0xE0, if octet = 0xE0 then 0xA0 else 0x80, if octet = 0xED then 0x9F else 0xBF, 1⟩
  else if 0xF0 ≤ octet ∧ octet ≤ 0xF4 then
    some ⟨octet - 0xF0, if octet = 0xF0 then 0x90 else 0x80, if octet = 0xF4 then 0x8F else 0xBF, 2⟩
  else none

def replacementCharacter : Char := Char.ofNat 0xFFFD

/-- The state between octets: either no character is begun, or one is, with the bits so far
and the octets that it still needs. -/
inductive Utf8State where
  | between
  | within (bits least greatest more : Nat)
  deriving DecidableEq, Repr

/-- Begins a character. Gives what is complete and the next state. -/
def Utf8State.enter (octet : Nat) : List Char × Utf8State :=
  if octet < 0x80 then ([Char.ofNat octet], .between)
  else
    match utf8Lead? octet with
    | some lead => ([], .within lead.bits lead.least lead.greatest lead.more)
    | none => ([replacementCharacter], .between)

def Utf8State.feed (octet : Nat) : Utf8State → List Char × Utf8State
  | .between => enter octet
  | .within bits least greatest more =>
    if least ≤ octet ∧ octet ≤ greatest then
      let bits := bits * 64 + (octet - 0x80)
      match more with
      | 0 => ([Char.ofNat bits], .between)
      | more + 1 => ([], .within bits 0x80 0xBF more)
    else
      let (chars, state) := enter octet
      (replacementCharacter :: chars, state)

def lossyChars : Utf8State → List UInt8 → List Char
  | .between, [] => []
  | .within .., [] => [replacementCharacter]
  | state, octet :: rest =>
    let (chars, state) := state.feed octet.toNat
    chars ++ lossyChars state rest

/-- The text of octets. -/
def lossyText (octets : List UInt8) : String := String.ofList (lossyChars .between octets)

end LiveCompile
