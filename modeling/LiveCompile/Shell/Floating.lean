import LiveCompile.Binary64.Basic
import LiveCompile.Shell.Arithmetic
import LiveCompile.Shell.Program.Basic

/-! Numbers with a point: reading them from a text as exact ratios, rounding them to a binary
format, and writing them with a number of places. Writing rounds a half to the even digit. -/

namespace LiveCompile.Shell

/-- A number, or what takes its place. -/
inductive Floating where
  | finite (negative : Bool) (numerator denominator : Nat)
  | infinite (negative : Bool)
  | undefined (negative : Bool)
  deriving DecidableEq, Repr, Inhabited

namespace Floating

/-- A binary format: the bits of a significand, and the bounds of the exponent. -/
structure BinaryFormat where
  bits : Nat
  least : Int
  greatest : Int

def double : BinaryFormat := ⟨53, -1074, 971⟩

def extended : BinaryFormat := ⟨64, -16445, 16320⟩

def zero : Floating := .finite false 0 1

def ofInt (value : Int) : Floating := .finite (value < 0) value.natAbs 1

def isNegative : Floating → Bool
  | .finite negative _ _ => negative
  | .infinite negative => negative
  | .undefined negative => negative

/-- The significand and the exponent of a positive ratio in a format; a half goes to the even
significand. -/
def nearest (format : BinaryFormat) (numerator denominator : Nat) : Nat × Int :=
  let guess : Int :=
    max format.least ((Nat.log2 numerator : Int) - (Nat.log2 denominator : Int) - format.bits)
  let ratio (exponent : Int) : Nat × Nat := Binary64.shiftedRatio numerator denominator exponent
  let exponent :=
    let (n, d) := ratio guess
    if n / d < Nat.pow 2 format.bits then guess else guess + 1
  let (n, d) := ratio exponent
  let significand := Binary64.roundedQuotient n d
  if significand = Nat.pow 2 format.bits then (Nat.pow 2 (format.bits - 1), exponent + 1)
  else (significand, exponent)

def ofScaled (negative : Bool) (significand : Nat) : Int → Floating
  | .ofNat shift => .finite negative (significand * Nat.pow 2 shift) 1
  | .negSucc shift => .finite negative significand (Nat.pow 2 (shift + 1))

/-- The nearest number in a format, and whether the number is out of its range. -/
def rounded (format : BinaryFormat) : Floating → Floating × Bool
  | .finite negative numerator denominator =>
    if numerator = 0 then (.finite negative 0 1, false)
    else
      let (significand, exponent) := nearest format numerator denominator
      let value := ofScaled negative significand exponent
      let isExact := match value with
        | .finite _ n d => n * denominator = numerator * d
        | _ => true
      if format.greatest < exponent then (.infinite negative, true)
      else (value, significand < Nat.pow 2 (format.bits - 1) && !isExact)
  | other => (other, false)

/-- The number that is written as digits with an exponent to a base. -/
def scaled (negative : Bool) (digits base : Nat) (exponent : Int) : Floating :=
  if digits = 0 then .finite negative 0 1
  else if 20000 < exponent then .infinite negative
  else if exponent < -20000 then .finite negative digits (Nat.pow base 20000)
  else
    match exponent with
    | .ofNat n => .finite negative (digits * Nat.pow base n) 1
    | .negSucc n => .finite negative digits (Nat.pow base (n + 1))

/-- The exponent after a letter, if digits follow it, and what is after it. -/
def exponentAfter (letter : Char) (text : Chars) : Int × Chars :=
  match text with
  | [] => (0, [])
  | c :: rest =>
    if c.toLower ≠ letter then (0, text)
    else
      let (negative, digits) := match rest with
        | '-' :: digits => (true, digits)
        | '+' :: digits => (false, digits)
        | digits => (false, digits)
      let value : Int := (natural? (digits.takeWhile Char.isDigit)).getD 0
      if digits.head?.any Char.isDigit then
        (if negative then -value else value, digits.dropWhile Char.isDigit)
      else (0, text)

/-- The digits around a point in a base: their value, how many follow the point, and what is
after them; nothing if there are none. -/
def digitsAround? (base : Nat) (text : Chars) : Option (Nat × Nat × Chars) :=
  let isDigit (c : Char) : Bool := (Expression.digitValue? base c).isSome
  let whole := text.takeWhile isDigit
  let rest := text.dropWhile isDigit
  let (places, rest) := match rest with
    | '.' :: after => (after.takeWhile isDigit, after.dropWhile isDigit)
    | rest => ([], rest)
  if whole.isEmpty && places.isEmpty then none
  else some (Expression.valueInBase base (whole ++ places), places.length, rest)

/-- Whether a text begins with a word in any case. -/
def beginsWith (word : String) (text : Chars) : Bool :=
  (text.take word.length).map Char.toLower = word.toList

/-- The number at the start of a text, as an exact ratio, and what follows it. -/
def read? (text : Chars) : Option (Floating × Chars) :=
  let text := text.dropWhile fun c => c = ' ' || ('\t' ≤ c && c ≤ '\r')
  let (negative, text) := match text with
    | '-' :: text => (true, text)
    | '+' :: text => (false, text)
    | text => (false, text)
  if beginsWith "infinity" text then some (.infinite negative, text.drop 8)
  else if beginsWith "inf" text then some (.infinite negative, text.drop 3)
  else if beginsWith "nan" text then some (.undefined negative, text.drop 3)
  else
    let hexadecimal := if beginsWith "0x" text then digitsAround? 16 (text.drop 2) else none
    match hexadecimal with
    | some (digits, places, rest) =>
      let (exponent, rest) := exponentAfter 'p' rest
      some (scaled negative digits 2 (exponent - 4 * places), rest)
    | none =>
      (digitsAround? 10 text).map fun (digits, places, rest) =>
        let (exponent, rest) := exponentAfter 'e' rest
        (scaled negative digits 10 (exponent - places), rest)

/-- A ratio with so many digits after the point. -/
def fixedDigits (places numerator denominator : Nat) : Chars :=
  let rounded := Binary64.roundedQuotient (numerator * Nat.pow 10 places) denominator
  let digits := decimal rounded
  let digits := List.replicate (places + 1 - digits.length) '0' ++ digits
  let whole := digits.take (digits.length - places)
  if places = 0 then whole else whole ++ '.' :: digits.drop (digits.length - places)

/-- A ratio times a power of ten. -/
def timesTen (numerator denominator : Nat) : Int → Nat × Nat
  | .ofNat n => (numerator * Nat.pow 10 n, denominator)
  | .negSucc n => (numerator, denominator * Nat.pow 10 (n + 1))

/-- The exponent of the first digit of a positive ratio. -/
def leadingExponent (numerator denominator : Nat) : Int :=
  let guess : Int := (decimal numerator).length - (decimal denominator).length
  let (n, d) := timesTen numerator denominator (-guess)
  if d ≤ n then guess else guess - 1

/-- So many significant digits of a ratio, and the exponent of the first one. -/
def significantDigits (count numerator denominator : Nat) : Chars × Int :=
  if numerator = 0 then (List.replicate count '0', 0)
  else
    let exponent := leadingExponent numerator denominator
    let (n, d) := timesTen numerator denominator ((count : Int) - 1 - exponent)
    let digits := decimal (Binary64.roundedQuotient n d)
    if count < digits.length then (digits.take count, exponent + 1) else (digits, exponent)

/-- An exponent with its sign and at least two digits. -/
def exponentText (letter : Char) (least : Nat) (exponent : Int) : Chars :=
  let digits := decimal exponent.natAbs
  letter :: (if exponent < 0 then '-' else '+')
    :: (List.replicate (least - digits.length) '0' ++ digits)

def withPoint (keepsPoint : Bool) (digits : Chars) : Chars :=
  match digits with
  | [] => []
  | first :: [] => if keepsPoint then [first, '.'] else [first]
  | first :: rest => first :: '.' :: rest

/-- Digits after a point without the zeros at their end. -/
def withoutZeros (text : Chars) : Chars :=
  if text.contains '.' then
    let bare := (text.reverse.dropWhile (· = '0')).reverse
    if bare.getLast? = some '.' then bare.dropLast else bare
  else text

/-- How a number is written: fixed, with an exponent, as is shorter, or with hexadecimal
digits. -/
inductive Style where
  | fixed
  | exponential
  | general
  | hexadecimal
  deriving DecidableEq, Repr

/-- The significand and exponent of a number that is a multiple of a power of two, with one
digit before the point, in which the bits are that do not fill a digit after it. -/
def hexadecimalText (format : BinaryFormat) (places : Option Nat) (keepsPoint : Bool)
    (numerator denominator : Nat) : Chars :=
  let digit (n : Nat) : Char := (Nat.toDigits 16 n).headD '0'
  let most := (format.bits - 1) / 4
  let (significand, exponent) :=
    if numerator = 0 then (0, (0 : Int))
    else
      let (significand, exponent) := nearest format numerator denominator
      let shift := format.bits - 1 - Nat.log2 significand
      (significand * Nat.pow 2 shift, exponent - shift + 4 * most)
  let (significand, count) := match places with
    | some places =>
      if places < most then
        (Binary64.roundedQuotient significand (Nat.pow 16 (most - places)), places)
      else (significand * Nat.pow 16 (places - most), places)
    | none => (significand, most)
  let overflows := Nat.pow 16 (count + 1) ≤ significand
  let significand := if overflows then significand / 16 else significand
  let digits := (List.range count).map fun index =>
    digit (significand / Nat.pow 16 (count - 1 - index) % 16)
  let digits := if places.isNone then (digits.reverse.dropWhile (· = '0')).reverse else digits
  let point := if digits.isEmpty && !keepsPoint then [] else ['.']
  ['0', 'x', digit (significand / Nat.pow 16 count)] ++ point ++ digits
    ++ exponentText 'p' 1 (if overflows then exponent + 4 else exponent)

/-- A ratio in a style. -/
def ratioText (format : BinaryFormat) (style : Style) (precision : Option Nat) (keepsPoint : Bool)
    (numerator denominator : Nat) : Chars :=
  let places := precision.getD 6
  match style with
  | .fixed =>
    let text := fixedDigits places numerator denominator
    if places = 0 && keepsPoint then text ++ ['.'] else text
  | .exponential =>
    let (digits, exponent) := significantDigits (places + 1) numerator denominator
    withPoint keepsPoint digits ++ exponentText 'e' 2 exponent
  | .general =>
    let count := max 1 places
    let (digits, exponent) := significantDigits count numerator denominator
    let trimmed (text : Chars) : Chars := if keepsPoint then text else withoutZeros text
    if exponent < -4 || (count : Int) ≤ exponent then
      trimmed (withPoint keepsPoint digits) ++ exponentText 'e' 2 exponent
    else
      let after := ((count : Int) - 1 - exponent).toNat
      let text := fixedDigits after numerator denominator
      trimmed (if after = 0 && keepsPoint then text ++ ['.'] else text)
  | .hexadecimal => hexadecimalText format precision keepsPoint numerator denominator

/-- The text of a number without its sign. -/
def magnitudeText (format : BinaryFormat) (style : Style) (precision : Option Nat)
    (keepsPoint : Bool) : Floating → Chars
  | .finite _ numerator denominator =>
    ratioText format style precision keepsPoint numerator denominator
  | .infinite _ => chars "inf"
  | .undefined _ => chars "nan"

def isFinite : Floating → Bool
  | .finite _ _ _ => true
  | _ => false

/-- The style that a letter asks for. -/
def style? (letter : Char) : Option Style :=
  match letter.toLower with
  | 'f' => some .fixed
  | 'e' => some .exponential
  | 'g' => some .general
  | 'a' => some .hexadecimal
  | _ => none

end Floating

end LiveCompile.Shell
