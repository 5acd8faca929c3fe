import LiveCompile.Binary64.Shortest

/-! Numbers of a JSON text. A literal without point and exponent that fits 64 bits is an
integer; every other literal is a binary64 number. The significand of such a literal is
cut off where it leaves 64 bits and then scaled by a power of ten, each step rounded, so a
long literal may end one unit beside the nearest number. -/

namespace LiveCompile

inductive Number where
  | int (value : Int)
  | float (value : Binary64)
  deriving DecidableEq, Repr

/-- A number literal, taken apart: digits of the integer part, digits after the point if
there is one, and sign and digits of the exponent if there is one. -/
structure NumberLiteral where
  negative : Bool
  whole : List Nat
  fraction : Option (List Nat)
  exponent : Option (Bool × List Nat)
  deriving DecidableEq, Repr

namespace NumberLiteral

def digit? (octet : UInt8) : Option Nat :=
  if 48 ≤ octet && octet ≤ 57 then some (octet.toNat - 48) else none

/-- The digits at the start of the input, and the rest. -/
def digits : List UInt8 → List Nat × List UInt8
  | [] => ([], [])
  | octet :: rest =>
    match digit? octet with
    | some d => let (ds, rest) := digits rest; (d :: ds, rest)
    | none => ([], octet :: rest)

/-- At least one digit. -/
def digits1? (input : List UInt8) : Option (List Nat × List UInt8) :=
  match digits input with
  | ([], _) => none
  | found => some found

/-- The integer part has no leading zero. -/
def whole? (input : List UInt8) : Option (List Nat × List UInt8) := do
  let (ds, rest) ← digits1? input
  if ds.head? = some 0 ∧ ds.length > 1 then none else some (ds, rest)

def fraction? : List UInt8 → Option (Option (List Nat) × List UInt8)
  | 46 :: rest => do
    let (ds, rest) ← digits1? rest
    return (some ds, rest)
  | input => some (none, input)

def exponentSign : List UInt8 → Bool × List UInt8
  | 43 :: rest => (false, rest)
  | 45 :: rest => (true, rest)
  | input => (false, input)

def exponent? : List UInt8 → Option (Option (Bool × List Nat) × List UInt8)
  | [] => some (none, [])
  | octet :: rest =>
    if octet = 101 ∨ octet = 69 then do
      let (negative, rest) := exponentSign rest
      let (ds, rest) ← digits1? rest
      return (some (negative, ds), rest)
    else some (none, octet :: rest)

/-- A literal at the start of the input, and the rest. -/
def read? (input : List UInt8) : Option (NumberLiteral × List UInt8) := do
  let (negative, rest) := match input with
    | 45 :: rest => (true, rest)
    | _ => (false, input)
  let (whole, rest) ← whole? rest
  let (fraction, rest) ← fraction? rest
  let (exponent, rest) ← exponent? rest
  return (⟨negative, whole, fraction, exponent⟩, rest)

def maxSignificand : Nat := Nat.pow 2 64 - 1

/-- Appends digits to a significand as long as it stays within 64 bits; also gives the
number of digits left over. -/
def append (significand : Nat) : List Nat → Nat × Nat
  | [] => (significand, 0)
  | d :: ds =>
    if significand * 10 + d ≤ maxSignificand then append (significand * 10 + d) ds
    else (significand, ds.length + 1)

/-- The value of the exponent's digits, or nothing beyond 31 bits. -/
def exponentValue? : List Nat → Option Nat
  | ds =>
    ds.foldlM (fun value d =>
      if value * 10 + d < Nat.pow 2 31 then some (value * 10 + d) else none) 0

/-- `x * 10^exponent` by table steps: one product for a positive exponent, and for a
negative one a quotient for each 308 places. -/
def scale? (x : Binary64) (exponent : Int) : Nat → Option Binary64
  | 0 => some Binary64.zero
  | steps + 1 =>
    if exponent.natAbs ≤ 308 then
      let power := Binary64.powerOfTen exponent.natAbs
      if exponent ≥ 0 then x.mul? power else x.div? power
    else if x.isZero then some x
    else if exponent ≥ 0 then none
    else do
      let quotient ← x.div? (Binary64.powerOfTen 308)
      scale? quotient (exponent + 308) steps

def signed (negative : Bool) (x : Binary64) : Binary64 := if negative then x.neg else x

/-- A 64-bit significand is zero after three quotients by `10^308`. -/
def float? (negative : Bool) (significand : Nat) (exponent : Int) : Option Binary64 :=
  (scale? (Binary64.ofNat significand) exponent 4).map (signed negative)

/-- The value of a literal, or nothing if it is beyond the finite numbers. -/
def value? (literal : NumberLiteral) : Option Number :=
  let (significand, left) := append 0 literal.whole
  match literal.fraction, literal.exponent, left with
  | none, none, 0 =>
    if !literal.negative then some (.int significand)
    else if significand = 0 ∨ significand > Nat.pow 2 63 then
      some (.float (Binary64.ofNat significand).neg)
    else some (.int (-significand))
  | fraction, exponent, left =>
    let places := fraction.getD []
    let (significand, skipped) := append significand places
    let scale : Int := (left : Int) - (places.length - skipped : Nat)
    match exponent with
    | none => (float? literal.negative significand scale).map .float
    | some (negative, ds) =>
      match exponentValue? ds with
      | some value =>
        let scale := if negative then scale - value else scale + value
        (float? literal.negative significand scale).map .float
      | none =>
        if significand ≠ 0 ∧ !negative then none
        else some (.float (signed literal.negative Binary64.zero))

end NumberLiteral

namespace Number

/-- How a binary64 number is written. -/
structure FloatFormat where
  /-- the least and the greatest decimal exponent written without an exponent part -/
  leastPlain : Int
  greatestPlain : Int
  /-- what follows a plain number without fraction -/
  integralMark : String
  exponentMark : String
  positiveExponent : String

/-- Numbers from `1e-5` up to `1e16` are written plainly, always with a point; others
have an exponent with its sign. -/
def floatFormat : FloatFormat := ⟨-5, 15, ".0", "e", "+"⟩

def zeros (count : Nat) : String := String.ofList (List.replicate count '0')

/-- The text of a positive decimal. -/
def FloatFormat.text (format : FloatFormat) (decimal : Binary64.Decimal) : String :=
  let ds := (Nat.repr decimal.digits).toList
  let count : Int := ds.length
  let lead := count + decimal.exponent - 1
  if format.leastPlain ≤ lead ∧ lead ≤ format.greatestPlain then
    if decimal.exponent ≥ 0 then
      String.ofList ds ++ zeros decimal.exponent.toNat ++ format.integralMark
    else if lead ≥ 0 then
      String.ofList (ds.take (lead + 1).toNat) ++ "." ++ String.ofList (ds.drop (lead + 1).toNat)
    else "0." ++ zeros (-lead - 1).toNat ++ String.ofList ds
  else
    let fraction := ds.drop 1
    let mantissa := String.ofList (ds.take 1)
      ++ (if fraction.isEmpty then "" else "." ++ String.ofList fraction)
    let sign := if lead ≥ 0 then format.positiveExponent else "-"
    mantissa ++ format.exponentMark ++ sign ++ Nat.repr lead.natAbs

def floatText (x : Binary64) : String :=
  let magnitude := if x.isZero then "0" ++ floatFormat.integralMark else floatFormat.text x.shortest
  if x.negative then "-" ++ magnitude else magnitude

def text : Number → String
  | .int value => toString value
  | .float value => floatText value

/-- An integer up to a bound. -/
def natUpTo? (bound : Nat) : Number → Option Nat
  | .int (.ofNat n) => if n ≤ bound then some n else none
  | _ => none

def int? : Number → Option Int
  | .int value => some value
  | .float _ => none

def toBinary64 : Number → Binary64
  | .int value => Binary64.ofInt value
  | .float value => value

end Number

end LiveCompile
