import LiveCompile.Shell.Floating

/-! Arithmetic on numbers of double precision. Results are those of the exact operation, rounded
once; what has no result is undefined and counts as negative. -/

namespace LiveCompile.Shell

namespace Floating

/-- The number nearest to a ratio. -/
def ofRatio (negative : Bool) (numerator denominator : Nat) : Floating :=
  (rounded double (.finite negative numerator denominator)).1

def one : Floating := .ofInt 1

def ofBool (holds : Bool) : Floating := if holds then one else zero

def negated : Floating → Floating
  | .finite negative n d => .finite (!negative) n d
  | .infinite negative => .infinite (!negative)
  | .undefined negative => .undefined (!negative)

def isZero : Floating → Bool
  | .finite _ n _ => n = 0
  | _ => false

/-- The numerator with its sign. -/
def signedNumerator (negative : Bool) (n : Nat) : Int := if negative then -n else n

def sum : Floating → Floating → Floating
  | .undefined negative, _ => .undefined negative
  | _, .undefined negative => .undefined negative
  | .infinite a, .infinite b => if a = b then .infinite a else .undefined true
  | .infinite a, _ => .infinite a
  | _, .infinite b => .infinite b
  | .finite a n d, .finite b m e =>
    let total := signedNumerator a (n * e) + signedNumerator b (m * d)
    if total = 0 then .finite (a && b) 0 1 else ofRatio (total < 0) total.natAbs (d * e)

def product : Floating → Floating → Floating
  | .undefined negative, _ => .undefined negative
  | _, .undefined negative => .undefined negative
  | .finite a n d, .finite b m e => ofRatio (a != b) (n * m) (d * e)
  | a, b => if a.isZero || b.isZero then .undefined true
    else .infinite (a.isNegative != b.isNegative)

def quotient : Floating → Floating → Floating
  | .undefined negative, _ => .undefined negative
  | _, .undefined negative => .undefined negative
  | .infinite _, .infinite _ => .undefined true
  | .infinite a, b => .infinite (a != b.isNegative)
  | a, .infinite b => .finite (a.isNegative != b) 0 1
  | .finite a n d, .finite b m e =>
    if m = 0 then (if n = 0 then .undefined true else .infinite (a != b))
    else ofRatio (a != b) (n * e) (d * m)

/-- What is left of a division whose quotient is cut at the point. -/
def remainder : Floating → Floating → Floating
  | .undefined negative, _ => .undefined negative
  | _, .undefined negative => .undefined negative
  | .infinite _, _ => .undefined true
  | a, .infinite _ => a
  | .finite a n d, .finite _ m e =>
    if m = 0 then .undefined true else ofRatio a (n * e % (m * d)) (d * e)

/-- A number without what is after its point. -/
def truncated : Floating → Floating
  | .finite negative n d => .finite negative (n / d) 1
  | other => other

/-- The integer that a number is, if it is one. -/
def integer? : Floating → Option Int
  | .finite negative n d => if n % d = 0 then some (signedNumerator negative (n / d)) else none
  | _ => none

/-- How two numbers compare; what is undefined compares as equal. -/
def compare : Floating → Floating → Ordering
  | .undefined _, _ => .eq
  | _, .undefined _ => .eq
  | .infinite a, .infinite b => if a = b then .eq else if a then .lt else .gt
  | .infinite a, _ => if a then .lt else .gt
  | _, .infinite b => if b then .gt else .lt
  | .finite a n d, .finite b m e =>
    Ord.compare (signedNumerator a (n * e)) (signedNumerator b (m * d))

/-- A number as the machine holds it. -/
def toFloat : Floating → Float
  | .undefined _ => 0 / 0
  | .infinite negative => if negative then -1 / 0 else 1 / 0
  | .finite negative n d =>
    let (significand, exponent) := if n = 0 then (0, 0) else nearest double n d
    let magnitude := (Float.ofNat significand).scaleB exponent
    if negative then -magnitude else magnitude

def ofFloat (value : Float) : Floating :=
  let bits := value.toBits.toNat
  let negative := bits / Nat.pow 2 63 = 1
  let exponent := bits / Nat.pow 2 52 % 2048
  let fraction := bits % Nat.pow 2 52
  if exponent = 2047 then (if fraction = 0 then .infinite negative else .undefined true)
  else if exponent = 0 then ofScaled negative fraction (-1074)
  else ofScaled negative (Nat.pow 2 52 + fraction) (exponent - 1075)

/-- The value of a function that the machine computes. -/
def mapped (f : Float → Float) : Floating → Floating
  | .undefined negative => .undefined negative
  | value => ofFloat (f value.toFloat)

def mapped₂ (f : Float → Float → Float) : Floating → Floating → Floating
  | .undefined negative, _ => .undefined negative
  | _, .undefined negative => .undefined negative
  | a, b => ofFloat (f a.toFloat b.toFloat)

/-- A number cut at its point and held within the bounds of what has 64 bits and a sign; the
least number stands for what is undefined. -/
def toInt64 : Floating → Int
  | .undefined _ => -9223372036854775808
  | .infinite negative => if negative then -9223372036854775807 else 9223372036854775807
  | .finite negative n d =>
    max (-9223372036854775807) (min 9223372036854775807 (signedNumerator negative (n / d)))

/-- The 64 bits of a number cut at its point. -/
def toNat64 (value : Floating) : Nat :=
  let greatest := 18446744073709551615
  match value with
  | .undefined _ => 9223372036854775808
  | .infinite negative => if negative then 1 else greatest
  | .finite false n d => min greatest (n / d)
  | .finite true n d =>
    let magnitude := n / d
    if greatest ≤ magnitude then 1
    else if 9223372036854775808 ≤ magnitude then 9223372036854775808
    else (greatest + 1 - magnitude) % (greatest + 1)

end Floating

end LiveCompile.Shell
