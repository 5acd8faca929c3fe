/-! Finite binary64 numbers as exact dyadic values, with the arithmetic a number
literal needs: rounding of a ratio to the nearest number (a tie goes to the even
significand), multiplication and division. -/

namespace LiveCompile

/-- The value `(-1)^negative * significand * 2^exponent`. Numbers made here have a
significand below `2^53` and an exponent of at least `-1074`, and the exponent is as
small as that bound and the significand allow. -/
structure Binary64 where
  negative : Bool
  significand : Nat
  exponent : Int
  deriving DecidableEq, Repr, Inhabited

namespace Binary64

/-- The quotient of two natural numbers rounded to the nearest one, ties to even. -/
def roundedQuotient (num den : Nat) : Nat :=
  let quotient := num / den
  let twice := 2 * (num % den)
  if twice < den then quotient
  else if twice = den ∧ quotient % 2 = 0 then quotient
  else quotient + 1

/-- `num / (den * 2^exponent)` as a ratio of natural numbers. -/
def shiftedRatio (num den : Nat) (exponent : Int) : Nat × Nat :=
  match exponent with
  | .ofNat shift => (num, den * Nat.pow 2 shift)
  | .negSucc shift => (num * Nat.pow 2 (shift + 1), den)

/-- The least exponent a finite number has. -/
def minExponent : Int := -1074

/-- The greatest exponent a finite number has. -/
def maxExponent : Int := 971

def zero : Binary64 := ⟨false, 0, minExponent⟩

/-- The number nearest to `num / den`, or nothing if that is beyond the finite range. -/
def ofRatio? (negative : Bool) (num den : Nat) : Option Binary64 :=
  if num = 0 ∨ den = 0 then some { zero with negative }
  else
    let guess : Int := max minExponent ((Nat.log2 num : Int) - (Nat.log2 den : Int) - 53)
    let exponent :=
      let (n, d) := shiftedRatio num den guess
      if n / d < Nat.pow 2 53 then guess else guess + 1
    let (n, d) := shiftedRatio num den exponent
    let significand := roundedQuotient n d
    let (significand, exponent) :=
      if significand = Nat.pow 2 53 then (Nat.pow 2 52, exponent + 1) else (significand, exponent)
    if exponent > maxExponent then none else some ⟨negative, significand, exponent⟩

/-- The number nearest to a natural number below the finite range. -/
def ofNat (n : Nat) : Binary64 := (ofRatio? false n 1).getD zero

def ofInt (n : Int) : Binary64 := (ofRatio? (n < 0) n.natAbs 1).getD zero

def neg (x : Binary64) : Binary64 := { x with negative := !x.negative }

def isZero (x : Binary64) : Bool := x.significand = 0

/-- `num / den * 2^exponent` rounded. -/
def ofScaledRatio? (negative : Bool) (num den : Nat) (exponent : Int) : Option Binary64 :=
  let (n, d) := shiftedRatio num den (-exponent)
  ofRatio? negative n d

/-- The rounded product, or nothing if it is beyond the finite range. -/
def mul? (x y : Binary64) : Option Binary64 :=
  ofScaledRatio? (x.negative != y.negative) (x.significand * y.significand) 1
    (x.exponent + y.exponent)

/-- The rounded quotient, or nothing if it is beyond the finite range. The divisor is
not zero. -/
def div? (x y : Binary64) : Option Binary64 :=
  ofScaledRatio? (x.negative != y.negative) x.significand y.significand
    (x.exponent - y.exponent)

/-- The number nearest to a power of ten of at most 308. -/
def powerOfTen (n : Nat) : Binary64 := ofNat (Nat.pow 10 n)

end Binary64

end LiveCompile
