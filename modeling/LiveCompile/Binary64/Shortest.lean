import LiveCompile.Binary64.Basic

/-! The shortest decimal that reads back as a given number: of the decimals within the
interval that rounds to the number, those on the coarsest decimal grid, and of these the
nearest (a tie goes to the even digit). -/

namespace LiveCompile.Binary64

/-- A positive decimal `digits * 10^exponent`. -/
structure Decimal where
  digits : Nat
  exponent : Int
  deriving DecidableEq, Repr

/-- The interval of reals that round to a number, as bounds in units of
`2^(exponent - 2)`. The bounds themselves round to it iff the significand is even. -/
structure Neighbourhood where
  low : Nat
  value : Nat
  high : Nat
  closed : Bool
  exponent : Int

/-- The gap below a power of two is half the gap above it, unless the exponent is
already the least one. -/
def neighbourhood (x : Binary64) : Neighbourhood :=
  let m := x.significand
  { low := if m = Nat.pow 2 52 ∧ x.exponent > minExponent then 4 * m - 1 else 4 * m - 2
    value := 4 * m
    high := 4 * m + 2
    closed := m % 2 = 0
    exponent := x.exponent - 2 }

/-- `(num, den)` with `num / den = base^exponent`. -/
def powerRatio (base : Nat) (exponent : Int) : Nat × Nat :=
  match exponent with
  | .ofNat n => (Nat.pow base n, 1)
  | .negSucc n => (1, Nat.pow base (n + 1))

/-- The point of the grid of multiples of `10^exponent` that lies in the
neighbourhood and is nearest to its value, if there is one. -/
def Neighbourhood.gridPoint? (hood : Neighbourhood) (exponent : Int) : Option Decimal :=
  let (twoNum, twoDen) := powerRatio 2 hood.exponent
  let (tenNum, tenDen) := powerRatio 10 exponent
  -- a bound `b` and a multiple `c` compare as `b * unit` and `c * step`
  let unit := twoNum * tenDen
  let step := tenNum * twoDen
  let value := hood.value * unit
  let inside (c : Nat) : Bool :=
    if hood.closed then hood.low * unit ≤ c * step && c * step ≤ hood.high * unit
    else hood.low * unit < c * step && c * step < hood.high * unit
  let below := value / step
  let above := below + 1
  match inside below, inside above with
  | false, false => none
  | true, false => some ⟨below, exponent⟩
  | false, true => some ⟨above, exponent⟩
  | true, true =>
    let fromBelow := value - below * step
    let fromAbove := above * step - value
    if fromBelow < fromAbove then some ⟨below, exponent⟩
    else if fromAbove < fromBelow then some ⟨above, exponent⟩
    else some ⟨if below % 2 = 0 then below else above, exponent⟩

/-- The first grid with a point in the neighbourhood, from the coarse ones to the fine
ones. -/
def Neighbourhood.firstGridPoint (hood : Neighbourhood) (exponent : Int) : Nat → Decimal
  | 0 => ⟨hood.value, exponent⟩
  | tries + 1 => (hood.gridPoint? exponent).getD (hood.firstGridPoint (exponent - 1) tries)

/-- The shortest decimal of a number's magnitude. The search starts above the number,
since `2^n < 10^(n * 302 / 1000 + 1)`, and seventeen digits always suffice. -/
def shortest (x : Binary64) : Decimal :=
  let bits : Int := (Nat.log2 x.significand : Int) + 1 + x.exponent
  x.neighbourhood.firstGridPoint (bits * 302 / 1000 + 3) 26

end LiveCompile.Binary64
