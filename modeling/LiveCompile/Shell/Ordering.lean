import LiveCompile.Shell.Floating

/-! How texts are put in order: by their octets, as numbers in several notations, as months and
as versions. -/

namespace LiveCompile.Shell

/-- The order of two texts by their octets. -/
def compareTexts (a b : Chars) : Ordering := compareOctets (octetsOf a) (octetsOf b)

/-- A blank between words; a line feed counts too where lines end otherwise. -/
def isGap (c : Char) : Bool := c = ' ' || c = '\t' || c = '\n'

namespace Numeral

/-- The digits at the start of a text before and after a point, and whether a hyphen is before
them. -/
structure Decimal where
  isNegative : Bool
  whole : Chars
  places : Chars

def Decimal.ofText (text : Chars) : Decimal :=
  let text := text.dropWhile isGap
  let isNegative := text.head? = some '-'
  let digits := if isNegative then text.drop 1 else text
  let places := match digits.dropWhile Char.isDigit with
    | '.' :: rest => rest.takeWhile Char.isDigit
    | _ => []
  ⟨isNegative, digits.takeWhile Char.isDigit, places⟩

/-- The value times a power of ten. -/
def Decimal.scaled (decimal : Decimal) (places : Nat) : Int :=
  let digits := decimal.whole ++ decimal.places
    ++ List.replicate (places - decimal.places.length) '0'
  let value : Int := (natural? digits).getD 0
  if decimal.isNegative then -value else value

/-- The order of the numbers at the start of two texts; without digits a text counts as zero. -/
def compareDecimals (a b : Chars) : Ordering :=
  let a := Decimal.ofText a
  let b := Decimal.ofText b
  let places := max a.places.length b.places.length
  compare (a.scaled places) (b.scaled places)

/-- The rank of the unit after a number, which is none if the number is zero. -/
def unitRank (text : Chars) : Int :=
  let text := text.dropWhile isGap
  let isNegative := text.head? = some '-'
  let number := if isNegative then text.drop 1 else text
  let isPart (c : Char) : Bool := c.isDigit || c = '.'
  let rank : Int := match (number.dropWhile isPart).head? with
    | some 'k' => 1
    | some c => match "KMGTPEZYRQ".toList.idxOf? c with
      | some index => index + 1
      | none => 0
    | none => 0
  if !(number.takeWhile isPart).any fun c => '1' ≤ c && c ≤ '9' then 0
  else if isNegative then -rank else rank

/-- The order of numbers with letters for powers of 1024, by the letters first. -/
def compareSizes (a b : Chars) : Ordering :=
  (compare (unitRank a) (unitRank b)).then (compareDecimals a b)

/-- The place of a number among all that a text may hold: what is no number comes first, then
what is undefined. -/
def rank (value : Option Floating) : Nat :=
  match value with
  | none => 0
  | some (.undefined _) => 1
  | some _ => 2

def lessThan : Floating → Floating → Bool
  | .finite negative n d, .finite other m e =>
    (if negative then -(n : Int) else n) * e < (if other then -(m : Int) else m) * d
  | .infinite negative, .infinite other => negative && !other
  | .infinite negative, .finite _ _ _ => negative
  | .finite _ _ _, .infinite other => !other
  | _, _ => false

/-- The order of numbers with an exponent. -/
def compareFloatings (a b : Chars) : Ordering :=
  let read (text : Chars) : Option Floating :=
    (Floating.read? text).map fun (value, _) => (value.rounded Floating.extended).1
  match read a, read b with
  | some x, some y =>
    (compare (rank (some x)) (rank (some y))).then
      (if lessThan x y then .lt else if lessThan y x then .gt else .eq)
  | x, y => compare (rank x) (rank y)

end Numeral

namespace Month

def names : List String :=
  ["JAN", "FEB", "MAR", "APR", "MAY", "JUN", "JUL", "AUG", "SEP", "OCT", "NOV", "DEC"]

/-- The number of the month that a text begins with, or zero. -/
def ofText (text : Chars) : Nat :=
  let name := String.ofList (((text.dropWhile isGap).take 3).map Char.toUpper)
  match names.idxOf? name with
  | some index => index + 1
  | none => 0

end Month

namespace Version

/-- The rank of the character at the start of a text outside numbers: the end comes before
letters, these before other characters, and a tilde before all. -/
def rank (text : Chars) : Int :=
  match text with
  | [] => -1
  | c :: _ =>
    if c.isDigit then 0 else if c.isAlpha then c.toNat else if c = '~' then -2
    else c.toNat + 256

def beginsNumber (text : Chars) : Bool := text.head?.any Char.isDigit

/-- The order of two texts in which numbers count as such. The first argument bounds the number
of steps. -/
def compareParts : Nat → Chars → Chars → Ordering
  | 0, _, _ => .eq
  | steps + 1, a, b =>
    if a.isEmpty && b.isEmpty then .eq
    else if (!a.isEmpty && !beginsNumber a) || (!b.isEmpty && !beginsNumber b) then
      (compare (rank a) (rank b)).then (compareParts steps (a.drop 1) (b.drop 1))
    else
      let number (text : Chars) : Nat := (natural? (text.takeWhile Char.isDigit)).getD 0
      (compare (number a) (number b)).then
        (compareParts steps (a.dropWhile Char.isDigit) (b.dropWhile Char.isDigit))

/-- A name without suffixes of letters and digits after a point. The first argument bounds the
number of steps, `kept` is what comes before. -/
def withoutSuffixes : Nat → Chars → Chars → Chars
  | 0, kept, _ => kept
  | _ + 1, kept, [] => kept
  | steps + 1, kept, c :: rest =>
    let kept := kept ++ [c]
    let after := suffixes rest.length rest
    if after.isEmpty then kept
    else withoutSuffixes steps (kept ++ rest.take (rest.length - after.length)) after
where
  /-- What follows suffixes. -/
  suffixes : Nat → Chars → Chars
    | 0, text => text
    | steps + 1, '.' :: c :: rest =>
      if c.isAlpha || c = '~' then
        suffixes steps (rest.dropWhile fun c => c.isAlphanum || c = '~')
      else '.' :: c :: rest
    | _ + 1, text => text

/-- The place of names that begin with a point: these come first, `.` and `..` before others. -/
def pointRank : Chars → Nat
  | ['.'] => 0
  | ['.', '.'] => 1
  | '.' :: _ => 2
  | _ => 3

/-- The order of names with versions in them; suffixes count only if all else is the same. -/
def compare (a b : Chars) : Ordering :=
  match a, b with
  | [], [] => .eq
  | [], _ => .lt
  | _, [] => .gt
  | a, b =>
    let steps := a.length + b.length + 1
    let bare (text : Chars) : Chars := withoutSuffixes (text.length + 1) [] text
    if pointRank a < 2 || pointRank b < 2 || pointRank a ≠ pointRank b then
      Ord.compare (pointRank a) (pointRank b)
    else (compareParts steps (bare a) (bare b)).then (compareParts steps a b)

end Version

end LiveCompile.Shell
