import LiveCompile.Binary64.Basic
import LiveCompile.Toml.Text

/-! Integers, floats, dates and times of a TOML document. Only integers have a value here;
a float must be below infinity and a date must exist. -/

namespace LiveCompile.Toml

/-- The digits of a base that follow, with single underscores between them; `due` tells
that a digit must come next. -/
def moreDigits? (base : Nat) (due : Bool) : List Char → Option (List Nat × List Char)
  | [] => if due then none else some ([], [])
  | c :: rest =>
    match (hexValue? c).filter (· < base) with
    | some d => (moreDigits? base false rest).map fun (ds, rest) => (d :: ds, rest)
    | none =>
      if due then none
      else if c = '_' then moreDigits? base true rest
      else some ([], c :: rest)

/-- At least one digit of a base. -/
def digits? (base : Nat) (input : List Char) : Option (List Nat × List Char) :=
  moreDigits? base true input

def numberOf (base : Nat) (digits : List Nat) : Nat :=
  digits.foldl (fun value d => value * base + d) 0

/-- The sign of a number; true for a minus. -/
def sign : List Char → Bool × List Char
  | '+' :: rest => (false, rest)
  | '-' :: rest => (true, rest)
  | input => (false, input)

/-- Decimal digits without a leading zero. -/
def decimal? (input : List Char) : Option (List Nat × List Char) :=
  match input with
  | '0' :: rest => some ([0], rest)
  | _ => digits? 10 input

/-- An integer that fits 64 bits. -/
def fitting? (value : Int) (rest : List Char) : Option (Int × List Char) :=
  if -9223372036854775808 ≤ value ∧ value ≤ 9223372036854775807 then some (value, rest) else none

def integer? (input : List Char) : Option (Int × List Char) :=
  let based (base : Nat) (rest : List Char) : Option (Int × List Char) := do
    let (ds, rest) ← digits? base rest
    fitting? (numberOf base ds) rest
  match input with
  | '0' :: 'x' :: rest => based 16 rest
  | '0' :: 'o' :: rest => based 8 rest
  | '0' :: 'b' :: rest => based 2 rest
  | _ => do
    let (negative, rest) := sign input
    let (ds, rest) ← decimal? rest
    let value := numberOf 10 ds
    fitting? (if negative then -value else value) rest

/-- Whether `digits * 10^exponent` is below the point where numbers become infinite. -/
def isFinite (digits : List Nat) (exponent : Int) : Bool :=
  let significand := numberOf 10 digits
  let size : Int := (Nat.repr significand).length + exponent
  if significand = 0 || size < 300 then true
  else if size > 310 then false
  else if exponent ≥ 0 then
    (Binary64.ofRatio? false (significand * Nat.pow 10 exponent.toNat) 1).isSome
  else (Binary64.ofRatio? false significand (Nat.pow 10 exponent.natAbs)).isSome

def after? (word : String) (input : List Char) : Option (List Char) :=
  if word.toList.isPrefixOf input then some (input.drop word.length) else none

def exponent? : List Char → Option (Int × List Char)
  | c :: rest =>
    if c = 'e' || c = 'E' then do
      let (negative, rest) := sign rest
      let (ds, rest) ← digits? 10 rest
      return (if negative then -(numberOf 10 ds : Int) else numberOf 10 ds, rest)
    else none
  | [] => none

/-- The rest after a float: a fraction or an exponent or both, or a word. Positive
infinity must be written as a word. -/
def float? (input : List Char) : Option (List Char) :=
  let (negative, unsigned) := sign input
  match after? "inf" unsigned, after? "nan" unsigned with
  | some rest, _ => some rest
  | none, some rest => some rest
  | none, none => do
    let (whole, rest) ← decimal? unsigned
    let (fraction, rest) ← match rest with
      | '.' :: rest => digits? 10 rest
      | _ => if (exponent? rest).isSome then some ([], rest) else none
    let (exponent, rest) := (exponent? rest).getD (0, rest)
    if negative || isFinite (whole ++ fraction) (exponent - fraction.length) then some rest
    else none

/-- A number of exactly so many digits. -/
def fixed? (count : Nat) (input : List Char) : Option (Nat × List Char) :=
  let ds := (input.take count).takeWhile Char.isDigit
  if ds.length = count then some (numberOf 10 (ds.map fun c => c.toNat - 48), input.drop count)
  else none

def fixedUpTo? (least greatest : Nat) (input : List Char) : Option (Nat × List Char) := do
  let (value, rest) ← fixed? 2 input
  if least ≤ value ∧ value ≤ greatest then some (value, rest) else none

def expect? (c : Char) : List Char → Option (List Char)
  | [] => none
  | other :: rest => if other = c then some rest else none

def daysOfMonth (year month : Nat) : Nat :=
  if month = 2 then
    if year % 4 = 0 ∧ (year % 100 ≠ 0 ∨ year % 400 = 0) then 29 else 28
  else if month = 4 ∨ month = 6 ∨ month = 9 ∨ month = 11 then 30 else 31

/-- The rest after a date that exists. -/
def date? (input : List Char) : Option (List Char) := do
  let (year, rest) ← fixed? 4 input
  let (month, rest) ← fixedUpTo? 1 12 (← expect? '-' rest)
  let (_, rest) ← fixedUpTo? 1 (daysOfMonth year month) (← expect? '-' rest)
  return rest

/-- The rest after a time of day; a minute may have a leap second. -/
def time? (input : List Char) : Option (List Char) := do
  let (_, rest) ← fixedUpTo? 0 23 input
  let (_, rest) ← fixedUpTo? 0 59 (← expect? ':' rest)
  let (_, rest) ← fixedUpTo? 0 60 (← expect? ':' rest)
  match rest with
  | '.' :: fraction =>
    if (fraction.head?.any Char.isDigit) then some (fraction.dropWhile Char.isDigit) else none
  | _ => some rest

/-- The rest after the offset of a time, if there is one. -/
def offset? : List Char → Option (List Char)
  | 'Z' :: rest => some rest
  | 'z' :: rest => some rest
  | c :: rest =>
    if c = '+' || c = '-' then do
      let (_, rest) ← fixedUpTo? 0 23 rest
      let (_, rest) ← fixedUpTo? 0 59 (← expect? ':' rest)
      return rest
    else some (c :: rest)
  | [] => some []

/-- The rest after a date, a time or both. -/
def moment? (input : List Char) : Option (List Char) :=
  match date? input with
  | none => time? input
  | some rest =>
    match rest with
    | c :: clock =>
      if c = 'T' || c = 't' || c = ' ' then
        match time? clock with
        | some rest => offset? rest
        | none => some (c :: clock)
      else some (c :: clock)
    | [] => some []

end LiveCompile.Toml
