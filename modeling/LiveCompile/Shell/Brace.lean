import LiveCompile.Shell.Program.Basic
import LiveCompile.Shell.Word

/-! Braces in words of the extended shell. A word with a list of choices between braces stands
for several words, one for each choice; so does a word with two ends of a series. -/

namespace LiveCompile.Shell.Brace

/-- A word whose characters outside of quotes are parts of their own. -/
def spread (word : Word) : Word :=
  word.flatMap fun
    | .literal false text => text.map fun c => .literal false [c]
    | part => [part]

/-- A word whose neighbouring characters are one part. -/
def gathered (word : Word) : Word :=
  word.foldr (fun part rest =>
    match part with
    | .literal false text => text.foldr (consLiteral false) rest
    | part => part :: rest) []

/-- Whether a part is a character outside of quotes. -/
def isSign (sign : Char) : Part → Bool
  | .literal false [c] => c = sign
  | _ => false

/-- The texts between a brace and the one that closes it, which commas separate, and what
follows. What is read of the text at the moment is in reverse, as are the texts before. -/
def choices (depth : Nat) (current : Word) (done : List Word) : Word → Option (List Word × Word)
  | [] => none
  | part :: rest =>
    if isSign '{' part then choices (depth + 1) (part :: current) done rest
    else if isSign '}' part then
      if depth = 0 then some ((current.reverse :: done).reverse, rest)
      else choices (depth - 1) (part :: current) done rest
    else if isSign ',' part && depth = 0 then
      choices depth [] (current.reverse :: done) rest
    else choices depth (part :: current) done rest

/-- The numbers from one to another with a step. The first argument bounds their count. -/
def series : Nat → Int → Int → Int → List Int
  | 0, _, _, _ => []
  | count + 1, start, stop, step =>
    if (0 < step && stop < start) || (step < 0 && start < stop) then []
    else start :: series count (start + step) stop step

/-- The numbers from one to another in either direction; the sign of the step does not count. -/
def numbers (start stop step : Int) : List Int :=
  let size := if step = 0 then 1 else step.natAbs
  let count := (stop - start).natAbs / size + 1
  series count start stop (if start ≤ stop then size else -(size : Int))

/-- The two ends of a series and its step. -/
def seriesEnds (text : Chars) : List Chars :=
  match text with
  | '.' :: '.' :: rest => [] :: seriesEnds rest
  | c :: rest =>
    match seriesEnds rest with
    | piece :: others => (c :: piece) :: others
    | [] => [[c]]
  | [] => [[]]

/-- Whether a number is written with zeros before it. -/
def isPadded (text : Chars) : Bool :=
  match text with
  | '-' :: '0' :: _ :: _ => true
  | '0' :: _ :: _ => true
  | _ => false

/-- The texts of a series between braces. -/
def seriesOf? (text : Chars) : Option (List Chars) := do
  let (first, last, step) ← match seriesEnds text with
    | [first, last] => some (first, last, 1)
    | [first, last, step] => (integer? step).map (first, last, ·)
    | _ => none
  match first, last, integer? first, integer? last with
  | _, _, some start, some stop =>
    let width := if isPadded first || isPadded last then max first.length last.length else 0
    return (numbers start stop step).map fun number =>
      let digits := decimal number.natAbs
      if number < 0 then '-' :: List.replicate (width - 1 - digits.length) '0' ++ digits
      else List.replicate (width - digits.length) '0' ++ digits
  | [a], [b], none, none =>
    if a.isAlpha && b.isAlpha then
      return (numbers a.toNat b.toNat step).map fun code => [Char.ofNat code.toNat]
    else none
  | _, _, _, _ => none

/-- The texts that the braces stand for whose first one was read, and what follows them. -/
def chosen? (parts : Word) : Option (List Word × Word) :=
  match choices 0 [] [] parts with
  | some ([single], after) =>
    ((Word.bare? single).bind seriesOf?).map fun texts =>
      (texts.map fun text => [Part.literal false text], after)
  | found => found

/-- The words that a word stands for whose characters are parts of their own. The first argument
bounds the depth of the calls. -/
def expanded : Nat → Word → List Word
  | 0, word => [word]
  | _ + 1, [] => [[]]
  | steps + 1, part :: rest =>
    match if isSign '{' part then chosen? rest else none with
    | none => (expanded steps rest).map (part :: ·)
    | some (several, after) =>
      let ends := expanded steps after
      (several.flatMap (expanded steps)).flatMap fun choice => ends.map (choice ++ ·)

/-- The words that a word stands for. -/
def words (word : Word) : List Word :=
  let isBraced := word.any fun
    | .literal false text => text.contains '{'
    | _ => false
  if !isBraced then [word]
  else
    let parts := spread word
    (expanded (parts.length + 1) parts).map gathered

end LiveCompile.Shell.Brace
