import LiveCompile.Shell.Program.Options
import LiveCompile.Shell.Program.Quantity

/-! The first and the last of a text: `head`, `tail` and `tac`. -/

namespace LiveCompile.Shell

/-- How much of a text is shown. -/
structure Portion where
  isLines : Bool := true
  count : Nat := 10
  /-- all but so many are shown, or those from a number on -/
  isRest : Bool := false
  ending : Char := '\n'
  /-- whether headings are asked for, or asked not to be -/
  headings : Option Bool := none

namespace Portion

def units (portion : Portion) (text : Chars) : List Chars :=
  if portion.isLines then piecesEndedBy portion.ending text else text.map ([·])

/-- Whether nothing is shown of any text. -/
def isEmpty (portion : Portion) : Bool := portion.count = 0 && !portion.isRest

def first (portion : Portion) (text : Chars) : Chars :=
  let units := portion.units text
  (units.take (if portion.isRest then units.length - portion.count else portion.count)).flatten

def last (portion : Portion) (text : Chars) : Chars :=
  let units := portion.units text
  (units.drop (if portion.isRest then portion.count - 1 else units.length - portion.count)).flatten

/-- Shows a portion of each operand, under a heading if there are several. -/
def shown (portion : Portion) (cut : Chars → Chars) (situation : Situation)
    (operands : List Chars) : Ran :=
  let isTitled := portion.headings.getD (1 < operands.length)
  let heading (isFirst : Bool) (name : Chars) : Chars :=
    let name := if name = ['-'] then chars "standard input" else name
    if isTitled then
      (if isFirst then [] else ['\n']) ++ chars "==> " ++ name ++ chars " <==\n"
    else []
  let visit (done : Ran × Bool) (content : Chars × Except FileError Chars) : Ran × Bool :=
    let (ran, isFirst) := done
    let (name, text) := content
    let failed (heading text : Chars) : Ran :=
      { ran with
        written := ran.written ++ [(.output, heading), (.complaints, situation.complaint text)]
        code := 1 }
    match text with
    | .ok text =>
      let output := heading isFirst name ++ cut text
      ({ ran with written := ran.written ++ [(.output, output)] }, false)
    | .error .isDirectory =>
      let text := chars "error reading " ++ quotedName name ++ chars ": " ++ cause .isDirectory
      if portion.isEmpty then
        ({ ran with written := ran.written ++ [(.output, heading isFirst name)] }, false)
      else (failed (heading isFirst name) text, false)
    | .error error =>
      let text := chars "cannot open " ++ quotedName name ++ chars " for reading: " ++ cause error
      (failed [] text, isFirst)
  ((situation.contents operands).foldl visit
    ({ unread := situation.unreadAfter operands }, true)).1

/-- A number of lines or octets, or what is wrong. -/
def countOf (isLines : Bool) (text : Chars) : Except Refusal Nat :=
  let invalid (text more : Chars) : Except Refusal Nat :=
    .error ⟨chars (if isLines then "invalid number of lines: " else "invalid number of bytes: ")
      ++ quotedText text ++ more, false⟩
  match quantity? "bkKmMGTPEZYRQ0" text with
  | some (count, false) => .ok count
  | some (_, true) => invalid text (chars ": Value too large for defined data type")
  | none => invalid text []

/-- The options of both programs, digits among them. -/
def known (letters : String) : Options.Known where
  letters := letters ++ "c:n:qvz0123456789"
  words := [("bytes", 'c'), ("lines", 'n'), ("quiet", 'q'), ("silent", 'q'), ("verbose", 'v'),
    ("zero-terminated", 'z')]

/-- What an option changes that has the same meaning in both programs. -/
def option (portion : Portion) (letter : Char) : Portion :=
  match letter with
  | 'q' => { portion with headings := some false }
  | 'v' => { portion with headings := some true }
  | 'z' => { portion with ending := '\x00' }
  | _ => portion

end Portion

namespace Head

def step (portion : Portion) (option : Char × Chars) : Except Refusal Portion := do
  let (letter, value) := option
  if letter.isDigit then .error ⟨chars "invalid trailing option -- " ++ [letter], true⟩
  else if letter = 'n' || letter = 'c' then
    let isRest := value.head? = some '-'
    let text := if isRest then value.drop 1 else value
    let isLines := letter = 'n'
    return { portion with isLines, isRest, count := ← Portion.countOf isLines text }
  else return portion.option letter

/-- An old first argument: a hyphen, a number and letters. -/
def old (text : Chars) : Except Refusal Portion := do
  let digits := text.takeWhile Char.isDigit
  let letters := text.dropWhile Char.isDigit
  let step (portion : Portion × Chars) (letter : Char) : Except Refusal (Portion × Chars) :=
    let (portion, unit) := portion
    match letter with
    | 'c' => .ok ({ portion with isLines := false }, [])
    | 'b' | 'k' | 'm' => .ok ({ portion with isLines := false }, [letter])
    | 'l' => .ok ({ portion with isLines := true }, unit)
    | 'q' | 'v' | 'z' => .ok (portion.option letter, unit)
    | _ => .error ⟨chars "invalid trailing option -- " ++ [letter], true⟩
  let (portion, unit) ← letters.foldlM step ({}, [])
  return { portion with count := ← Portion.countOf portion.isLines (digits ++ unit) }

def run (situation : Situation) (portion : Portion) (operands : List Chars) :
    Except Refusal Ran :=
  let ran := portion.shown portion.first situation operands
  let isExact := situation.inputIsFile || (!portion.isLines && !portion.isRest)
  let unread := situation.input.drop (portion.first situation.input).length
  .ok (if operands.isEmpty && (isExact || portion.isEmpty) then { ran with unread } else ran)

end Head

/-- The first lines or octets; with a negative number all but the last ones. -/
def head : Program := fun situation arguments =>
  let run (start : Portion) (arguments : List Chars) : Ran :=
    withRequest (Portion.known "") 1 start Head.step Head.run situation arguments
  match arguments with
  | ('-' :: digit :: more) :: rest =>
    if !digit.isDigit then run {} arguments
    else
      match Head.old (digit :: more) with
      | .error refusal => refusal.ran situation 1
      | .ok portion => run portion rest
  | arguments => run {} arguments

namespace Tail

def step (portion : Portion) (option : Char × Chars) : Except Refusal Portion := do
  let (letter, value) := option
  if letter.isDigit then
    .error ⟨chars "option used in invalid context -- " ++ [letter], false⟩
  else if letter = 'n' || letter = 'c' then
    let isLines := letter = 'n'
    let text := if value.head? = some '-' then value.drop 1 else value
    return { portion with
      isLines, isRest := portion.isRest || value.head? = some '+'
      count := ← Portion.countOf isLines text }
  else return portion.option letter

/-- An old first argument: a sign, a number and letters. -/
def old? (text : Chars) : Option Portion :=
  match text with
  | sign :: more =>
    let digits := more.takeWhile Char.isDigit
    let letters := more.dropWhile Char.isDigit
    let unit := letters.head?.filter "bcl".toList.contains
    let rest := if unit.isSome then letters.drop 1 else letters
    let block := if unit = some 'b' then 512 else 1
    let count := (natural? digits).getD (10 * block)
    if sign ≠ '+' && sign ≠ '-' then none
    else if sign = '-' && (more.isEmpty || more = ['c']) then none
    else if rest ≠ [] && rest ≠ ['f'] then none
    else some { isLines := unit = none || unit = some 'l', count, isRest := sign = '+' }
  | [] => none

/-- Whether arguments have the form in which the first one may be old. -/
def mayBeOld : List Chars → Bool
  | [_] => true
  | [_, file] => !(file.head? = some '-' && 1 < file.length) || file = ['-', '-']
  | [_, dashes, _] => dashes = ['-', '-']
  | _ => false

def run (situation : Situation) (portion : Portion) (operands : List Chars) :
    Except Refusal Ran :=
  .ok <| if portion.isEmpty then { unread := situation.input }
    else portion.shown portion.last situation operands

end Tail

/-- The last lines or octets; with a plus those from a number on. -/
def tail : Program := fun situation arguments =>
  let run (start : Portion) (arguments : List Chars) : Ran :=
    withRequest (Portion.known "fFs:") 1 start Tail.step Tail.run situation arguments
  match if Tail.mayBeOld arguments then Tail.old? (arguments.headD []) else none with
  | some portion => run portion (arguments.drop 1)
  | none => run {} arguments

namespace Reversal

/-- The pieces of a text that end with a separator, or begin with one. The first argument
bounds their number. -/
def pieces (isBefore : Bool) (separator : Chars) : Nat → Chars → Chars → List Chars
  | 0, piece, text => [piece ++ text]
  | _ + 1, piece, [] => if piece.isEmpty then [] else [piece]
  | steps + 1, piece, c :: rest =>
    if separator.isPrefixOf (c :: rest) then
      let rest := (c :: rest).drop separator.length
      if isBefore then
        (if piece.isEmpty then [] else [piece]) ++ pieces isBefore separator steps separator rest
      else (piece ++ separator) :: pieces isBefore separator steps [] rest
    else pieces isBefore separator steps (piece ++ [c]) rest

end Reversal

/-- Lines in reverse order. -/
def tac : Program :=
  withOptions { letters := "brs:", words := [("before", 'b'), ("regex", 'r'), ("separator", 's')] } 1
    fun situation options =>
  let complaint (name : Chars) (error : FileError) : Chars :=
    if error = .isDirectory then quotedName name ++ chars ": read error: " ++ cause error
    else chars "failed to open " ++ quotedName name ++ chars " for reading: " ++ cause error
  let separator := match options.value? 's' with
    | some [] => ['\x00']
    | some separator => separator
    | none => ['\n']
  let turned (text : Chars) : Chars :=
    let pieces :=
      if separator = ['\n'] && !options.has 'b' then linesOf text
      else Reversal.pieces (options.has 'b') separator (text.length + 1) [] text
    pieces.reverse.flatten
  (situation.walk options.operands complaint (fun _ _ text => ((), turned text)) ()).1

end LiveCompile.Shell
