import LiveCompile.Shell.Program.Options
import LiveCompile.Shell.Program.Quantity
import LiveCompile.Shell.Program.Runs

/-! Counting lines, words and octets: `wc`. -/

namespace LiveCompile.Shell

/-- Counts of a text. -/
structure Counts where
  lines : Nat := 0
  words : Nat := 0
  octets : Nat := 0
  /-- the width of the longest line -/
  longest : Nat := 0

namespace Counts

/-- Words have a character that can be printed, between blanks. -/
def wordCount (text : Chars) : Nat :=
  (text.foldl (fun (count, inWord) c =>
    if isBlankOrLine c then (count, false)
    else if isPrintable c && !inWord then (count + 1, true)
    else (count, inWord)) ((0 : Nat), false)).1

/-- The width of the longest line; a tab goes on to the next multiple of eight. -/
def widest (text : Chars) : Nat :=
  let step (widths : Nat × Nat) (c : Char) : Nat × Nat :=
    let (widest, width) := widths
    if c = '\n' || c = '\r' || c = '\x0c' then (max widest width, 0)
    else if c = '\t' then (widest, width + 8 - width % 8)
    else if isPrintable c then (widest, width + 1)
    else (widest, width)
  let (widest, width) := text.foldl step (0, 0)
  max widest width

def ofText (text : Chars) : Counts where
  lines := text.count '\n'
  words := wordCount text
  octets := text.length
  longest := widest text

def add (a b : Counts) : Counts :=
  ⟨a.lines + b.lines, a.words + b.words, a.octets + b.octets, max a.longest b.longest⟩

/-- What is shown. -/
structure Request where
  columns : List Char := []
  total : String := "auto"

/-- Options that have no letter. -/
def totalOption : Char := '\x01'

def step (request : Request) (option : Char × Chars) : Except Refusal Request :=
  if option.1 = totalOption then
    match choice "--total" [["auto"], ["always"], ["only"], ["never"]] option.2 with
    | .ok total => .ok { request with total }
    | .error text => .error ⟨text, true⟩
  else .ok { request with columns := option.1 :: request.columns }

/-- The counts that are asked for, in the order of their columns. -/
def shown (columns : List Char) (counts : Counts) : List Nat :=
  let all := [('l', counts.lines), ('w', counts.words), ('m', counts.octets),
    ('c', counts.octets), ('L', counts.longest)]
  let columns := if columns.isEmpty then ['l', 'w', 'c'] else columns
  all.filterMap fun (letter, n) => if columns.contains letter then some n else none

def line (request : Request) (width : Nat) (name : Chars) (counts : Counts) : Chars :=
  let name := if name.contains '\n' then shownName name else name
  [' '].intercalate ((shown request.columns counts).map fun n => rightAligned width (decimal n))
    ++ (if name.isEmpty then [] else ' ' :: name) ++ ['\n']

/-- The size of a file, or nothing for what is none. -/
def size? (situation : Situation) (name : Chars) : Except FileError (Option Nat) := do
  if Situation.isInput name then
    return if situation.inputIsFile then some situation.input.length else none
  else
    let place ← situation.view.locate (pathOf name)
    return (situation.view.tree.file? place).map List.length

/-- The width of the columns: enough for the sizes of all files together, and at least seven
with one operand that is no file. -/
def width (request : Request) (situation : Situation) (operands : List Chars) : Nat :=
  let sizes := ((if operands.isEmpty then [['-']] else operands).map
    (size? situation)).filterMap Except.toOption
  let digits := (decimal ((sizes.filterMap id).foldl (· + ·) 0)).length
  let isSingle := operands.length ≤ 1 && (shown request.columns {}).length = 1
  if request.total = "only" || isSingle then 1
  else if sizes.contains none then max 7 digits
  else digits

def run (situation : Situation) (request : Request) (operands : List Chars) : Except Refusal Ran :=
  let width := width request situation operands
  let step (done : Ran × Counts) (content : Chars × Except FileError Chars) : Ran × Counts :=
    let (ran, total) := done
    let (name, text) := content
    let say (written : List (Channel × Chars)) : Ran :=
      { ran with written := ran.written ++ written }
    let shown (counts : Counts) : Channel × Chars :=
      (.output, if request.total = "only" then []
        else line request width (if operands.isEmpty then [] else name) counts)
    let complaint (text : Chars) : Channel × Chars := (.complaints, situation.complaint text)
    match name, text with
    | [], _ => ({ say [complaint (chars "invalid zero-length file name")] with code := 1 }, total)
    | name, .error error =>
      let about := complaint (shownName name ++ chars ": " ++ cause error)
      let counted := if error = .isDirectory then [shown {}] else []
      ({ say (about :: counted) with code := 1 }, total)
    | _, .ok text =>
      let counts := ofText text
      (say [shown counts], total.add counts)
  let (ran, total) := (situation.contents operands).foldl step
    ({ unread := situation.unreadAfter operands }, {})
  let isTotal := request.total = "always" || request.total = "only"
    || (request.total = "auto" && 1 < operands.length)
  let title := if request.total = "only" then [] else chars "total"
  .ok { ran with output := if isTotal then line request width title total else [] }

end Counts

/-- Counts lines, words and octets. -/
def wc : Program :=
  withRequest { letters := "clLmw\x01:", words := [("bytes", 'c'), ("chars", 'm'),
    ("lines", 'l'), ("max-line-length", 'L'), ("words", 'w'), ("total", Counts.totalOption)] } 1 {}
    Counts.step Counts.run

end LiveCompile.Shell
