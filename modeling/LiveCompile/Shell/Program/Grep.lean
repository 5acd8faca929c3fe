import LiveCompile.Shell.Program.Options
import LiveCompile.Shell.Regex.Reader
import LiveCompile.Shell.Regex.Search

/-! The program `grep`: it shows the lines in which an expression matches, with lines around
them on request. -/

namespace LiveCompile.Shell.Grep

/-- The letters of options that are only written as words. -/
def label : Char := '\x01'
def binary : Char := '\x02'
def included : Char := '\x03'
def excluded : Char := '\x04'
def excludedDirectory : Char := '\x05'
def color : Char := '\x06'
def separator : Char := '\x07'
def noSeparator : Char := '\x08'
def respectsCase : Char := '\x0e'
def buffering : Char := '\x0f'

def known : Options.Known where
  letters := "EFGPXe:f:iyvwxcloqsbHhnTZA:B:C:aIUurRm:LzD:d:\x01:\x02:\x03:\x04:\x05:\x06::\x07:"
    ++ "\x08\x0e\x0f"
  words := [("basic-regexp", 'G'), ("extended-regexp", 'E'), ("fixed-strings", 'F'),
    ("perl-regexp", 'P'), ("after-context", 'A'), ("before-context", 'B'),
    ("binary-files", binary), ("byte-offset", 'b'), ("context", 'C'), ("color", color),
    ("colour", color), ("count", 'c'), ("devices", 'D'), ("directories", 'd'),
    ("exclude", excluded), ("exclude-dir", excludedDirectory), ("file", 'f'),
    ("files-with-matches", 'l'), ("files-without-match", 'L'), ("group-separator", separator),
    ("include", included), ("ignore-case", 'i'), ("no-ignore-case", respectsCase),
    ("initial-tab", 'T'), ("label", label), ("line-buffered", buffering), ("line-number", 'n'),
    ("line-regexp", 'x'), ("max-count", 'm'), ("no-filename", 'h'),
    ("no-group-separator", noSeparator), ("no-messages", 's'), ("null", 'Z'), ("null-data", 'z'),
    ("only-matching", 'o'), ("quiet", 'q'), ("recursive", 'r'), ("dereference-recursive", 'R'),
    ("regexp", 'e'), ("invert-match", 'v'), ("silent", 'q'), ("text", 'a'),
    ("with-filename", 'H'), ("word-regexp", 'w')]

/-- What is looked for. -/
structure Query where
  regexes : List Regex
  manner : Regex.Manner
  accepts : Regex.Match → Bool
  inverted : Bool

namespace Query

/-- The first match of any of the expressions. -/
def find? (query : Query) (place : Regex.Place) : Option Regex.Match :=
  let found := query.regexes.filterMap fun regex => regex.find? query.manner place query.accepts
  found.foldl (fun best next =>
    match best with
    | some other => if next.precedes other then some next else best
    | none => some next) none

def selects (query : Query) (line : Chars) : Bool :=
  (query.find? { after := line }).isSome != query.inverted

/-- All matches in a line that are not empty. The first argument bounds their number. -/
def matchesIn (query : Query) : Nat → Regex.Place → List Regex.Match
  | 0, _ => []
  | count + 1, place =>
    match query.find? place with
    | none => []
    | some found =>
      if found.text.isEmpty then
        match found.ended.step? with
        | some (_, next) => matchesIn query count next
        | none => []
      else found :: matchesIn query count found.ended

end Query

/-- A way of writing expressions, with its warnings. -/
def regexes (options : Options) (patterns : List Chars) :
    Except Regex.Fault (List Regex × List Char) := do
  let kind := (options.last? "EFGP").getD 'G'
  if kind = 'F' then return (patterns.map Regex.ofLiteral, [])
  else
    let dialect : Regex.Dialect := if kind = 'G' then {}
      else { extended := true, idle := .ignored, keepsBraces := true, keepsClosing := true }
    let found ← patterns.mapM fun pattern => Regex.ofText dialect pattern
    return (found.map (·.1), found.flatMap (·.2))

/-- A line: its number, the octets before it, and its text without its end. -/
structure Line where
  number : Nat
  offset : Nat
  text : Chars

def lines (ending : Char) (text : Chars) : List Line :=
  let step (state : Nat × Nat × List Line) (piece : Chars) : Nat × Nat × List Line :=
    (state.1 + 1, state.2.1 + piece.length, ⟨state.1, state.2.1, barePiece ending piece⟩ :: state.2.2)
  ((piecesEndedBy ending text).foldl step (1, 0, [])).2.2.reverse

/-- How lines are shown. -/
structure Layout where
  /-- the name of the file, if it is shown -/
  name : Option Chars
  afterName : Option Char := none
  numbers : Bool := false
  offsets : Bool := false
  tab : Bool := false
  ending : Char := '\n'
  before : Nat := 0
  after : Nat := 0
  /-- what stands between lines that do not follow each other -/
  separator : Option Chars := none

/-- What stands before a line, with a sign after each part of it. -/
def Layout.lead (layout : Layout) (sign : Char) (number offset : Nat) : Chars :=
  (match layout.name with
    | some name => name ++ [layout.afterName.getD sign]
    | none => [])
    ++ (if layout.numbers then decimal number ++ [sign] else [])
    ++ (if layout.offsets then decimal offset ++ [sign] else [])
    ++ if layout.tab then ['\t'] else []

/-- Each of some items with the distance from the last one before it that is marked. -/
def distances (marks : List Bool) : List (Option Nat) :=
  (marks.foldl (fun (last, found) mark =>
    let last := if mark then some 0 else last.map (· + 1)
    (last, last :: found)) ((none : Option Nat), [])).2.reverse

/-- The lines that are shown, with whether each was selected. -/
def withContext (layout : Layout) (selected : List (Line × Bool)) : List (Line × Bool) :=
  let marks := selected.map (·.2)
  let passed := distances marks
  let coming := (distances marks.reverse).reverse
  (selected.zip (passed.zip coming)).filterMap fun (line, passed, coming) =>
    if passed.any (· ≤ layout.after) || coming.any (· ≤ layout.before) then some line else none

/-- The output for selected lines. `used` tells that there was output before. -/
def blocks (layout : Layout) (present : Char → Line → Chars) (used : Bool)
    (shown : List (Line × Bool)) : Chars :=
  let step (state : Option Nat × Bool × List Chars) (line : Line × Bool) :=
    let (last, used, output) := state
    let separates := used && last ≠ some (line.1.number - 1)
    let between := match layout.separator with
      | some separator => if separates then separator ++ ['\n'] else []
      | none => []
    let text := present (if line.2 then ':' else '-') line.1
    (some line.1.number, true, (between ++ text) :: output)
  (shown.foldl step (none, used, [])).2.2.reverse.flatten

/-- What is found in one text: the output, a complaint, and whether a line was selected. -/
structure Found where
  output : Chars := []
  isBinary : Bool := false
  selected : Bool := false

/-- Looks at one text. `used` tells that there was output before. -/
def look (options : Options) (query : Query) (layout : Layout) (name : Chars) (used : Bool)
    (text : Chars) : Found :=
  let all := lines layout.ending text
  let hits := all.filter fun line => query.selects line.text
  let hits := match (options.value? 'm').bind integer? with
    | some most => if most < 0 then hits else hits.take most.toNat
    | none => hits
  let selected := !hits.isEmpty
  let nameEnd := [layout.afterName.getD '\n']
  let textWanted := !options.has 'a' && !options.has 'z'
    && options.value? binary ≠ some (chars "text") && text.contains '\x00'
  let ignored := textWanted
    && (options.has 'I' || options.value? binary = some (chars "without-match"))
  if ignored then {}
  else if options.has 'q' then { selected }
  else if options.has 'l' then { output := if selected then name ++ nameEnd else [], selected }
  else if options.has 'L' then { output := if selected then [] else name ++ nameEnd, selected }
  else if options.has 'c' then
    let title := match layout.name with
      | some name => name ++ [layout.afterName.getD ':']
      | none => []
    { output := title ++ decimal hits.length ++ ['\n'], selected }
  else if textWanted then { isBinary := selected, selected }
  else
    let numbers := hits.map (·.number)
    let marked := all.map fun line => (line, numbers.contains line.number)
    let present (sign : Char) (line : Line) : Chars :=
      if options.has 'o' then
        if sign = '-' || query.inverted then []
        else (query.matchesIn (line.text.length + 1) { after := line.text }).flatMap fun found =>
          layout.lead sign line.number (line.offset + found.start.position) ++ found.text
            ++ [layout.ending]
      else layout.lead sign line.number line.offset ++ line.text ++ [layout.ending]
    let shown := withContext layout marked
    let shown := if options.has 'o' then shown.filter (·.2) else shown
    { output := blocks layout present used shown, selected }

/-- Whether a name matches one of the patterns that an option gives. -/
def isNamed (options : Options) (option : Char) (name : Chars) : Bool :=
  (options.values option).any fun pattern =>
    (Pattern.ofMarked (pattern.map (·, false))).matchesText name

/-- The files that an operand stands for: itself, or what is below it. -/
def filesOf (situation : Situation) (options : Options) (operand : Chars) : List Chars :=
  let recurses := options.has 'r' || options.has 'R' || options.value? 'd' = some (chars "recurse")
  let view := situation.view
  let isLookedAt (name : Chars) : Bool :=
    ((options.values included).isEmpty || isNamed options included name)
      && !isNamed options excluded name
  match recurses, view.locate (pathOf operand) with
  | true, .ok place =>
    if !view.tree.isDirectoryAt place then [operand]
    else
      let found := (below view.tree 64 place operand).filter fun (place, shown) =>
        let inside := (piecesBetween '/' (shown.drop operand.length)).dropLast
        (view.tree.file? place).isSome && isLookedAt (charsOf (place.getLast?.getD []))
          && !inside.any (isNamed options excludedDirectory)
      found.map (·.2)
  | _, _ => [operand]

def usage : Chars :=
  chars "Usage: grep [OPTION]... PATTERNS [FILE]...\nTry 'grep --help' for more information.\n"

/-- The bound that an option gives for the lines around a selected one. -/
def bound (options : Options) (letter : Char) : Except Chars (Option Nat) :=
  match options.value? letter with
  | none => .ok none
  | some text =>
    match natural? text with
    | some number => .ok (some number)
    | none => .error (text ++ chars ": invalid context length argument")

/-- The patterns that options give, each on a line. -/
def patterns (situation : Situation) (options : Options) : Except Chars (List Chars) :=
  options.given.foldlM (fun patterns (letter, value) =>
    if letter = 'e' then
      .ok (patterns ++ (linesOf (value ++ ['\n'])).map bareLine)
    else if letter = 'f' then
      match situation.contents [value] with
      | (_, .ok text) :: _ => .ok (patterns ++ (linesOf text).map bareLine)
      | (_, .error error) :: _ => .error (value ++ chars ": " ++ cause error)
      | [] => .ok patterns
    else .ok patterns) []

/-- The layout that options ask for. -/
def layoutOf (options : Options) : Except Chars Layout := do
  let around ← bound options 'C'
  let before ← bound options 'B'
  let after ← bound options 'A'
  let isAround := (around.or (before.or after)).isSome
  let separator := if options.last? (String.ofList [separator, noSeparator]) = some noSeparator then
      none else some ((options.value? separator).getD (chars "--"))
  return {
    name := none
    afterName := if options.has 'Z' then some '\x00' else none
    numbers := options.has 'n', offsets := options.has 'b', tab := options.has 'T'
    ending := if options.has 'z' then '\x00' else '\n'
    before := (before.or around).getD 0, after := (after.or around).getD 0
    separator := if isAround then separator else none }

/-- Looks at the texts one after the other. -/
def lookAll (options : Options) (query : Query) (layout : Layout) (titled : Bool)
    (contents : List (Chars × Chars)) : List (Chars × Found) :=
  let step (state : Bool × List (Chars × Found)) (content : Chars × Chars) :=
    let name := if content.1 = ['-'] then (options.value? label).getD (chars "(standard input)")
      else content.1
    let layout := if titled then { layout with name := some name } else layout
    let found := look options query layout name state.1 content.2
    (state.1 || !found.output.isEmpty, (name, found) :: state.2)
  (contents.foldl step (false, [])).2.reverse

/-- Looks for patterns in the operands. -/
def search (situation : Situation) (options : Options) (layout : Layout)
    (patterns : List Chars) (operands : List Chars) : Ran :=
  match regexes options patterns with
  | .error fault => situation.refuse 2 (chars fault.message)
  | .ok (regexes, ignored) =>
    let cases := options.last? (String.ofList ['i', 'y', respectsCase])
    let query : Query :=
      { regexes
        manner := { folds := cases = some 'i' || cases = some 'y' }
        accepts := if options.has 'x' then Regex.Match.isLine
          else if options.has 'w' then Regex.Match.isWord else fun _ => true
        inverted := options.has 'v' }
    let recurses := options.has 'r' || options.has 'R'
    let files := if operands.isEmpty && recurses then
        (filesOf situation options ['.']).map (·.drop 2)
      else operands.flatMap (filesOf situation options)
    let contents := if operands.isEmpty && recurses && files.isEmpty then []
      else situation.contents files
    let skips := options.value? 'd' = some (chars "skip")
    let contents := contents.filter fun
      | (_, .error .isDirectory) => !skips
      | _ => true
    let warnings := ignored.flatMap fun mark =>
      let sign := if mark = '{' then chars "\x7b...\x7d" else [mark]
      situation.complaint (chars "warning: " ++ sign ++ chars " at start of expression")
    let failed := contents.any fun (_, content) => !content.toBool
    let titled := !options.has 'h' || options.last? "hH" = some 'H'
    let titled := titled && (options.has 'H' || recurses || 1 < operands.length)
    let found := lookAll options query layout titled (contents.filterMap fun
      | (name, .ok text) => some (name, text)
      | (_, .error _) => none)
    let complaints := (if options.has 's' then [] else situation.complaintsAbout contents id)
      ++ found.flatMap fun (name, found) =>
        if found.isBinary then situation.complaint (name ++ chars ": binary file matches") else []
    let selected := found.any (·.2.selected)
    { output := found.flatMap (·.2.output), complaints := warnings ++ complaints
      code := if selected && (options.has 'q' || !failed) then 0 else if failed then 2 else 1
      unread := situation.unreadAfter files }

def run (situation : Situation) (options : Options) : Ran :=
  match patterns situation options, layoutOf options with
  | .error text, _ => situation.refuse 2 text
  | _, .error text => situation.refuse 2 text
  | .ok patterns, .ok layout =>
    let invalid (option : Char) (isValid : Chars → Bool) : Bool :=
      (options.value? option).any fun value => !isValid value
    if invalid 'm' fun text => (integer? text).isSome then
      situation.refuse 2 (chars "invalid max count")
    else if invalid binary fun text =>
        ["binary", "text", "without-match"].contains (String.ofList text) then
      situation.refuse 2 (chars "unknown binary-files type")
    else if options.has 'P' && (options.has 'E' || options.has 'F' || options.has 'G') then
      situation.refuse 2 (chars "conflicting matchers specified")
    else if options.has 'e' || options.has 'f' then
      search situation options layout patterns options.operands
    else
      match options.operands with
      | [] => { complaints := usage, code := 2, unread := situation.input }
      | pattern :: operands =>
        search situation options layout ((linesOf (pattern ++ ['\n'])).map bareLine) operands

/-- A number of lines around selected ones, written as an option. -/
def modernized (arguments : List Chars) : List Chars :=
  let before := arguments.takeWhile (· ≠ ['-', '-'])
  before.flatMap (fun argument =>
    match argument with
    | '-' :: digit :: digits =>
      if (digit :: digits).all Char.isDigit then [['-', 'C'], digit :: digits] else [argument]
    | argument => [argument]) ++ arguments.drop before.length

end Grep

/-- Looks for expressions that are written in a way that a letter tells. -/
def grep (kind : Option Char) : Program := fun situation arguments =>
  let situation := { situation with label := chars "grep" }
  match Options.ofArguments Grep.known (Grep.modernized arguments) with
  | .ok options =>
    Grep.run situation { options with given := (kind.toList.map (·, [])) ++ options.given }
  | .error text =>
    { complaints := situation.complaint text ++ Grep.usage, code := 2, unread := situation.input }

end LiveCompile.Shell
