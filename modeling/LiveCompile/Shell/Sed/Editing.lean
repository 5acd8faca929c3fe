import LiveCompile.Shell.Sed.Reader

/-! Editing lines as a script says. A cycle reads a line, carries out the instructions, and
writes what has become of the line. -/

namespace LiveCompile.Shell.Sed

/-- A line to edit. -/
structure InputLine where
  file : Chars
  number : Nat
  text : Chars
  /-- whether the line has the character that ends it -/
  isEnded : Bool
  isLast : Bool

/-- Where something is written. -/
inductive Target where
  | output
  | complaints
  | file (name : Chars)
  /-- the new content of a file that is edited -/
  | edited (name : Chars)
  deriving DecidableEq

/-- What was written to a target: the pieces, the last one first, and whether the last line
lacks its end. -/
structure Written where
  pieces : List Chars := []
  lacksEnd : Bool := false

/-- Where a range of lines stands. -/
inductive Range where
  | closed
  /-- it is open up to a line; if lines were passed over, it may hold the first one behind -/
  | openUntil (line : Nat) (holdsNext : Bool)
  /-- it is open until something is found -/
  | openUntilFound
  deriving DecidableEq

inductive Queued where
  | text (text : Chars)
  | file (name : Chars)
  | line (text : Chars) (isEnded : Bool)

/-- How a script is run. -/
structure Settings where
  quiet : Bool := false
  ending : Char := '\n'
  width : Nat := 70
  /-- the files are edited themselves -/
  inPlace : Bool := false

structure Editing where
  rest : List InputLine
  current : InputLine
  space : Chars := []
  /-- whether the line that is edited has the character that ends it -/
  isEnded : Bool := true
  held : Chars := []
  heldIsEnded : Bool := true
  replaced : Bool := false
  queued : List Queued := []
  ranges : List (Nat × Range) := []
  lastSought : Option (Regex × Regex.Manner) := none
  written : List (Target × Written) := []
  /-- the lines that are left of the files that are read line by line -/
  readers : List (Chars × List Chars) := []
  /-- how the script ended before the input did -/
  code : Nat := 0
  /-- an empty expression was met before any other one -/
  lacksSought : Bool := false

namespace Editing

def writtenTo (editing : Editing) (target : Target) : Written :=
  ((editing.written.find? (·.1 = target)).map (·.2)).getD {}

def put (editing : Editing) (target : Target) (written : Written) : Editing :=
  if editing.written.any (·.1 = target) then
    { editing with written := editing.written.map fun (other, before) =>
        (other, if other = target then written else before) }
  else { editing with written := editing.written ++ [(target, written)] }

/-- Writes a text after the end of the line before it. -/
def write (editing : Editing) (settings : Settings) (target : Target) (text : Chars)
    (isEnded : Bool := true) : Editing :=
  let before := editing.writtenTo target
  let pieces := if before.lacksEnd then [settings.ending] :: before.pieces else before.pieces
  editing.put target ⟨text :: pieces, !isEnded⟩

/-- Where lines go. -/
def mainTarget (editing : Editing) (settings : Settings) : Target :=
  if settings.inPlace then .edited editing.current.file else .output

/-- Where a named file goes. -/
def targetOf (editing : Editing) (settings : Settings) (name : Chars) : Target :=
  if name = chars "/dev/stdout" then editing.mainTarget settings
  else if name = chars "/dev/stderr" then .complaints
  else .file name

/-- Writes a line to a target. -/
def writeLine (editing : Editing) (settings : Settings) (target : Target) (text : Chars)
    (isEnded : Bool := true) : Editing :=
  editing.write settings target (if isEnded then text ++ [settings.ending] else text) isEnded

/-- Writes the text of an instruction, which ends like a line. -/
def addText (editing : Editing) (settings : Settings) (target : Target) (text : Chars) : Editing :=
  if text.isEmpty then editing else editing.writeLine settings target text.dropLast

def print (editing : Editing) (settings : Settings) (text : Chars) (isEnded : Bool := true) :
    Editing :=
  editing.writeLine settings (editing.mainTarget settings) text isEnded

/-- Writes what is queued. -/
def flush (settings : Settings) (read : Chars → Chars) (editing : Editing) : Editing :=
  let target := editing.mainTarget settings
  let flushed := editing.queued.foldl (fun editing queued =>
    match queued with
    | .text text => if text.isEmpty then editing else editing.write settings target text
    | .file name =>
      let content := read name
      if content.isEmpty then editing else editing.write settings target content
    | .line text isEnded => editing.writeLine settings target text isEnded) editing
  { flushed with queued := [] }

/-- The line that is edited begins anew with the next line of the input. -/
def advance? (editing : Editing) : Option Editing :=
  match editing.rest with
  | [] => none
  | line :: rest =>
    some { editing with rest, current := line, isEnded := line.isEnded, replaced := false }

/-- The expression that is looked for. -/
def seek (editing : Editing) (sought : Sought) : Option (Regex × Regex.Manner) × Editing :=
  match sought.regex with
  | some regex =>
    let found := some (regex, sought.manner)
    (found, { editing with lastSought := found })
  | none =>
    (editing.lastSought, { editing with lacksSought := editing.lastSought.isNone })

def finds (editing : Editing) (sought : Sought) : Bool × Editing :=
  let (found, editing) := editing.seek sought
  (found.any fun (regex, manner) => regex.isIn manner editing.space, editing)

def holds (editing : Editing) : Address → Bool × Editing
  | .line number => (editing.current.number = number, editing)
  | .every first step =>
    let number := editing.current.number
    (first ≤ number && (number - first) % step = 0, editing)
  | .last => (editing.current.isLast, editing)
  | .matching sought => editing.finds sought

def withRange (editing : Editing) (index : Nat) (range : Range) : Editing :=
  { editing with ranges := (index, range) :: editing.ranges.filter (·.1 ≠ index) }

/-- Opens a range at the line that is edited. -/
def openRange (editing : Editing) (index : Nat) : Extent → Editing
  | .line number => untilLine number false
  | .more count => untilLine (editing.current.number + count) true
  | .multiple divisor =>
    editing.withRange index (if divisor = 0 then .closed else .openUntilFound)
  | .last =>
    editing.withRange index (if editing.current.isLast then .closed else .openUntilFound)
  | .matching _ => editing.withRange index .openUntilFound
where
  untilLine (number : Nat) (holdsNext : Bool) : Editing :=
    editing.withRange index
      (if number ≤ editing.current.number then .closed else .openUntil number holdsNext)

/-- Whether the instruction with a number applies to the line that is edited. -/
def selects (editing : Editing) (index : Nat) (selection : Selection) : Bool × Editing :=
  let range := (editing.ranges.find? (·.1 = index)).map (·.2)
  let (hit, editing) := match selection.first, selection.extent, range with
    | none, none, _ => (true, editing)
    | some first, none, _ => editing.holds first
    | _, some _, some (.openUntil last holdsNext) =>
      let number := editing.current.number
      (holdsNext || number ≤ last,
        if last ≤ number then editing.withRange index .closed else editing)
    | _, some extent, some .openUntilFound => stillOpen editing extent
    | none, some extent, none => stillOpen editing extent
    | none, some _, some .closed => (false, editing)
    | some (.line first), some extent, range =>
      let number := editing.current.number
      if (range.isNone && first ≤ number) || first = number then
        let isOver := match extent with
          | .line last => last < number && first < number
          | _ => false
        (!isOver, editing.openRange index extent)
      else (false, editing)
    | some first, some extent, _ =>
      let (hit, editing) := editing.holds first
      (hit, if hit then editing.openRange index extent else editing)
  (hit != selection.negated, editing)
where
  stillOpen (editing : Editing) (extent : Extent) : Bool × Editing :=
    let (ends, editing) := match extent with
      | .matching sought => editing.finds sought
      | .multiple divisor => (editing.current.number % divisor = 0, editing)
      | _ => (editing.current.isLast, editing)
    (true, editing.withRange index (if ends then .closed else .openUntilFound))

end Editing

def Case.apply : Case → Chars → Chars
  | .asIs, text => text
  | .upper, text => text.map Char.toUpper
  | .lower, text => text.map Char.toLower

/-- A text with its case changed, that of its first letter on its own. -/
def Piece.cased (case first : Case) (text : Chars) : Chars :=
  match first, text with
  | .asIs, text => case.apply text
  | first, c :: rest => first.apply [c] ++ case.apply rest
  | _, [] => []

/-- The text that takes the place of a match; `pending` is the case of a first letter that is
still to come. -/
def replacement (found : Regex.Match) : Case → List Piece → Chars
  | _, [] => []
  | pending, piece :: rest =>
    let first := if piece.first = .asIs then pending else piece.first
    let text := Piece.cased piece.case first piece.text
    let first := if piece.text.isEmpty then first else .asIs
    match piece.group with
    | none => text ++ replacement found .asIs rest
    | some index =>
      let taken := found.group index
      let pending := if taken.isEmpty && piece.first ≠ .asIs then first else .asIs
      text ++ Piece.cased piece.case first taken ++ replacement found pending rest

/-- Replaces matches in what follows a place; `skip` is the number of those that stay, and
`touches` tells that a match ends at the place. Gives the text and whether anything was
replaced. The first argument bounds the number of matches. -/
def substituted (regex : Regex) (manner : Regex.Manner) (substitution : Substitution) :
    Nat → Nat → Bool → Regex.Place → Chars × Bool
  | 0, _, _, place => (place.after, false)
  | count + 1, skip, touches, place =>
    match regex.find? manner place with
    | none => (place.after, false)
    | some found =>
      let lead := place.upTo found.start
      let goOn (text : Chars) (changed : Bool) (skip : Nat) : Chars × Bool :=
        if found.text.isEmpty then
          match found.ended.step? with
          | none => (lead ++ text, changed)
          | some (c, next) =>
            let (rest, more) := substituted regex manner substitution count skip false next
            (lead ++ text ++ c :: rest, changed || more)
        else
          let (rest, more) := substituted regex manner substitution count skip true found.ended
          (lead ++ text ++ rest, changed || more)
      if touches && found.text.isEmpty && lead.isEmpty then goOn [] false skip
      else if 0 < skip then goOn found.text false (skip - 1)
      else
        let text := replacement found .asIs substitution.pieces
        if substitution.every then goOn text true skip
        else (lead ++ text ++ found.ended.after, true)

/-- A character as it is written out. -/
def shownChar (c : Char) : Chars :=
  match c with
  | '\\' => ['\\', '\\']
  | '\x07' => ['\\', 'a']
  | '\x08' => ['\\', 'b']
  | '\x0c' => ['\\', 'f']
  | '\n' => ['\\', 'n']
  | '\r' => ['\\', 'r']
  | '\t' => ['\\', 't']
  | '\x0b' => ['\\', 'v']
  | c =>
    if ' ' ≤ c && c ≤ '~' then [c]
    else '\\' :: [c.toNat / 64, c.toNat / 8 % 8, c.toNat % 8].map fun digit =>
      Char.ofNat (digit + '0'.toNat)

/-- A text written out in lines of a width; with zero it is one line. -/
def shownText (width : Nat) (text : Chars) : Chars :=
  let step (state : Nat × List Chars) (c : Char) : Nat × List Chars :=
    let shown := shownChar c
    if 0 < width && width ≤ state.1 + shown.length then
      (shown.length, shown :: ['\\', '\n'] :: state.2)
    else (state.1 + shown.length, shown :: state.2)
  (text.foldl step (0, [])).2.reverse.flatten ++ ['$']

/-- How the script goes on after an instruction. -/
inductive Next where
  | goTo (index : Nat)
  /-- the line is written and the next one read -/
  | finish
  /-- the next line is read -/
  | drop
  /-- the script begins anew with what is left of the line -/
  | again
  | stop (quietly : Bool)

/-- What a script finds around it. -/
structure Surroundings where
  settings : Settings
  /-- the content of a file, or nothing -/
  read : Chars → Chars

/-- Carries out an action that is not a jump. -/
def act (around : Surroundings) (index : Nat) (action : Action) (isNegated : Bool)
    (editing : Editing) : Next × Editing :=
  let settings := around.settings
  let goOn (editing : Editing) : Next × Editing := (.goTo (index + 1), editing)
  let here := editing.mainTarget settings
  let firstLine := editing.space.takeWhile (· ≠ settings.ending)
  let isEnded := editing.isEnded
  match action with
  | .block _ => goOn editing
  | .nothing => goOn editing
  | .jump _ _ => goOn editing
  | .substitute substitution =>
    let (found, editing) := editing.seek substitution.sought
    match found with
    | none => (.stop true, editing)
    | some (regex, manner) =>
      let (space, changed) := substituted regex manner substitution (editing.space.length + 2)
        (substitution.from? - 1) false { after := editing.space }
      if !changed then goOn editing
      else
        let editing := { editing with space, replaced := true }
        let editing := if 0 < substitution.prints then editing.print settings space isEnded
          else editing
        match substitution.file with
        | some file =>
          goOn (editing.writeLine settings (editing.targetOf settings file) space isEnded)
        | none => goOn editing
  | .transliterate targets =>
    goOn { editing with space := editing.space.map fun c =>
      ((targets.find? (·.1 = c)).map (·.2)).getD c }
  | .delete => (.drop, editing)
  | .deleteFirst =>
    if editing.space.contains settings.ending then
      (.again, { editing with space := editing.space.drop (firstLine.length + 1) })
    else (.drop, editing)
  | .print => goOn (editing.print settings editing.space isEnded)
  | .printFirst =>
    goOn (editing.print settings firstLine (isEnded || firstLine.length < editing.space.length))
  | .next =>
    if editing.rest.isEmpty then (.finish, editing)
    else
      let editing := if settings.quiet then editing
        else editing.print settings editing.space isEnded
      match (editing.flush settings around.read).advance? with
      | some editing => goOn { editing with space := editing.current.text }
      | none => (.finish, editing)
  | .appendNext =>
    match editing.rest.isEmpty, (editing.flush settings around.read).advance? with
    | false, some next =>
      goOn { next with space := next.space ++ settings.ending :: next.current.text }
    | _, _ => (.finish, editing)
  | .hold => goOn { editing with held := editing.space, heldIsEnded := isEnded }
  | .appendHold =>
    goOn { editing with
      held := editing.held ++ settings.ending :: editing.space
      heldIsEnded := isEnded }
  | .get => goOn { editing with space := editing.held, isEnded := editing.heldIsEnded }
  | .appendGet =>
    goOn { editing with
      space := editing.space ++ settings.ending :: editing.held
      isEnded := editing.heldIsEnded }
  | .exchange =>
    goOn { editing with
      space := editing.held, isEnded := editing.heldIsEnded
      held := editing.space, heldIsEnded := isEnded }
  | .clear => goOn { editing with space := [] }
  | .append text => goOn { editing with queued := editing.queued ++ [.text text] }
  | .insert text => goOn (editing.addText settings here text)
  | .change text =>
    let range := (editing.ranges.find? (·.1 = index)).map (·.2)
    let isInside := !isNegated && range.any (· ≠ .closed)
    (.drop, if isInside then editing else editing.addText settings here text)
  | .number => goOn (editing.write settings here (decimal editing.current.number ++ [settings.ending]))
  | .show width =>
    let text := shownText (width.getD settings.width) editing.space
    goOn (editing.writeLine settings here text)
  | .fileName => goOn (editing.write settings here (editing.current.file ++ [settings.ending]))
  | .read file => goOn { editing with queued := editing.queued ++ [.file file] }
  | .readLine file =>
    let lines := ((editing.readers.find? (·.1 = file)).map (·.2)).getD
      (piecesEndedBy settings.ending (around.read file))
    let readers := (file, lines.drop 1) :: editing.readers.filter (·.1 ≠ file)
    let queued := match lines with
      | [] => editing.queued
      | line :: _ => editing.queued ++ [.line (barePiece settings.ending line)
          (line.getLast? = some settings.ending)]
    goOn { editing with readers, queued }
  | .write file =>
    goOn (editing.writeLine settings (editing.targetOf settings file) editing.space isEnded)
  | .writeFirst file =>
    goOn (editing.writeLine settings (editing.targetOf settings file) firstLine)
  | .quit code quietly => (.stop quietly, { editing with code })

/-- Carries out the instruction with a number. -/
def step (around : Surroundings) (index : Nat) (instruction : Instruction) (editing : Editing) :
    Next × Editing :=
  let (hit, editing) := editing.selects index instruction.selection
  if editing.lacksSought then (.stop true, editing)
  else
    match instruction.action, hit with
    | .block past, false => (.goTo past, editing)
    | _, false => (.goTo (index + 1), editing)
    | .jump .always target, true => (.goTo target, editing)
    | .jump .replaced target, true =>
      if editing.replaced then (.goTo target, { editing with replaced := false })
      else (.goTo (index + 1), editing)
    | .jump .notReplaced target, true =>
      if editing.replaced then (.goTo (index + 1), { editing with replaced := false })
      else (.goTo target, editing)
    | action, true => act around index action instruction.selection.negated editing

/-- The line that was edited is written, if lines are, and what is queued after it. -/
def endCycle (around : Surroundings) (writes : Bool) (editing : Editing) : Editing :=
  let settings := around.settings
  let editing := if writes && !settings.quiet then
      editing.print settings editing.space editing.isEnded
    else editing
  editing.flush settings around.read

/-- Runs a script from an instruction on. The first argument bounds the number of steps. -/
def run (around : Surroundings) (script : Script) : Nat → Nat → Editing → Editing
  | 0, _, editing => editing
  | count + 1, index, editing =>
    let next (writes : Bool) (editing : Editing) : Editing :=
      let editing := endCycle around writes editing
      match editing.advance? with
      | some editing =>
        run around script count 0 { editing with space := editing.current.text }
      | none => editing
    match script[index]? with
    | none => next true editing
    | some instruction =>
      match step around index instruction editing with
      | (.goTo index, editing) => run around script count index editing
      | (.finish, editing) => next true editing
      | (.drop, editing) => next false editing
      | (.again, editing) => run around script count 0 (endCycle around false editing)
      | (.stop quietly, editing) =>
        if quietly then editing else endCycle around true { editing with isEnded := true }

/-- The lines of some files; if they count as one file, only its last line is the last one. -/
def inputLines (ending : Char) (isSeparate : Bool) (files : List (Chars × Chars)) :
    List InputLine :=
  let ofFile (first : Nat) (file : Chars × Chars) : List InputLine :=
    let pieces := piecesEndedBy ending file.2
    (pieces.zipIdx first).map fun (piece, number) =>
      { file := file.1, number, text := barePiece ending piece
        isEnded := piece.getLast? = some ending
        isLast := isSeparate && number = first + pieces.length - 1 }
  let lines := (files.foldl (fun (state : Nat × List InputLine) file =>
    let lines := ofFile state.1 file
    (if isSeparate then 1 else state.1 + lines.length, state.2 ++ lines)) (1, [])).2
  match lines.getLast? with
  | some last => lines.dropLast ++ [{ last with isLast := true }]
  | none => []

/-- How many steps a script may make. -/
def mostSteps : Nat := 1000000

/-- Edits lines. -/
def edit (around : Surroundings) (script : Script) (lines : List InputLine) : Editing :=
  match lines with
  | [] => { rest := [], current := ⟨['-'], 0, [], true, true⟩ }
  | line :: rest =>
    run around script mostSteps 0
      { rest, current := line, space := line.text, isEnded := line.isEnded }

end LiveCompile.Shell.Sed
