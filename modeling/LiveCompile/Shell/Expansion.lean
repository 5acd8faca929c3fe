import LiveCompile.Shell.Alteration
import LiveCompile.Shell.Brace
import LiveCompile.Shell.Calculation
import LiveCompile.Shell.Field

/-! What words stand for. An expansion may change the state: parameters take values, scripts
in words run. It may also end the shell; the parts after that are not looked at. -/

namespace LiveCompile.Shell

/-- Runs a script and gives what it writes. -/
abbrev Interpreter := State → Chars → Chars × State

/-- What a parameter stands for. -/
inductive Parameter where
  | single (value : Option Chars)
  /-- values that are fields of their own, or one field if they stand between quotes -/
  | several (joins : Bool) (values : List Chars)

namespace Parameter

/-- The value in one text; the separator stands between several values. -/
def value? (separator : Chars) : Parameter → Option Chars
  | single value => value
  | several _ [] => none
  | several _ values => some (separator.intercalate values)

def map (change : Chars → Chars) : Parameter → Parameter
  | single value => single (value.map change)
  | several joins values => several joins (values.map change)

def atoms (separator : Chars) (quoted : Bool) : Parameter → List Atom
  | single value => Atom.ofExpansion quoted (value.getD [])
  | several joins values =>
    if joins && quoted then Atom.ofExpansion true (separator.intercalate values)
    else
      [.boundary].intercalate (values.map fun value =>
        if quoted then .present :: Atom.ofExpansion true value else Atom.ofExpansion false value)

end Parameter

namespace State

/-- What stands between several values in one text. -/
def joint (state : State) : Chars :=
  match state.value? (chars "IFS") with
  | none => [' ']
  | some separators => separators.take 1

/-- Whether the lack of a value ends the shell. -/
def requires (state : State) (name : Chars) : Bool :=
  state.settings.contains .nounset && name ≠ ['@'] && name ≠ ['*']

def giveUpUnset (state : State) (name : Chars) : State :=
  let shown := if name.all Char.isDigit then '$' :: name else name
  state.abort (name ++ chars ": parameter not set") (shown ++ chars ": unbound variable")
    (if state.settings.contains .errexit then 1 else 127)

/-- The value of an arithmetic expression of the plain shell. -/
def calculatePlain (state : State) (text : Chars) : State × Chars :=
  let refuse (cause : String) : State × Chars :=
    (state.giveUp (chars ("arithmetic expression: " ++ cause ++ ": \"") ++ text ++ ['"']), [])
  match Expression.ofText text with
  | .error fault => refuse fault.message
  | .ok expression =>
    match expression.value state.integer [] with
    | .error .divisionByZero => refuse "division by zero"
    | .error (.notNumber text) => (state.giveUp (chars "Illegal number: " ++ text), [])
    | .ok (value, assigned) =>
      let digits (number : Int) : Chars := (toString number).toList
      (assigned.reverse.foldl (fun state (name, number) => state.assign name (digits number)) state,
        digits value)

/-- The value of an arithmetic expression. -/
def calculate (state : State) (text : Chars) : State × Chars :=
  match state.dialect with
  | .plain => state.calculatePlain text
  | .extended =>
    match state.compute text with
    | .ok (value, state) => (state, Calculation.decimalOf value)
    | .error complaint => (state.abort complaint complaint, [])

end State

namespace State

/-- The key that a text in brackets means. What is no map counts its elements; a negative number
counts from the end. -/
def keyFor (state : State) (name key : Chars) : State × Chars :=
  if state.isMap name then (state, key)
  else
    let (state, text) := state.calculate key
    match integer? text with
    | some number =>
      let last := (((state.cellsOf name).getLast?).bind fun (key, _) => natural? key)
      let size : Int := (last.map fun last => (last : Int) + 1).getD 0
      (state, if number < 0 then Calculation.decimalOf (size + number) else text)
    | none => (state, text)

/-- The state after an assignment to a variable or to an element of it. -/
def assignTo (state : State) (name : Chars) (key : Option Chars) (appends : Bool)
    (value : Chars) : State :=
  let (state, key) := match key with
    | none => (state, none)
    | some key =>
      let (state, key) := state.keyFor name key
      (state, some key)
  let before := if !appends then []
    else ((match key with
      | none => state.value? name
      | some key => state.element? name key).getD [])
  let (state, value) := if !(state.held? name).any (·.isInteger) then (state, before ++ value)
    else
      let (state, number) := state.calculate value
      if appends then state.calculate (before ++ '+' :: number) else (state, number)
  if !state.isGoing then state
  else
    match key with
    | none => state.assign name value
    | some key => state.putElement name key value

/-- What a name stands for, or an element of it. -/
def parameterOf (state : State) (name : Chars) (key : Option Chars) : State × Parameter :=
  match key with
  | none =>
    if name = ['@'] || name = ['*'] then (state, .several (name = ['*']) state.arguments)
    else (state, .single (state.special? name))
  | some key =>
    if isEveryKey key then (state, .several (key = ['*']) ((state.cellsOf name).map (·.2)))
    else
      let (state, key) := state.keyFor name key
      (state, .single (state.element? name key))

/-- The part of a parameter that a slice names. -/
def sliced (state : State) (name : Chars) (parameter : Parameter) (text : Chars) :
    State × Parameter :=
  if parameter.value? [] = none then (state, parameter)
  else
  let (start, length) := Alteration.sliceParts text
  let number (state : State) (text : Chars) : State × Int :=
    let (state, digits) := state.calculate (if text.isEmpty then ['0'] else text)
    (state, (integer? digits).getD 0)
  let (state, start) := number state start
  let (state, length) := match length with
    | none => (state, none)
    | some text =>
      let (state, length) := number state text
      (state, some length)
  let refuse : State × Parameter :=
    let told := Calculation.decimalOf (length.getD 0) ++ chars ": substring expression < 0"
    (state.abort told told, .single none)
  if !state.isGoing then (state, .single none)
  else
    match parameter with
    | .single none => (state, .single none)
    | .single (some value) =>
      match Alteration.extent value.length start length with
      | some (place, count) => (state, .single (some ((value.drop place).take count)))
      | none => refuse
    | .several joins values =>
      let values := if name = ['@'] || name = ['*'] then state.name :: values else values
      match Alteration.extent values.length start (length.filter (0 ≤ ·)) with
      | some (place, count) =>
        if length.any (· < 0) then refuse
        else (state, .several joins ((values.drop place).take count))
      | none => refuse

/-- What a parameter stands for that an operator of the extended shell changes, given the atoms
of the word after the operator. -/
def altered (state : State) (name : Chars) (parameter : Parameter) (operator : Operator)
    (atoms : List Atom) : State × Parameter :=
  match operator with
  | .slice => state.sliced name parameter (Atom.text atoms)
  | .replace place =>
    let pattern := Atom.marked (atoms.takeWhile (· ≠ .boundary))
    let new := Atom.marked ((atoms.dropWhile (· ≠ .boundary)).drop 1)
    (state, parameter.map (Alteration.replaced place (Pattern.ofMarked pattern) new))
  | .change toUpper isAll =>
    let pattern := Pattern.ofMarked (Atom.marked atoms)
    (state, parameter.map (Alteration.recased toUpper isAll pattern))
  | .quoted => (state, parameter.map Alteration.quoted)
  | .keys => (state, .several false ((state.cellsOf name).map (·.1)))
  | .namesFrom =>
    let names := (state.bindings.map (·.1)).filter name.isPrefixOf
    (state, .several false (names.mergeSort textLE))
  | .indirect =>
    match parameter.value? [] with
    | none =>
      let told := name ++ chars ": invalid indirect expansion"
      (state.abort told told, .single none)
    | some target =>
      let (name, key) := Calculation.nameParts target
      state.parameterOf name key
  | _ => (state, parameter)

/-- The place of a file that stands for an open descriptor. -/
def transientPlace (number : Nat) : List FileName :=
  ["dev", "fd", toString number].map fun name => octetsOf (chars name)

/-- The state with a file that holds a text as long as a command runs, and its path. -/
def withTransient (state : State) (text : Chars) : Chars × State :=
  let isFree (number : Nat) : Bool := (state.view.tree.file? (transientPlace number)).isNone
  let number := ((List.range 64).reverse.find? isFree).getD 0
  (chars "/dev/fd/" ++ decimal number,
    state.withTree (state.view.tree.write (transientPlace number) (octetsOf text)))

/-- The state without the files of that kind that were not there before. -/
def withoutTransients (state before : State) : State :=
  let isNew (place : List FileName) : Bool := (before.view.tree.file? place).isNone
  let places := ((List.range 64).map transientPlace).filter fun place =>
    (state.view.tree.file? place).isSome && isNew place
  if places.isEmpty then state
  else { state with view := { state.view with
    tree := places.foldl (fun tree place => tree.remove place) state.view.tree } }

end State

/-- Whether a part between quotes may be no field at all. -/
def mayBeNothing : Part → Bool
  | .parameter true name key operator _ =>
    let isEvery := name = ['@'] || (Word.bare? key) = some ['@']
    match operator with
    | .value => isEvery
    | .slice => isEvery
    | .replace _ => isEvery
    | .change _ _ => isEvery
    | .dropStart _ => isEvery && name ≠ ['@']
    | .dropEnd _ => isEvery && name ≠ ['@']
    | .keys => isEvery
    | _ => false
  | _ => false

/-- A script's output as it stands in a word: without the line feeds at its end. -/
def outputText (output : Chars) : Chars :=
  (((output.filter (· ≠ '\x00')).reverse.dropWhile (· = '\n'))).reverse

/-- Where a tilde stands for the directory of a user. -/
inductive Tilde where
  | nowhere
  | atStart
  /-- at the start and after each colon -/
  | inPaths
  deriving DecidableEq, Repr

/-- The directory of a user; without a name it is the one who runs the shell. -/
def homeOf? (state : State) (user : Chars) : Option Chars :=
  if user.isEmpty then state.value? (chars "HOME")
  else if user = chars "root" then some (chars "/root")
  else none

/-- The atoms of a text that is not quoted; `inside` tells that it counts as expanded. -/
def plainAtoms (inside : Bool) (text : Chars) : List Atom :=
  if inside then Atom.ofExpansion false text else Atom.ofLiteral false text

/-- The atoms of a piece of text in which a tilde at the start, and a name after it, stand for
a directory; `isEnded` tells that no other part continues the piece. -/
def homedAtoms (state : State) (inside isEnded : Bool) : Chars → List Atom
  | '~' :: text =>
    let user := text.takeWhile (· ≠ '/')
    let rest := text.dropWhile (· ≠ '/')
    match if rest.isEmpty && !isEnded then none else homeOf? state user with
    | some home => Atom.ofLiteral (!home.isEmpty) home ++ plainAtoms inside rest
    | none => plainAtoms inside ('~' :: text)
  | text => plainAtoms inside text

/-- The atoms of the pieces of a list of paths. -/
def pathAtoms (state : State) (inside isStart isEnded : Bool) : List Chars → List Atom
  | [] => []
  | [piece] => if isStart then homedAtoms state inside isEnded piece else plainAtoms inside piece
  | piece :: rest =>
    (if isStart then homedAtoms state inside true piece else plainAtoms inside piece)
      ++ plainAtoms inside [':'] ++ pathAtoms state inside true isEnded rest

/-- The atoms of a text in a word; `isStart` and `isEnded` tell that the word begins and ends
with it. -/
def literalAtoms (state : State) (inside : Bool) (tilde : Tilde) (isStart isEnded quoted : Bool)
    (text : Chars) : List Atom :=
  if quoted then Atom.ofLiteral true text
  else
    match tilde with
    | .nowhere => plainAtoms inside text
    | .atStart => if isStart then homedAtoms state inside isEnded text else plainAtoms inside text
    | .inPaths => pathAtoms state inside isStart isEnded (piecesBetween ':' text)

mutual

/-- The atoms of a part that is no text; `tilde` tells where a tilde counts in the word. -/
def expandPart (interpret : Interpreter) (tilde : Tilde) : Part → State → State × List Atom
  | .literal _ _, state => (state, [])
  | .output quoted _ script, state =>
    let (output, state) := interpret state script
    (state, Atom.ofExpansion quoted (outputText output))
  | .arithmetic quoted expression, state =>
    let (state, atoms) := expandParts interpret true .nowhere true expression state
    if !state.isGoing then (state, [])
    else
      let (state, text) := state.calculate (Atom.text atoms)
      (state, Atom.ofExpansion quoted text)
  | .row _, state => (state, [])
  | .process script, state =>
    let (output, state) := interpret state script
    let (path, state) := state.withTransient output
    (state, Atom.ofExpansion true path)
  | .divider, state => (state, [.boundary])
  | .parameter quoted name key operator word, state =>
    let every := (Word.bare? key).filter isEveryKey
    let (state, keyAtoms) := if key.isEmpty || every.isSome then (state, [])
      else expandParts interpret true .nowhere true key state
    let keyText := if key.isEmpty then none else some (every.getD (Atom.text keyAtoms))
    let (state, parameter) := state.parameterOf name keyText
    let shownName := name ++ (match keyText with
      | some key => '[' :: key ++ [']']
      | none => [])
    let value := parameter.value? state.joint
    let whole := parameter.atoms state.joint quoted
    let hasValue (orEmpty : Bool) : Bool := value.any fun text => !(orEmpty && text.isEmpty)
    let lacksValue := value.isNone && every.isNone && state.requires name
    let chosenTilde : Tilde :=
      if quoted then .nowhere else if tilde = .inPaths then .inPaths else .atStart
    let trimmed (drop : Pattern → Chars → Chars) : State × List Atom :=
      let (state, atoms) := expandParts interpret true .atStart true word state
      let change := drop (Pattern.ofMarked (Atom.marked atoms))
      match state.dialect with
      | .plain => (state, Atom.ofExpansion quoted (change (value.getD [])))
      | .extended => (state, (parameter.map change).atoms state.joint quoted)
    if !state.isGoing then (state, [])
    else
      match operator with
      | .malformed =>
        (state.abort (chars "Bad substitution") (name ++ chars ": bad substitution"), [])
      | .value => if lacksValue then (state.giveUpUnset shownName, []) else (state, whole)
      | .length =>
        if lacksValue then (state.giveUpUnset shownName, [])
        else
          let length := match state.dialect, parameter with
            | .extended, .several _ values => values.length
            | _, _ => (value.getD []).length
          (state, Atom.ofExpansion quoted (decimal length))
      | .otherwise orEmpty =>
        if hasValue orEmpty then (state, whole)
        else expandParts interpret true chosenTilde true word state
      | .instead orEmpty =>
        if hasValue orEmpty then expandParts interpret true chosenTilde true word state
        else (state, [])
      | .assign orEmpty =>
        if hasValue orEmpty then (state, whole)
        else if !isName name then
          (state.abort (name ++ chars ": bad variable name")
            ('$' :: name ++ chars ": cannot assign in this way"), [])
        else
          let (state, atoms) := expandParts interpret true .atStart true word state
          let text := Atom.text atoms
          if !state.isGoing then (state, [])
          else
            let after := match keyText with
              | none => state.assign name text
              | some key =>
                let (state, key) := state.keyFor name key
                state.putElement name key text
            (after, Atom.ofExpansion quoted text)
      | .require orEmpty =>
        if hasValue orEmpty then (state, whole)
        else
          let (state, atoms) := expandParts interpret true .atStart true word state
          let usual := match state.dialect, orEmpty with
            | .extended, true => "parameter null or not set"
            | _, true => "parameter not set or null"
            | _, false => "parameter not set"
          if !state.isGoing then (state, [])
          else
            let text := if word.isEmpty then chars usual else Atom.text atoms
            let told := shownName ++ chars ": " ++ text
            (state.abort told told (if state.settings.contains .errexit then 1 else 127), [])
      | .dropStart longest =>
        if lacksValue then (state.giveUpUnset shownName, [])
        else trimmed fun pattern text => pattern.dropStart longest text
      | .dropEnd longest =>
        if lacksValue then (state.giveUpUnset shownName, [])
        else trimmed fun pattern text => pattern.dropEnd longest text
      | operator =>
        let (state, atoms) := expandParts interpret true .nowhere true word state
        if !state.isGoing then (state, [])
        else if lacksValue && operator ≠ .keys && operator ≠ .namesFrom then
          (state.giveUpUnset shownName, [])
        else
          let (state, parameter) := state.altered name parameter operator atoms
          (state, if state.isGoing then parameter.atoms state.joint quoted else [])

/-- The atoms of a word. Quotes around all the arguments are no field if there are none;
`inside` tells that the word stands in the braces of a parameter, so that what is not quoted
counts as expanded. -/
def expandParts (interpret : Interpreter) (inside : Bool) (tilde : Tilde) (isStart : Bool) :
    List Part → State → State × List Atom
  | [], state => (state, [])
  | part :: rest, state =>
    if !state.isGoing then (state, [])
    else
      let (state, first) := match part, rest with
        | .literal true [], next :: _ =>
          (state, if mayBeNothing next then [] else Atom.ofLiteral true [])
        | .literal quoted text, rest =>
          (state, literalAtoms state inside tilde isStart rest.isEmpty quoted text)
        | _, _ => expandPart interpret tilde part state
      let (state, others) := expandParts interpret inside tilde false rest state
      (state, first ++ others)

end

def expandWord (interpret : Interpreter) (word : Word) (state : State) : State × List Atom :=
  expandParts interpret false .atStart true word state

/-- A word as one text. -/
def expandText (interpret : Interpreter) (word : Word) (state : State) : State × Chars :=
  let (state, atoms) := expandWord interpret word state
  (state, Atom.text atoms)

/-- The value that a word gives to a variable. -/
def expandValue (interpret : Interpreter) (word : Word) (state : State) : State × Chars :=
  let (state, atoms) := expandParts interpret false .inPaths true word state
  (state, Atom.text atoms)

namespace State

/-- The paths that match a pattern of names between slashes; a dot at the start of a name must
be written. -/
def matching (view : FileView) (parts : List Marked) : List Chars :=
  let step (found : List Chars) (part : Marked) : List Chars :=
    let pattern := Pattern.ofMarked part
    if !pattern.isProper then found.map fun lead => lead ++ part.text ++ ['/']
    else
      found.flatMap fun lead =>
        match view.locate (pathOf (if lead.isEmpty then ['.'] else lead)) with
        | .error _ => []
        | .ok place =>
          let names := ['.'] :: ['.', '.'] :: (view.tree.namesAt place).map charsOf
          let shown := names.filter fun name =>
            pattern.matchesText name && (name.head? ≠ some '.' || part.head?.map (·.1) = some '.')
          shown.map fun name => lead ++ name ++ ['/']
  let found := (parts.foldl step [[]]).map List.dropLast
  found.filter fun path => view.found (pathOf path)

/-- The paths that match a field, in order, or the field itself if there are none. -/
def paths (state : State) (field : Marked) : List Chars :=
  if state.settings.contains .noglob || !(Pattern.ofMarked field).isProper then [field.text]
  else
    let parts := field.foldr (fun (c, quoted) parts =>
      match parts with
      | [] => [[(c, quoted)]]
      | part :: rest => if c = '/' then [] :: part :: rest else ((c, quoted) :: part) :: rest) [[]]
    let found := matching state.view parts
    if found.isEmpty then
      if state.switches.contains (chars "nullglob") then [] else [field.text]
    else found.mergeSort textLE

end State

/-- A word as fields. -/
def expandFields (interpret : Interpreter) (word : Word) (state : State) : State × List Chars :=
  let one (state : State) (word : Word) : State × List Chars :=
    let (state, atoms) := expandWord interpret word state
    (state, (fields state.separators atoms).flatMap state.paths)
  match state.dialect with
  | .plain => one state word
  | .extended =>
    (Brace.words word).foldl (fun (state, found) word =>
      if !state.isGoing then (state, found)
      else
        let (state, more) := one state word
        (state, found ++ more)) (state, [])

end LiveCompile.Shell
