import LiveCompile.Shell.Expansion
import LiveCompile.Shell.Lookup
import LiveCompile.Shell.Signal

/-! Commands that change the shell itself. Each gives the state after it, with its code. What
ends the shell here ends only the command if it is one of those that leave the shell alone. -/

namespace LiveCompile.Shell

/-- A command of the shell: what it does with its arguments. -/
abbrev Builtin := State → List Chars → State

namespace State

/-- Says that something is no number and gives up. -/
def refuseNumber (state : State) (text : Chars) (code : Nat := 2) : State :=
  state.abort (chars "Illegal number: " ++ text) (text ++ chars ": numeric argument required") code

/-- How a name is refused that no variable can have; the word is what was written. -/
def refuseName (state : State) (name word : Chars) : State :=
  state.refuse (name ++ chars ": bad variable name")
    (backquote :: word ++ chars "': not a valid identifier")

/-- How an option is refused, with the usage that is told then. -/
def refuseOption (state : State) (option : Chars) (usage : String) : State :=
  match state.dialect, state.running with
  | .extended, some name =>
    ((state.complain (option ++ chars ": invalid option")).write 2
      (name ++ chars (": usage: " ++ usage ++ "\n"))).withStatus 2
  | _, _ => state.giveUp (chars "Illegal option " ++ option)

/-- The greatest number that a command takes. -/
def greatestNumber : Nat := 2147483647

/-- Goes on with the number that is the first argument, if there is one; `code` is the code if
it is no number. -/
def withNumber (state : State) (arguments : List Chars) (usual : Nat) (code : Nat)
    (f : Nat → State) : State :=
  match arguments with
  | [] => f usual
  | text :: rest =>
    let bare := ((text.dropWhile isBlankOrLine).reverse.dropWhile isBlankOrLine).reverse
    match integer? bare with
    | some number =>
      if state.isExtended then
        if rest.isEmpty then f (number % 256).toNat
        else { state.object 1 (chars "too many arguments") with flow := .leaving }
      else if 0 ≤ number && number ≤ greatestNumber then f number.toNat
      else state.refuseNumber text
    | none => state.refuseNumber text code

/-- Writes to the output and ends well. -/
def answer (state : State) (text : Chars) : State := (state.write 1 text).withStatus 0

end State

namespace Builtin

def nothing : Builtin := fun state _ => state.withStatus 0

def exits : Builtin := fun state arguments =>
  state.withNumber arguments state.status 2 fun code =>
    { state with status := code % 256, flow := .leaving }

def returns : Builtin := fun state arguments =>
  if state.isExtended && !state.inFunction && state.sourced.isNone then
    state.object 2 (chars "can only " ++ backquote
      :: chars "return' from a function or sourced script")
  else
    let returned := state.withNumber arguments state.status 2 fun code =>
      { state with status := code % 256, flow := .returning }
    if state.isExtended && returned.status = 2 && returned.flow = .leaving then
      { returned with flow := .returning }
    else returned

/-- Leaves loops, or with `again` goes on with the next round of the outermost one. -/
def breakOut (again : Bool) : Builtin := fun state arguments =>
  if state.isExtended && state.loops = 0 then
    state.object 0 (chars "only meaningful in a " ++ backquote :: chars "for', " ++ backquote
      :: chars "while', or " ++ backquote :: chars "until' loop")
  else state.withNumber arguments 1 128 fun count =>
    if count = 0 then
      if state.isExtended then { state.object 1 (chars "0: loop count out of range") with
        flow := .breaking state.loops }
      else state.refuseNumber ['0']
    else
      let loops := min count state.loops
      let state := state.withStatus 0
      if loops = 0 then state
      else { state with flow := if again then .continuing loops else .breaking loops }

def shift : Builtin := fun state arguments =>
  let isNegative := (arguments.head?.bind integer?).any (· < 0)
  if state.isExtended && isNegative then
    state.object 1 (arguments.headD [] ++ chars ": shift count out of range")
  else if state.isExtended && arguments.any fun text => (integer? text).isNone then
    state.object 1 (arguments.headD [] ++ chars ": numeric argument required")
  else state.withNumber arguments 1 1 fun count =>
    if count > state.arguments.length then
      if state.isExtended then state.withStatus 1
      else state.giveUp (chars "can't shift that many")
    else
      { state with arguments := state.arguments.drop count, scanning := (1, none), status := 0 }

/-- The name and the value of an argument that assigns. -/
def assigned (argument : Chars) : Chars × Option Chars :=
  match argument.dropWhile (· ≠ '=') with
  | _ :: value => (argument.takeWhile (· ≠ '='), some value)
  | [] => (argument, none)

/-- A text between apostrophes. -/
def enquoted (text : Chars) : Chars :=
  apostrophe :: text.flatMap (fun c => if c = apostrophe then chars "'\"'\"'" else [c])
    ++ [apostrophe]

/-- The variables as assignments, in order. -/
def assignments (lead : String) (shown : List (Chars × Variable)) : Chars :=
  let lines := shown.map fun (name, held) =>
    chars lead ++ name ++ (match held.value with
      | some value => '=' :: enquoted value
      | none => [])
  unlines (lines.mergeSort textLE)

/-- Marks variables, which may take values before. -/
def mark (word : String) (isShown : Variable → Bool) (change : Variable → Variable) : Builtin :=
  fun state arguments =>
    let arguments := if arguments.head? = some ['-', 'p'] then arguments.drop 1 else arguments
    if arguments.isEmpty then
      state.answer (assignments (word ++ " ") (state.bindings.filter fun (_, held) => isShown held))
    else
      let step (state : State) (argument : Chars) : State :=
        let (name, value) := assigned argument
        if !state.isGoing then state
        else if !isName name then state.refuseName name argument
        else if (state.held? name).any (·.fixed) && value.isSome && state.isExtended then
          state.object 1 (name ++ chars ": readonly variable")
        else
          let state := match value with
            | some value => state.assign name value
            | none => state
          if !state.isGoing then state
          else state.putVariable name (change ((state.held? name).getD {}))
      arguments.foldl step (state.withStatus 0)

def exports : Builtin := mark "export" (·.exported) fun held => { held with exported := true }

def readonly : Builtin := mark "readonly" (·.fixed) fun held => { held with fixed := true }

def unset : Builtin := fun state arguments =>
  let (functions, names) := match arguments with
    | ['-', 'f'] :: names => (true, names)
    | ['-', 'v'] :: names => (false, names)
    | names => (false, names)
  let step (state : State) (name : Chars) : State :=
    if !state.isGoing then state
    else if functions then { state with functions := state.functions.filter (·.1 ≠ name) }
    else if !isName name then
      if state.isExtended then state else state.giveUp (name ++ chars ": bad variable name")
    else if (state.held? name).any (·.fixed) then
      state.refuse (name ++ chars ": is read only")
        (name ++ chars ": cannot unset: readonly variable")
    else state.unset name
  names.foldl step (state.withStatus 0)

/-- Keeps the old value of a variable until the function ends. -/
def saveVariable (state : State) (name : Chars) : State :=
  { state with saved := (name, state.held? name) :: state.saved }

def locals : Builtin := fun state arguments =>
  if !state.inFunction then
    state.refuse (chars "not in a function") (chars "can only be used in a function")
  else
    let step (state : State) (argument : Chars) : State :=
      let (name, value) := assigned argument
      if !state.isGoing || name = ['-'] then state
      else if !isName name then state.refuseName name argument
      else
        let state := saveVariable state name
        match value with
        | some value => state.assign name value
        | none => state
    arguments.foldl step (state.withStatus 0)

/-- Why a shell without a terminal does not watch its jobs. -/
def noTerminal : Chars := chars "can't access tty; job control turned off"

def set : Builtin := fun state arguments =>
  if arguments.isEmpty then
    state.answer (assignments "" (state.bindings.filter fun (_, held) => held.value.isSome))
  else
    match Invocation.ofArguments state.dialect false state.settings arguments with
    | .error text =>
      match state.dialect with
      | .plain => state.giveUp text
      | .extended =>
        let isName := (arguments.headD []).contains 'o'
        (state.object 2 text).write 2 (if isName then [] else chars ("set: usage: set "
          ++ "[-abefhkmnptuvxBCEHPT] [-o option-name] [--] [-] [arg ...]\n"))
    | .ok call =>
      let watches := call.settings.contains .monitor
      let state := if watches then state.complain noTerminal else state
      let settings := call.settings.change .monitor false
      let arguments := if call.replaces then call.operands else state.arguments
      let scanning := if call.replaces then (1, none) else state.scanning
      { state.answer call.listing with settings, arguments, scanning }

def cd : Builtin := fun state arguments =>
  let arguments := if arguments.head? = some ['-', '-'] then arguments.drop 1 else arguments
  let (target, isShown) := match arguments.head? with
    | none => ((state.value? (chars "HOME")).getD [], false)
    | some ['-'] => ((state.value? (chars "OLDPWD")).getD [], true)
    | some target => (target, false)
  if state.isExtended && 1 < arguments.length then state.object 1 (chars "too many arguments")
  else if target.isEmpty && state.isExtended then
    if isShown then state.object 1 (chars "OLDPWD not set")
    else if arguments.isEmpty then state.object 1 (chars "HOME not set")
    else state.withStatus 0
  else if target.isEmpty then state.withStatus 0
  else
    match state.view.enter (pathOf target) with
    | .error error =>
      if state.isExtended then state.object 1 (target ++ chars ": " ++ cause error)
      else state.object 2 (chars "can't cd to " ++ target)
    | .ok view =>
      let before := charsOf state.view.originPath.octets
      let after := charsOf view.originPath.octets
      let state := ({ state with view }.assign (chars "OLDPWD") before).assign (chars "PWD") after
      state.answer (if isShown then after ++ ['\n'] else [])

/-- The line that is read, with its escaped characters marked, whether it is complete, and
what follows it. -/
def readLine (isRaw : Bool) : Chars → Marked × Bool × Chars
  | [] => ([], false, [])
  | '\n' :: rest => ([], true, rest)
  | '\\' :: rest =>
    if isRaw then
      let (line, isComplete, rest) := readLine isRaw rest
      (('\\', false) :: line, isComplete, rest)
    else
      match rest with
      | [] => ([], false, [])
      | c :: rest =>
        let (line, isComplete, rest) := readLine isRaw rest
        (if c = '\n' then line else (c, true) :: line, isComplete, rest)
  | c :: rest =>
    let (line, isComplete, rest) := readLine isRaw rest
    ((c, false) :: line, isComplete, rest)

/-- A line as so many fields; the last one is all that is left. -/
def fieldsOfLine (separators : Chars) : Nat → Marked → List Chars
  | 0, _ => []
  | count + 1, line =>
    let isSeparator (c : Char × Bool) : Bool := !c.2 && separators.contains c.1
    let isBlank (c : Char × Bool) : Bool := isSeparator c && Splitting.isBlankSeparator c.1
    let line := line.dropWhile isBlank
    if count = 0 then
      let line := (line.reverse.dropWhile isBlank).reverse
      match line.getLast? with
      | some last =>
        if isSeparator last && !line.dropLast.any isSeparator then [Marked.text line.dropLast]
        else [Marked.text line]
      | none => [[]]
    else
      let rest := (line.dropWhile fun c => !isSeparator c).dropWhile isBlank
      let rest := match rest with
        | c :: others => if isSeparator c then others else rest
        | [] => []
      Marked.text (line.takeWhile fun c => !isSeparator c) :: fieldsOfLine separators count rest

/-- Whether a backslash is read as it is, and the arguments after the options. -/
def readOptions : List Chars → Except Chars (Bool × List Chars)
  | ['-', '-'] :: rest => .ok (false, rest)
  | ['-', 'p'] :: _ :: rest => readOptions rest
  | ['-', 'r'] :: rest => (readOptions rest).map fun (_, rest) => (true, rest)
  | ('-' :: letter :: _) :: _ => .error [letter]
  | arguments => .ok (false, arguments)

def read : Builtin := fun state arguments =>
  match readOptions arguments with
  | .error letter =>
    state.refuseOption ('-' :: letter) ("read [-ers] [-a array] [-d delim] [-i text] [-n nchars] "
      ++ "[-N nchars] [-p prompt] [-t timeout] [-u fd] [name ...]")
  | .ok (isRaw, names) =>
    if names.isEmpty && !state.isExtended then state.giveUp (chars "arg count")
    else
      let names := names.map fun word => if state.isExtended then word
        else word.takeWhile (· ≠ '=')
      let names := if names.isEmpty then [chars "REPLY"] else names
      match names.find? fun name => !isName name with
      | some name => state.refuseName name name
      | none =>
        let (line, isComplete, rest) := readLine isRaw (state.readable 0).1
        let state := state.leave 0 rest
        let values := fieldsOfLine state.separators names.length line
        let state := (names.zip values).foldl
          (fun state (name, value) => state.assign name value) state
        if state.isGoing then state.withStatus (if isComplete then 0 else 1) else state

/-- Shows how much a shell may use of something: nothing is limited but the size of what a
killed program leaves. -/
def limits : Builtin := fun state arguments =>
  match arguments with
  | [['-', 'c']] => state.answer ['0', '\n']
  | _ :: _ :: _ => state.withStatus 0
  | _ => state.answer (chars "unlimited\n")

/-- Shows or sets the bits that the modes of new files do not get. -/
def umask : Builtin := fun state arguments =>
  let mask := state.view.mask
  let put (mask : Mode) : State :=
    ({ state with view := { state.view with mask := mask &&& 0o777 } }).withStatus 0
  let set (text : Chars) : State :=
    if text.head?.any Char.isDigit then
      match text.find? fun c => !('0' ≤ c && c ≤ '7') with
      | some _ => state.refuse (chars "Illegal number: " ++ text)
          (text ++ chars ": octal number out of range")
      | none => put (Expression.valueInBase 8 text)
    else if text.all "ugoa".toList.contains then state.withStatus 0
    else
      match Mode.change? text with
      | some change =>
        put (Mode.without (Mode.apply mask false (Mode.without 0o777 mask) change ^^^ 0o777) 0o7000)
      | none => state.refuse (chars "Illegal mode: " ++ text)
          (backquote :: (text.dropWhile "ugoa".toList.contains).take 1
            ++ chars "': invalid symbolic mode operator")
  match arguments with
  | [] => state.answer (Mode.octalText mask ++ ['\n'])
  | [['-', 'S']] => state.answer (Mode.maskLetters mask ++ ['\n'])
  | ['-', 'S'] :: text :: _ => set text
  | ['-', '-'] :: text :: _ => set text
  | [['-', 'p']] =>
    if state.isExtended then state.answer (chars "umask " ++ Mode.octalText mask ++ ['\n'])
    else state.giveUp (chars "Illegal option -p")
  | ('-' :: letter :: _) :: _ => state.refuseOption ['-', letter] "umask [-p] [-S] [mode]"
  | text :: _ => set text

/-- The next option of some words, as `getopts` finds it. -/
structure Scanned where
  letter : Char := '?'
  /-- the argument that is set, or that is unset if there is none -/
  argument : Option (Option Chars) := none
  /-- the letter that is wrong, and whether its argument is missing -/
  wrong : Option (Char × Bool) := none
  scanning : Nat × Option Nat
  isDone : Bool := false

/-- Whether a letter is an option, and takes an argument. -/
def optionTaking? (letter : Char) : Chars → Option Bool
  | [] => none
  | known :: ':' :: rest => if known = letter then some true else optionTaking? letter rest
  | known :: rest => if known = letter then some false else optionTaking? letter rest

/-- Looks for the next option from an argument on, or in the one before it. -/
def scan (options : Chars) (words : List Chars) (scanning : Nat × Option Nat) : Scanned :=
  let (index, offset) := scanning
  let before := if index ≤ 1 then none else words[index - 2]?
  let rest := match offset, before with
    | some offset, some word => word.drop offset
    | _, _ => []
  let next := if rest.isEmpty then words[index - 1]? else some rest
  let letters := if rest.isEmpty then next.bind fun word =>
      if word.head? = some '-' && 1 < word.length then some (word.drop 1) else none
    else some rest
  let following := if rest.isEmpty then index + 1 else index
  match letters with
  | none => { scanning := (index, none), isDone := true }
  | some ['-'] =>
    if rest.isEmpty then { scanning := (following, none), isDone := true }
    else found '-' [] following
  | some letters => found (letters.headD '?') (letters.drop 1) following
where
  found (letter : Char) (more : Chars) (index : Nat) : Scanned :=
    let isQuiet := options.head? = some ':'
    let place : Option Nat :=
      if more.isEmpty then none else (words[index - 2]?).map fun word => word.length - more.length
    match optionTaking? letter (if isQuiet then options.drop 1 else options) with
    | none =>
      if isQuiet then { argument := some (some [letter]), scanning := (index, place) }
      else
        { argument := some none, scanning := (index, place)
          wrong := some (letter, false) }
    | some false => { letter, argument := some (some []), scanning := (index, place) }
    | some true =>
      match more, words[index - 1]? with
      | [], none =>
        if isQuiet then
          { letter := ':', argument := some (some [letter]), scanning := (index, none) }
        else
          { argument := some none, scanning := (index, none)
            wrong := some (letter, true) }
      | [], some value => { letter, argument := some (some value), scanning := (index + 1, none) }
      | more, _ => { letter, argument := some (some more), scanning := (index, none) }

/-- What is said about a wrong option. -/
def scanComplaint (state : State) (letter : Char) (isMissing : Bool) : Chars :=
  match state.dialect, isMissing with
  | .plain, false => chars "Illegal option -" ++ [letter, '\n']
  | .plain, true => chars "No arg for -" ++ letter :: chars " option\n"
  | .extended, false => state.name ++ chars ": illegal option -- " ++ [letter, '\n']
  | .extended, true => state.name ++ chars ": option requires an argument -- " ++ [letter, '\n']

/-- Gives variables the next option of the arguments. -/
def getopts : Builtin := fun state arguments =>
  let arguments := if arguments.head? = some ['-', '-'] then arguments.drop 1 else arguments
  match arguments with
  | options :: name :: rest =>
    let words := if rest.isEmpty then state.arguments else rest
    let scanning := if words.length + 1 < state.scanning.1 then (1, none) else state.scanning
    let found := scan options words scanning
    let state := state.write 2 (match found.wrong with
      | none => []
      | some (letter, isMissing) => scanComplaint state letter isMissing)
    let state := match found.argument with
      | none => state
      | some none => state.unset (chars "OPTARG")
      | some (some value) => state.assign (chars "OPTARG") value
    let state := state.assign (chars "OPTIND") (decimal found.scanning.1)
    if !isName name then state.refuseName name name
    else
      let state := { state.assign name [found.letter] with scanning := found.scanning }
      if state.isGoing then state.withStatus (if found.isDone then 1 else 0) else state
  | _ =>
    if state.isExtended then
      (state.write 2 (chars "getopts: usage: getopts optstring name [arg ...]\n")).withStatus 2
    else state.giveUp (chars "Usage: getopts optstring var [arg...]")

/-- Waits for commands in the background, which have ended. -/
def waits : Builtin := fun state arguments =>
  arguments.foldl (fun state word =>
    match (natural? word).bind fun number => state.jobs.find? (·.1 = number) with
    | some (_, code) => state.withStatus code
    | none =>
      if !state.isExtended || word.head? = some '-' then state.withStatus 127
      else if (natural? word).isSome then
        state.object 127 (chars "pid " ++ word ++ chars " is not a child of this shell")
      else
        state.object 1 (backquote :: word ++ chars "': not a pid or valid job spec"))
    (state.withStatus 0)

def times : Builtin := fun state _ =>
  state.answer (chars "0m0.000000s 0m0.000000s\n0m0.000000s 0m0.000000s\n")

/-- The signal that a word names, with the number zero for the end of the shell. -/
def signalNumber? (word : Chars) : Option Nat :=
  match natural? word with
  | some number => if number ≤ 64 then some number else none
  | none =>
    let name := String.ofList word
    if name.toUpper = "EXIT" then some 0 else (Signal.ofName? name).map (·.number)

/-- Events of the extended shell that are no signals, with numbers of their own. -/
def events : List (String × Nat) := [("ERR", 1000), ("DEBUG", 1001), ("RETURN", 1002)]

/-- The number of the event that a command failed. -/
def failureEvent : Nat := 1000

/-- The signal or the event that a word names. -/
def eventNumber? (dialect : Dialect) (word : Chars) : Option Nat :=
  (signalNumber? word).or
    (if dialect = .plain then none
      else (events.find? fun event => event.1 = (String.ofList word).toUpper).map (·.2))

def trap : Builtin := fun state arguments =>
  let arguments := if arguments.head? = some ['-', '-'] then arguments.drop 1 else arguments
  let listing (isShown : Nat → Bool) : State :=
    let shown := state.traps.filter fun trap => isShown trap.1
    let lines := (shown.mergeSort fun a b => a.1 ≤ b.1).map fun (number, action) =>
      let name := if number = 0 then "EXIT"
        else match events.find? (·.2 = number) with
        | some (name, _) => name
        | none => (if state.isExtended then "SIG" else "")
          ++ ((Signal.ofNumber? number).map (·.name)).getD ""
      chars "trap -- " ++ enquoted action ++ [' '] ++ chars name
    state.answer (unlines lines)
  match arguments with
  | [] => listing fun _ => true
  | ['-', 'p'] :: names =>
    if !state.isExtended then state.giveUp (chars "Illegal option -p")
    else listing fun number =>
      names.isEmpty || (names.filterMap (eventNumber? state.dialect)).contains number
  | first :: others =>
    if state.isExtended && others.isEmpty && (eventNumber? state.dialect first).isNone then
      (state.write 2 (chars "trap: usage: trap [-lp] [[arg] signal_spec ...]\n")).withStatus 2
    else
    let resets := first = ['-'] || others.isEmpty || (natural? first).isSome
    let names := if first ≠ ['-'] && resets then arguments else others
    let step (state : State) (name : Chars) : State :=
      match eventNumber? state.dialect name with
      | none =>
        if state.isExtended then state.object 1 (name ++ chars ": invalid signal specification")
        else (state.write 2 (chars "trap: " ++ name ++ chars ": bad trap\n")).withStatus 1
      | some number =>
        let others := state.traps.filter (·.1 ≠ number)
        { state with traps := if resets then others else (number, first) :: others }
    names.foldl (fun state name => if state.status = 0 then step state name else state)
      (state.withStatus 0)

/-- Sends a signal to a process; the shell knows only itself. -/
def send (number : Nat) (state : State) (target : Chars) : State :=
  if !state.isGoing then state
  else if target = decimal state.number || target = ['0'] then
    let isHarmless := number = 0 || (Signal.ofNumber? number).any (·.isHarmless)
    if isHarmless then state else { state with flow := .killed number }
  else if state.jobs.any fun job => decimal job.1 = target then
    { state with jobs := state.jobs.map fun (job, code) =>
        (job, if decimal job = target && number ≠ 0 then 128 + number else code) }
  else
    match integer? target with
    | none =>
      state.refuse (chars "Illegal number: " ++ target)
        (target ++ chars ": arguments must be process or job IDs")
    | some _ =>
      if state.isExtended then state.object 1 ('(' :: target ++ chars ") - No such process")
      else state.object 1 (chars "No such process\n")

def kill : Builtin := fun state arguments =>
  let refuseUsage : State :=
    if state.isExtended then
      (state.write 2 (chars ("kill: usage: kill [-s sigspec | -n signum | -sigspec] pid | jobspec "
        ++ "... or kill -l [sigspec]\n"))).withStatus 2
    else state.giveUp (chars ("Usage: kill [-s sigspec | -signum | -sigspec] [pid | job]... or\n"
      ++ "kill -l [exitstatus]"))
  let refuseOption (word : Chars) : State :=
    state.refuse (chars "Illegal option -" ++ word.take 1)
      (word ++ chars ": invalid signal specification")
  let sendAll (signal : Nat) (targets : List Chars) : State :=
    if targets.isEmpty then refuseUsage
    else targets.foldl (send signal) (state.withStatus 0)
  match arguments with
  | [] => refuseUsage
  | ['-', 'l'] :: rest =>
    match rest with
    | [] => state.answer (unlines (['0'] :: Signal.all.map fun signal => chars signal.name))
    | text :: _ =>
      match (natural? text).bind fun number => Signal.ofNumber? (number % 128) with
      | some signal => state.answer (chars signal.name ++ ['\n'])
      | none =>
        match state.dialect, signalNumber? text with
        | .extended, some number => state.answer (decimal number ++ ['\n'])
        | _, _ =>
          state.refuse (chars "invalid signal number or exit status: " ++ text)
            (text ++ chars ": invalid signal specification")
  | ['-', 's'] :: name :: targets =>
    match signalNumber? name with
    | some number => sendAll number targets
    | none =>
      state.refuse (chars "invalid signal number or name: " ++ name)
        (name ++ chars ": invalid signal specification")
  | ['-', '-'] :: targets => sendAll 15 targets
  | ('-' :: name) :: targets =>
    match signalNumber? name with
    | some number => sendAll number targets
    | none => refuseOption name
  | targets => sendAll 15 targets

/-- What a name stands for as a command. -/
inductive Meaning where
  | keyword
  | function
  | builtin (isSpecial : Bool)
  | path (path : Chars)
  | unknown

/-- How a meaning is told; briefly, only what to write for it is told. -/
def describe (name : Chars) (brief : Bool) : Meaning → Option Chars
  | .keyword => some (if brief then name else name ++ chars " is a shell keyword")
  | .function => some (if brief then name else name ++ chars " is a shell function")
  | .builtin isSpecial =>
    some (if brief then name
      else name ++
        chars (if isSpecial then " is a special shell builtin" else " is a shell builtin"))
  | .path path => some (if brief then path else name ++ chars " is " ++ path)
  | .unknown => none

/-- What the command `command` is asked to tell instead of running another one. -/
structure Inquiry where
  tells : Bool := false
  explains : Bool := false

/-- The options of `command` with the words after them, or the letter that is none. -/
def inquiry : List Chars → Inquiry → Except Char (Inquiry × List Chars)
  | ['-', '-'] :: rest, asked => .ok (asked, rest)
  | ('-' :: letter :: letters) :: rest, asked => do
    let asked ← (letter :: letters).foldlM (fun asked letter =>
      match letter with
      | 'p' => .ok asked
      | 'v' => .ok { asked with tells := true }
      | 'V' => .ok { tells := true, explains := true }
      | letter => .error letter) asked
    inquiry rest asked
  | words, asked => .ok (asked, words)

end Builtin

end LiveCompile.Shell
