import LiveCompile.Shell.Awk.Start
import LiveCompile.Shell.Condition
import LiveCompile.Shell.Launch
import LiveCompile.Shell.Misreading
import LiveCompile.Shell.Redirection

/-! Running commands. The first argument of each function bounds the depth of its calls; a
shell that gets to the bound ends. -/

namespace LiveCompile.Shell

namespace State

/-- The state in which a script runs that cannot change this shell. -/
def fork (state : State) : State :=
  { state with traps := state.traps.filter (·.2.isEmpty) }

/-- What is left of a script that ran apart: files, what was read and written, and its code. -/
def absorb (state inner : State) : State :=
  { state with
    view := { state.view with tree := inner.view.tree }
    sources := inner.sources
    sinks := inner.sinks
    next := inner.next
    status := inner.status
    flow := match inner.flow with
      | .killed signal => .killed signal
      | _ => state.flow }

/-- Refuses a redirection whose word stands for no file alone. -/
def refuseTarget (state : State) (redirect : Redirect) : State :=
  let told := redirect.written ++ chars ": ambiguous redirect"
  state.abort told told

/-- A shell that has no steps left. -/
def exhausted (state : State) : State := { state with status := 2, flow := .leaving }

/-- Leaves after a failure if the settings say so. -/
def checked (tested : Bool) (state : State) : State :=
  if state.isGoing && state.settings.contains .errexit && !tested && state.status ≠ 0 then
    { state with flow := .leaving }
  else state

/-- The state after a round of a loop, and whether there is another one. -/
def afterRound (state : State) : State × Bool :=
  match state.flow with
  | .going => (state, true)
  | .breaking loops =>
    ({ state with flow := if loops ≤ 1 then .going else .breaking (loops - 1) }, false)
  | .continuing loops =>
    if loops ≤ 1 then ({ state with flow := .going }, true)
    else ({ state with flow := .continuing (loops - 1) }, false)
  | _ => (state, false)

/-- Gives variables the values that they had before. -/
def restore (state : State) (old : List (Chars × Option Variable)) : State :=
  old.foldl (fun state (name, held) =>
    match held with
    | some held => state.putVariable name held
    | none => state.unset name) state

/-- Reports a program that a signal ended. -/
def reap (state : State) (signal : Nat) : State :=
  let words := ((Signal.ofNumber? signal).map (·.words)).getD ""
  let state := if words.isEmpty then state else state.write 2 (chars words ++ ['\n'])
  { state with status := 128 + signal }

/-- Takes over what a program leaves. -/
def take (state : State) (ran : Ran) : State :=
  let state := state.leave 0 ran.unread
  let state := match ran.tree with
    | some tree => state.withTree tree
    | none => state
  let write (state : State) (written : Channel × Chars) : State :=
    state.write (if written.1 = .output then 1 else 2) written.2
  (ran.texts.foldl write state).withStatus ran.code

/-- What a program finds that is started now. -/
def situation (state : State) (label : Chars) : Situation :=
  let (input, inputIsFile) := state.readable 0
  { label, view := state.view, environment := state.environment, input, inputIsFile }

/-- Runs a program that the shell has built in. -/
def runBuiltIn (state : State) (program : Program) (name : Chars) (arguments : List Chars) :
    State :=
  state.naming name fun state =>
    let ran := program (state.situation state.label) arguments
    if (state.refusal? 1).isSome && !(ran.textOn .output).isEmpty then
      state.object 1 (name ++ chars ": I/O error")
    else state.take ran

/-- Gives a variable what a program writes. -/
def printsInto (state : State) (program : Program) (target : Chars) (arguments : List Chars) :
    State :=
  let (name, key) := Calculation.nameParts target
  if !isName name then
    state.object 2 (backquote :: target ++ chars "': not a valid identifier")
  else
    let ran := program (state.situation state.label) arguments
    let text := ran.textOn .output
    let silent := { ran with written := ran.written.filter (·.1 ≠ .output), output := [] }
    (state.take silent).assignTo name key false text

/-- The variables that every shell has. -/
def ownVariables (dialect : Dialect) : List (Chars × Variable) :=
  let usual := [("IFS", " \t\n"), ("OPTIND", "1"), ("PS4", "+ ")]
  let others := match dialect with
    | .plain => [("PS1", "# "), ("PS2", "> ")]
    | .extended => [("BASH", "/usr/bin/bash"), ("BASH_VERSION", "5.2.21(1)-release"),
        ("HOSTTYPE", "x86_64"), ("MACHTYPE", "x86_64-pc-linux-gnu"), ("OSTYPE", "linux-gnu"),
        ("OPTERR", "1"), ("UID", "0"), ("EUID", "0"), ("TERM", "dumb")]
  (usual ++ others).map fun (name, value) => (chars name, { value := some (chars value) })

/-- Variables that a new extended shell changes. -/
def greeted (state : State) : State :=
  let level := ((state.value? (chars "SHLVL")).bind natural?).getD 0
  let version := ["5", "2", "21", "1", "release", "x86_64-pc-linux-gnu"].zipIdx.map
    fun (text, index) => (decimal index, chars text)
  let fixed (state : State) (name : String) : State :=
    state.putVariable (chars name)
      { (state.held? (chars name)).getD {} with fixed := true, isInteger := true }
  let state := state.putVariable (chars "SHLVL")
    { value := some (decimal (level + 1)), exported := true }
  let state := (state.held? (chars "OLDPWD")).elim
    (state.putVariable (chars "OLDPWD") { exported := true }) fun _ => state
  (["UID", "EUID"].foldl fixed state).putCells (chars "BASH_VERSINFO") false version

/-- Where programs are looked for if nothing else is said. -/
def usualPath : Chars :=
  chars "/usr/local/sbin:/usr/local/bin:/usr/sbin:/usr/bin:/sbin:/bin"

/-- The state in which a new shell starts. -/
def newShell (state : State) (dialect : Dialect) (name : Chars) (arguments : List Chars)
    (settings : Settings) : State :=
  let inherited := state.bindings.filter fun (name, held) => held.exported && name ≠ chars "IFS"
  let place := charsOf state.view.originPath.octets
  let bindings := inherited ++ (ownVariables dialect).filter fun (name, _) => !inherited.any (·.1 = name)
  let fresh : State :=
    { view := state.view, name, dialect, number := state.number + 1, arguments, bindings
      settings
      descriptors := state.descriptors, sources := state.sources, sinks := state.sinks
      next := state.next, traps := state.fork.traps, switches := Builtin.usualSwitches }
  let fresh := fresh.putVariable (chars "PWD") { value := some place, exported := true }
  let fresh := if (fresh.held? (chars "PATH")).isSome then fresh
    else fresh.putVariable (chars "PATH") { value := some usualPath }
  match dialect with
  | .plain => fresh
  | .extended => fresh.greeted

/-- The text of a script in a file that is looked for like a program. -/
def scriptIn (state : State) (name : Chars) : Except Chars Chars :=
  let candidates := if name.contains '/' then [name]
    else Lookup.candidates state.searchPath name ++ (if state.isExtended then [name] else [])
  match candidates.find? fun path => state.view.isFile (pathOf path) with
  | some path => .ok (charsOf ((state.view.read (pathOf path)).toOption.getD []))
  | none =>
    if name.contains '/' then .error (chars "cannot open " ++ name ++ chars ": No such file")
    else .error (name ++ chars ": not found")

/-- Shows the paths of programs. -/
def showPaths (state : State) (names : List Chars) : State :=
  let step (state : State) (name : Chars) : State :=
    match Lookup.ofName state.view state.searchPath name with
    | .program _ path => state.write 1 (path ++ ['\n'])
    | .script path _ => state.write 1 (path ++ ['\n'])
    | .refused _ => state.withStatus 1
  names.foldl step (state.withStatus 0)

end State

/-- The program that the first line of a script names, with its argument if there is one. -/
def interpreterOf? (text : Chars) : Option (Chars × List Chars) :=
  match text with
  | '#' :: '!' :: rest =>
    let isGap (c : Char) : Bool := c = ' ' || c = '\t'
    let line := (rest.takeWhile (· ≠ '\n')).dropWhile isGap
    let line := (line.reverse.dropWhile isGap).reverse
    let name := line.takeWhile fun c => !isGap c
    let option := (line.dropWhile fun c => !isGap c).dropWhile isGap
    if name.isEmpty then none else some (name, if option.isEmpty then [] else [option])
  | _ => none

/-- The word that a command is known by. -/
def State.commandWord (dialect : Dialect) (name : Chars) : String :=
  match dialect, String.ofList name with
  | .extended, "source" => "."
  | .plain, "builtin" => ""
  | _, word => word

/-- Whether the words of a command after its name may be assignments. -/
def takesAssignments (dialect : Dialect) (name : Chars) : Bool :=
  let usual := ["export", "readonly", "local"]
  let names := match dialect with
    | .plain => usual
    | .extended => usual ++ ["declare", "typeset"]
  names.contains (String.ofList name)

/-- The words of a command without the elements of arrays that it declares, and the assignments
of those. -/
def withoutRows (words : List Word) : List Word × List Assignment :=
  let declares := (words.head?.bind Word.bare?).any (takesAssignments .extended)
  if !declares then (words, [])
  else
    words.foldr (fun word (words, rows) =>
      match assignment? .extended word with
      | some ⟨name, key, appends, [.row elements]⟩ =>
        ([.literal false name] :: words, ⟨name, key, appends, [.row elements]⟩ :: rows)
      | _ => (word :: words, rows)) ([], [])

mutual

/-- Runs a script line by line. -/
def runText : Nat → State → Chars → State
  | 0, state, _ => state.exhausted
  | steps + 1, state, text =>
    let script := Script.ofText state.dialect text
    let state := if script.lines.isEmpty then state.withStatus 0
      else runLines steps state script.lines
    match script.fault with
    | some fault => if state.isGoing then state.refuseScript text fault else state
    | none => state

def runLines : Nat → State → List Command → State
  | 0, state, _ => state.exhausted
  | _ + 1, state, [] => state
  | steps + 1, state, line :: rest =>
    let state := runCommand steps false state line
    if state.isGoing then runLines steps state rest else state

/-- Runs what the shell has to do at its end. -/
def finish : Nat → State → State
  | 0, state => state.exhausted
  | steps + 1, state =>
    let runsLast := match state.flow with
      | .killed signal => state.isExtended && signal ≠ 9
      | _ => true
    match state.traps.find? (·.1 = 0) with
    | none => state
    | some (_, action) =>
      if !runsLast then state
      else
        let last := { state with
          flow := .going, traps := state.traps.filter (·.1 ≠ 0), reading := "exit trap" }
        let ran := runText steps last action
        match state.flow with
        | .killed _ => { ran with flow := state.flow }
        | _ => if ran.isGoing then ran.withStatus state.status else ran

/-- Runs a script and gives what it writes. -/
def outputOf : Nat → Interpreter
  | 0, state, _ => ([], state.exhausted)
  | steps + 1, state, script =>
    let (sink, opened) := state.addSink
    let forked := { opened.fork with reading := "command substitution", depth := state.depth + 1 }
    let inner := finish steps (runText steps (forked.connect 1 (some (.sink sink))) script)
    let after := opened.absorb inner
    (after.collected sink,
      { after with
        status := state.status
        outputStatus := inner.status
        sinks := after.sinks.filter (·.1 ≠ sink) })

/-- Runs a command apart from the shell. -/
def runApart : Nat → Bool → State → Command → State
  | 0, _, state, _ => state.exhausted
  | steps + 1, tested, state, command =>
    state.absorb (finish steps (runCommand steps tested state.fork command))

/-- Runs commands so that each reads what the one before it writes; `codes` are those of the
commands before. -/
def runStages : Nat → Bool → State → List Nat → List Command → State
  | 0, _, state, _, _ => state.exhausted
  | _ + 1, _, state, _, [] => state
  | steps + 1, tested, state, codes, [last] =>
    let ran := runApart steps tested state last
    let codes := codes ++ [ran.status]
    let failed := (codes.filter (· ≠ 0)).getLast?
    let status := if state.settings.contains .pipefail then failed.getD 0 else ran.status
    { ran with status, pipeline := codes }
  | steps + 1, tested, state, codes, stage :: rest =>
    let (sink, opened) := state.addSink
    let ran := runApart steps tested (opened.connect 1 (some (.sink sink))) stage
    let (source, fed) := (state.absorb ran).addSource (ran.collected sink) false
    if !fed.isGoing then fed
    else
      let next := (fed.connect 0 (some source)).withStatus state.status
      let after := runStages steps tested next (codes ++ [ran.status]) rest
      { after with descriptors := state.descriptors }

/-- Does what is to be done when a command has failed. -/
def settle : Nat → Bool → State → State
  | 0, _, state => state.exhausted
  | steps + 1, tested, state =>
    let isHeard := !state.inFunction || state.settings.contains .errtrace
    let event := if tested || !state.isGoing || state.status = 0 || !isHeard then none
      else state.traps.find? (·.1 = Builtin.failureEvent)
    match event with
    | none => state.checked tested
    | some (_, action) =>
      let traps := state.traps
      let ran := runText steps { state with traps := traps.filter (·.1 ≠ Builtin.failureEvent) }
        action
      let ran := { ran with traps }
      if ran.isGoing then (ran.withStatus state.status).checked tested else ran

/-- Runs a command; `tested` tells that it may fail without an end of the shell. -/
def runCommand : Nat → Bool → State → Command → State
  | 0, _, state, _ => state.exhausted
  | steps + 1, tested, state, command =>
    if state.settings.contains .noexec then state
    else
      match command with
      | .simple line assignments words redirects =>
        let after := runSimple steps tested (state.atLine line) assignments words redirects
        settle steps tested { after with pipeline := [after.status] }
      | .pipeline stages => settle steps tested (runStages steps tested state [] stages)
      | .negation command =>
        let state := runCommand steps true state command
        if state.isGoing then state.withStatus (if state.status = 0 then 1 else 0) else state
      | .both first second =>
        let state := runCommand steps true state first
        if state.isGoing && state.status = 0 then runCommand steps tested state second else state
      | .either first second =>
        let state := runCommand steps true state first
        if state.isGoing && state.status ≠ 0 then runCommand steps tested state second else state
      | .sequence first second =>
        let state := runCommand steps tested state first
        if state.isGoing then runCommand steps tested state second else state
      | .background command =>
        let inner := runApart steps tested (state.connect 0 (some (.device false))) command
        let after := (state.absorb inner).withStatus 0
        let number := state.number + 1 + state.jobs.length
        { after with jobs := (number, inner.status) :: state.jobs }
      | .subshell command =>
        let after := runApart steps tested state command
        settle steps tested { after with pipeline := [after.status] }
      | .redirected line command redirects =>
        let before := state
        let (state, targets) := expandTargets steps (state.atLine line) redirects
        let (after, opened) := if state.isGoing then state.redirectAll targets else (state, false)
        let after := if opened then runCommand steps tested after command
          else if after.isGoing then after.withStatus (if state.isExtended then 1 else 2)
          else after
        { after.withoutTransients before with descriptors := state.descriptors }
      | .conditional condition first second =>
        let state := runCommand steps true state condition
        if !state.isGoing then state
        else if state.status = 0 then runCommand steps tested state first
        else
          match second with
          | some second => runCommand steps tested state second
          | none => state.withStatus 0
      | .loop isUntil condition body =>
        let inner := { state with loops := state.loops + 1 }
        { runLoop steps tested isUntil condition body 0 inner with loops := state.loops }
      | .each line name words body written =>
        let (state, values) := match words with
          | some words => expandAll steps (state.atLine line) words
          | none => (state, state.arguments)
        if !state.isGoing then state
        else
          let inner := { state with loops := state.loops + 1, status := 0 }
          { runEach steps tested name body written values inner with loops := state.loops }
      | .choice line subject clauses written =>
        let state := state.traceText written
        let (state, text) := expandText (outputOf steps) subject (state.atLine line)
        if state.isGoing then runClauses steps tested false state text clauses else state
      | .define name body =>
        let others := state.functions.filter (·.1 ≠ name)
        { state with functions := (name, body) :: others, status := 0 }
      | .calculation line text =>
        let shown := chars "(( " ++ text ++ chars " ))"
        let (after, value) := compute steps (chars "((") ((state.atLine line).traceText shown) text
        let status := if value ∈ [none, some 0] then 1 else 0
        settle steps tested { after with status, pipeline := [status] }
      | .condition line condition =>
        let running := state.running
        let state := { state.atLine line with running := some (chars "[[") }
        let (state, judged) := condition.holds (outputOf steps) state
        let status := match judged with
          | some true => 0
          | some false => 1
          | none => 2
        settle steps tested { state with running, status, pipeline := [status] }
      | .counting line start test step body =>
        let (started, value) := compute steps (chars "((") (state.atLine line) start
        if value.isNone then started.withStatus 1
        else
          let inner := { started with loops := state.loops + 1 }
          let after := runCounting steps tested line test step body 0 inner
          { after with loops := state.loops }

/-- Computes an expression for a command; what is empty counts as one. -/
def compute : Nat → Chars → State → Chars → State × Option Int
  | 0, _, state, _ => (state.exhausted, none)
  | steps + 1, name, state, text =>
    if text.all Calculation.isBlank then (state, some 1)
    else
      let running := state.running
      let parts := (givenParts state.dialect text).toOption.getD []
      let (state, text) := expandText (outputOf steps) parts { state with running := some name }
      let (after, value) := if state.isGoing then state.calculate text else (state, [])
      if state.isGoing && !after.isGoing then ({ after with running, flow := .going }, none)
      else ({ after with running }, integer? value)

/-- Runs the rounds of a loop with expressions; `last` is the code of the round before. -/
def runCounting : Nat → Bool → Nat → Chars → Chars → Command → Nat → State → State
  | 0, _, _, _, _, _, _, state => state.exhausted
  | steps + 1, tested, line, test, step, body, last, state =>
    match compute steps (chars "((") (state.atLine line) test with
    | (state, none) => state.withStatus 1
    | (state, some 0) => state.withStatus last
    | (state, some _) =>
      if !state.isGoing then state
      else
        let (state, goesOn) := (runCommand steps tested state body).afterRound
        if !goesOn then state
        else
          let code := state.status
          match compute steps (chars "((") (state.atLine line) step with
          | (state, none) => state.withStatus 1
          | (state, some _) => runCounting steps tested line test step body code state

/-- Runs the rounds of a loop; `last` is the code of the round before. -/
def runLoop : Nat → Bool → Bool → Command → Command → Nat → State → State
  | 0, _, _, _, _, _, state => state.exhausted
  | steps + 1, tested, isUntil, condition, body, last, state =>
    let judged := runCommand steps true state condition
    if judged.isGoing then
      if (judged.status = 0) = isUntil then judged.withStatus last
      else
        let (state, goesOn) := (runCommand steps tested judged body).afterRound
        if goesOn then runLoop steps tested isUntil condition body state.status state else state
    else
      let (state, goesOn) := judged.afterRound
      if goesOn then runLoop steps tested isUntil condition body last state else state

/-- Runs a round for each value. -/
def runEach : Nat → Bool → Chars → Command → Chars → List Chars → State → State
  | 0, _, _, _, _, _, state => state.exhausted
  | _ + 1, _, _, _, _, [], state => state
  | steps + 1, tested, name, body, written, value :: rest, state =>
    if state.isExtended && !isName name then state.refuseName name name
    else
      let state := (state.traceText written).assign name value
      if !state.isGoing then state
      else
        let (state, goesOn) := (runCommand steps tested state body).afterRound
        if goesOn then runEach steps tested name body written rest state else state

/-- Runs the first clause with a pattern that matches a text; with `isChosen` it runs the first
one of all. -/
def runClauses : Nat → Bool → Bool → State → Chars →
    List (List Word × Option Command × ClauseEnd) → State
  | 0, _, _, state, _, _ => state.exhausted
  | _ + 1, _, _, state, _, [] => state.withStatus 0
  | steps + 1, tested, isChosen, state, text, (patterns, body, after) :: rest =>
    let (state, matched) := if isChosen then (state, true)
      else matchAny steps state text patterns
    if !state.isGoing then state
    else if !matched then runClauses steps tested false state text rest
    else
      let ran := match body with
        | some body => runCommand steps tested state body
        | none => state.withStatus 0
      if !ran.isGoing || rest.isEmpty then ran
      else
        match after with
        | .nothing => ran
        | .next => runClauses steps tested true ran text rest
        | .others => runClauses steps tested false ran text rest

def matchAny : Nat → State → Chars → List Word → State × Bool
  | 0, state, _, _ => (state.exhausted, false)
  | _ + 1, state, _, [] => (state, false)
  | steps + 1, state, text, pattern :: rest =>
    let (state, atoms) := expandWord (outputOf steps) pattern state
    if !state.isGoing then (state, false)
    else if (Pattern.ofMarked (Atom.marked atoms)).matchesText text then (state, true)
    else matchAny steps state text rest

/-- The fields of words. -/
def expandAll : Nat → State → List Word → State × List Chars
  | 0, state, _ => (state.exhausted, [])
  | _ + 1, state, [] => (state, [])
  | steps + 1, state, word :: rest =>
    let (state, first) := expandFields (outputOf steps) word state
    if !state.isGoing then (state, [])
    else
      let (state, others) := if first.head?.any (takesAssignments state.dialect) then
          expandArguments steps state rest
        else expandAll steps state rest
      (state, first ++ others)

/-- The fields of words of which those that assign are one field each. -/
def expandArguments : Nat → State → List Word → State × List Chars
  | 0, state, _ => (state.exhausted, [])
  | _ + 1, state, [] => (state, [])
  | steps + 1, state, word :: rest =>
    let (state, first) := match (assignment? state.dialect word).filter (·.key.isNone) with
      | some one =>
        let (state, text) := expandValue (outputOf steps) one.value state
        (state, [one.name ++ (if one.appends then ['+'] else []) ++ '=' :: text])
      | none => expandFields (outputOf steps) word state
    if !state.isGoing then (state, [])
    else
      let (state, others) := expandArguments steps state rest
      (state, first ++ others)

/-- Redirections with what their words stand for. -/
def expandTargets : Nat → State → List Redirect → State × List (Redirect × Chars)
  | 0, state, _ => (state.exhausted, [])
  | _ + 1, state, [] => (state, [])
  | steps + 1, state, redirect :: rest =>
    let isText := redirect.opening = .text || redirect.opening = .line
    let (state, targets) := match state.dialect, isText with
      | .extended, false => expandFields (outputOf steps) redirect.word state
      | _, _ =>
        let (state, text) := expandText (outputOf steps) redirect.word state
        (state, [text])
    if !state.isGoing then (state, [])
    else
      match targets with
      | [target] =>
        let isCopy := redirect.opening = .copy && State.isDescriptor target
        if redirect.opening ≠ .copy || isCopy then
          let (state, others) := expandTargets steps state rest
          (state, (redirect, target) :: others)
        else if !state.isExtended then (state.giveUp (chars "Syntax error: Bad fd number"), [])
        else if redirect.descriptor = 1 then
          let (state, others) := expandTargets steps state rest
          (state, ({ redirect with opening := .both }, target) :: others)
        else (state.refuseTarget redirect, [])
      | _ => (state.refuseTarget redirect, [])

/-- Assigns to a variable or an element of it, and gives the assignment as it is shown. -/
def assignOne : Nat → State → Assignment → State × Chars
  | 0, state, _ => (state.exhausted, [])
  | steps + 1, state, one =>
    let sign := if one.appends then ['+', '='] else ['=']
    match one.value with
    | [.row elements] =>
      if (state.held? one.name).any (·.fixed) then (state.assign one.name [], [])
      else (assignRow steps state one.name one.appends elements,
        one.name ++ sign ++ '(' :: elements ++ [')'])
    | value =>
      let (state, key) := match one.key with
        | none => (state, none)
        | some key =>
          let (state, text) := expandText (outputOf steps) key state
          (state, some text)
      let (state, text) := if state.isGoing then expandValue (outputOf steps) value state
        else (state, [])
      if !state.isGoing then (state, [])
      else
        let shownKey := match key with
          | none => []
          | some key => '[' :: key ++ [']']
        (state.assignTo one.name key one.appends text,
          one.name ++ shownKey ++ sign ++ state.shownValue text)

/-- Gives an array its elements. -/
def assignRow : Nat → State → Chars → Bool → Chars → State
  | 0, state, _, _, _ => state.exhausted
  | steps + 1, state, name, appends, elements =>
    let before := if appends then state.cellsOf name else []
    let last := (before.getLast?.bind fun (key, _) => natural? key)
    let next := (last.map (· + 1)).getD 0
    let isMap := state.isMap name
    let (state, cells) := fillRow steps state name isMap before next (Lexeme.ofRow elements)
    if state.isGoing then state.putCells name isMap cells else state

/-- The elements of an array with those that are written; `next` is the key of the next one
that has none. -/
def fillRow : Nat → State → Chars → Bool → List (Chars × Chars) → Nat → List Lexeme →
    State × List (Chars × Chars)
  | 0, state, _, _, cells, _, _ => (state.exhausted, cells)
  | _ + 1, state, _, _, cells, _, [] => (state, cells)
  | steps + 1, state, name, isMap, cells, next, lexeme :: rest =>
    match lexeme.token, lexeme.element? with
    | .word _, some (key, appends, value) =>
      let keyWord := (keyParts key).toOption.getD []
      let valueWord := ((word .extended value).toOption.map (·.1)).getD []
      let (state, key) := expandText (outputOf steps) keyWord state
      let (state, text) := if state.isGoing then expandValue (outputOf steps) valueWord state
        else (state, [])
      let (state, key) := if state.isGoing then state.keyFor name key else (state, key)
      if !state.isGoing then (state, cells)
      else
        let before := if appends then ((cells.find? (·.1 = key)).map (·.2)).getD [] else []
        let cells := State.withCell isMap cells key (before ++ text)
        fillRow steps state name isMap cells ((natural? key).getD 0 + 1) rest
    | .word content, none =>
      let (state, texts) := expandFields (outputOf steps) content state
      if !state.isGoing then (state, cells)
      else
        let numbered := texts.zipIdx.map fun (text, index) => (decimal (next + index), text)
        let cells := numbered.foldl (fun cells (key, text) => State.withCell isMap cells key text)
          cells
        fillRow steps state name isMap cells (next + texts.length) rest
    | _, _ => fillRow steps state name isMap cells next rest

/-- Assigns in turn, and gives the assignments as they are shown. What is lent to one command is
exported. -/
def assignAll : Nat → Bool → State → List Assignment → State × List Chars
  | 0, _, state, _ => (state.exhausted, [])
  | _ + 1, _, state, [] => (state, [])
  | steps + 1, lends, state, one :: rest =>
    let isFixed := (state.held? one.name).any (·.fixed)
    let (state, shown) := assignOne steps state one
    let state := if lends && isFixed && state.isExtended then { state with flow := .going }
      else if lends && state.isGoing then state.markExported one.name
      else state
    if !state.isGoing then (state, [])
    else
      let (state, others) := assignAll steps lends state rest
      (state, shown :: others)

/-- Runs a simple command: its words are expanded first, then its redirections are made, then
its variables assigned. -/
def runSimple : Nat → Bool → State → List Assignment → List Word → List Redirect → State
  | 0, _, state, _, _, _ => state.exhausted
  | steps + 1, tested, state, assignments, words, redirects =>
    let (words, rows) := match state.dialect with
      | .plain => (words, [])
      | .extended => withoutRows words
    let before := state
    let (state, words) := expandAll steps { state with outputStatus := 0 } words
    if !state.isGoing then state
    else
      let isSpecial := words.head?.any isSpecialBuiltin
      let (state, targets) := expandTargets steps state redirects
      let (opened, isOpen) := if state.isGoing then state.redirectAll targets else (state, false)
      let keeps := words = [chars "exec"]
      let close (after : State) : State :=
        if keeps then after
        else { after.withoutTransients before with descriptors := state.descriptors }
      if !opened.isGoing then
        if state.isExtended && targets.length < redirects.length && opened.status = 1 then
          { close opened with flow := .going }
        else close opened
      else if !isOpen then
        if state.isExtended then (close opened).withStatus 1
        else
          let failed := (close opened).withStatus 2
          if isSpecial then { failed with flow := .leaving } else failed
      else
        let lends := !words.isEmpty && (!isSpecial || state.isExtended)
        let old := assignments.map fun one => (one.name, opened.held? one.name)
        let (ready, assigned) := assignAll steps lends opened assignments
        if !ready.isGoing then close ready
        else
          let ready := ready.trace (state.endpoint? 2) assigned words
          let after := match words with
            | [] => ready.withStatus ready.outputStatus
            | name :: arguments => runNamed steps tested true ready name arguments
          let after := if after.isGoing && after.status = 0 then
              (assignAll steps false after rows).1
            else after
          close (if lends then after.restore old else after)

/-- Runs a command by its name; with `mayCall` it may be a function. -/
def runNamed : Nat → Bool → Bool → State → Chars → List Chars → State
  | 0, _, _, state, _, _ => state.exhausted
  | steps + 1, tested, mayCall, state, name, arguments =>
    let inside (run : State → State) : State := state.naming name run
    match if mayCall then state.functions.find? (·.1 = name) else none with
    | some (_, body) => callFunction steps tested state name body arguments
    | none =>
      match State.commandWord state.dialect name with
      | "eval" =>
        let script := [' '].intercalate arguments
        match state.dialect with
        | .plain => inside fun state => runText steps state script
        | .extended =>
          { runText steps { state with reading := "eval" } script with reading := state.reading }
      | "." => inside fun state => runSource steps state arguments
      | "builtin" =>
        match arguments with
        | [] => state.withStatus 0
        | name :: arguments =>
          if isBuiltin state.dialect name then runNamed steps tested false state name arguments
          else inside fun state => state.object 1 (name ++ chars ": not a shell builtin")
      | "exec" =>
        match arguments with
        | [] => state.withStatus 0
        | program :: arguments =>
          inside fun state =>
            let refuse (state : State) (error : FileError) : State :=
              if state.isExtended && program.contains '/' then
                { state with running := none }.object (Launch.refusalCode error)
                  (program ++ chars ": " ++ cause error)
              else
                state.object (Launch.refusalCode error)
                  (program ++ chars ": " ++ startCause error)
            let after := runProgram steps true { state with traps := [] } refuse program arguments
            if after.isGoing then { after with flow := .leaving } else after
      | "command" => runUncalled steps tested state arguments
      | "type" => if state.isExtended then inside (·.tellTypes arguments)
        else state.tell false arguments
      | word =>
        match shellCommand? state.dialect name, builtin? state.dialect name with
        | some command, _ =>
          let after := inside fun state => command state arguments
          match after.flow with
          | .killed signal => catchSignal steps after signal
          | .leaving =>
            if isSpecialBuiltin name && (mayCall || word = "exit" || state.isExtended) then after
            else { after with flow := .going }
          | _ => after
        | none, some program =>
          let isTest := ["test", "["].contains word
          match state.dialect, if isTest then "test" else word, arguments with
          | .extended, "test", ['-', 'v'] :: target :: _ =>
            state.withStatus (if state.hasValue target then 0 else 1)
          | .extended, "printf", ['-', 'v'] :: target :: arguments =>
            inside fun state => state.printsInto program target arguments
          | _, _, _ => state.runBuiltIn program name arguments
        | none, none =>
          let refuse (state : State) (error : FileError) : State :=
            let hasSlash := name.contains '/'
            let code := if hasSlash then Launch.refusalCode error else 127
            if !state.isExtended then state.object code (name ++ chars ": " ++ startCause error)
            else if !hasSlash then
              state.object 127 (name ++ chars (if state.searchPath.isEmpty
                then ": No such file or directory" else ": command not found"))
            else if state.view.isDirectory (pathOf name) then
              state.object 126 (name ++ chars ": Is a directory")
            else
              state.object (if error = .notDirectory then 126 else code)
                (name ++ chars ": " ++ cause error)
          runProgram steps false state refuse name arguments
where
  startCause (error : FileError) : Chars :=
    match error with
    | .notFound => chars "not found"
    | .notDirectory => chars "not found"
    | error => cause error

/-- Runs what is to be done when a signal comes. -/
def catchSignal : Nat → State → Nat → State
  | 0, state, _ => state.exhausted
  | steps + 1, state, signal =>
    match state.traps.find? (·.1 = signal) with
    | some (_, action) =>
      if signal = 9 || signal = 19 then state
      else
        let ran := runText steps { state with flow := .going } action
        if ran.isGoing then ran.withStatus state.status else ran
    | none => state

/-- Runs a command that is no function, or tells what commands are. -/
def runUncalled : Nat → Bool → State → List Chars → State
  | 0, _, state, _ => state.exhausted
  | steps + 1, tested, state, arguments =>
    match Builtin.inquiry arguments {} with
    | .error letter =>
      state.naming (chars "command") fun state =>
        state.object 2 (chars "Illegal option -" ++ [letter])
    | .ok (_, []) => state.withStatus 0
    | .ok (asked, name :: arguments) =>
      if asked.tells then
        state.tell (!asked.explains) (if state.isExtended then name :: arguments else [name])
      else runNamed steps tested false state name arguments

/-- Runs the lines of a file in this shell. -/
def runSource : Nat → State → List Chars → State
  | 0, state, _ => state.exhausted
  | steps + 1, state, arguments =>
    match arguments with
    | [] =>
      match state.dialect, state.running with
      | .extended, some name =>
        ((state.complain (chars "filename argument required")).write 2
          (name ++ chars ": usage: " ++ name ++ chars " filename [arguments]\n")).withStatus 2
      | _, _ => state.withStatus 0
    | name :: _ =>
      match state.scriptIn name with
      | .error text =>
        if state.isExtended then
          { state with running := none }.object 1 (name ++ chars ": No such file or directory")
        else state.giveUp text
      | .ok text =>
        let inner :=
          { state with
            running := if state.isExtended then none else some name, sourced := some name }
        let after : State := { runText steps inner text with sourced := state.sourced }
        if after.flow = .returning then { after with flow := .going } else after

def callFunction : Nat → Bool → State → Chars → Command → List Chars → State
  | 0, _, state, _, _, _ => state.exhausted
  | steps + 1, tested, state, name, body, arguments =>
    let inner :=
      { state with
        arguments, inFunction := true, loops := 0, saved := [], scanning := (1, none)
        calls := name :: state.calls }
    let after := runCommand steps tested inner body
    { after.restore after.saved with
      arguments := state.arguments
      scanning := state.scanning
      inFunction := state.inFunction
      loops := state.loops
      saved := state.saved
      calls := state.calls
      flow := if after.flow = .returning then .going else after.flow }

/-- Runs a program; with `replaces` it takes the place of the shell. What is to be done if it
cannot start is given. -/
def runProgram : Nat → Bool → State → (State → FileError → State) → Chars → List Chars → State
  | 0, _, state, _, _, _ => state.exhausted
  | steps + 1, replaces, state, refuse, name, arguments =>
    match Lookup.ofName state.view state.searchPath name with
    | .refused error => refuse state error
    | .script path text =>
      match interpreterOf? text with
      | some (interpreter, options) =>
        runProgram steps replaces state refuse interpreter (options ++ path :: arguments)
      | none =>
        let call : Invocation := { dialect := state.dialect, operands := path :: arguments }
        runShell steps replaces state path call (some text)
    | .program known _ =>
      match program? known with
      | some program =>
        let ran := program (state.situation name) arguments
        match if (ran.textOn .output).isEmpty then none else state.refusal? 1 with
        | none => state.take ran
        | some cause =>
          let failure := (state.situation name).complaint (chars ("write error: " ++ cause))
          state.take (ran.withoutOutput failure)
      | none =>
        match String.ofList known with
        | "xargs" => runBatches steps state name arguments
        | "which" => state.showPaths arguments
        | "awk" => runRecordProgram steps state name arguments
        | "mawk" => runRecordProgram steps state name arguments
        | runner =>
          if ["sh", "dash", "bash"].contains runner then
            let dialect : Dialect := if runner = "bash" then .extended else .plain
            match Invocation.ofArguments dialect true [] arguments with
            | .ok call => runShell steps replaces state name call none
            | .error text => (state.write 2 (name ++ chars ": 0: " ++ text ++ ['\n'])).withStatus 2
          else runLaunch steps replaces state runner name arguments

/-- Runs a program that looks at records of text; it may run scripts of its own. -/
def runRecordProgram : Nat → State → Chars → List Chars → State
  | 0, state, _, _ => state.exhausted
  | steps + 1, state, label, arguments =>
    let run (state : State) (script : Chars) : State :=
      let call : Invocation := { takesScript := true, operands := [script] }
      runShell steps true state (chars "sh") call none
    Awk.start steps run state label arguments

/-- Runs a new shell. Its script may be given; else it is an argument, a file or the input. -/
def runShell : Nat → Bool → State → Chars → Invocation → Option Chars → State
  | 0, _, state, _, _, _ => state.exhausted
  | steps + 1, replaces, state, label, call, given =>
    let refuse (text : Chars) : State :=
      (state.write 2 (label ++ chars ": 0: " ++ text ++ ['\n'])).withStatus 2
    let start (state : State) (name : Chars) (arguments : List Chars) (text : Chars)
        (settings : Settings) : State :=
      let state := if call.settings.any [.interactive, .monitor].contains then
        state.write 2 (label ++ chars ": 0: " ++ Builtin.noTerminal ++ ['\n']) else state
      let usual := if call.dialect = .plain then []
        else [.hashall, .braceexpand, .interactiveComments]
          ++ (if call.takesScript then [.commandString] else [])
      let settings := usual.foldl (·.change · true) (settings.change .monitor false)
      let fresh := state.newShell call.dialect name arguments settings
      let reading := if call.takesScript then "-c" else ""
      let inner := finish steps (runText steps { fresh with reading } text)
      let after := state.absorb inner
      match inner.flow with
      | .killed signal => if replaces then after else { after with flow := state.flow }.reap signal
      | _ => after
    match given, call.takesScript, call.operands with
    | some text, _, operands => start state label (operands.drop 1) text call.settings
    | none, true, [] => refuse (chars "-c requires an argument")
    | none, true, script :: operands =>
      start state (operands.headD label) (operands.drop 1) script call.settings
    | none, false, file :: operands =>
      if call.settings.contains .stdin then
        start (state.leave 0 []) label (file :: operands) (state.readable 0).1 call.settings
      else
        match state.view.read (pathOf file) with
        | .ok octets => start state file operands (charsOf octets) call.settings
        | .error .isDirectory => state.withStatus 0
        | .error error =>
          match call.dialect with
          | .plain => refuse (chars "cannot open " ++ file ++ chars ": " ++ openCause false error)
          | .extended =>
            (state.write 2 (label ++ chars ": " ++ file ++ chars ": " ++ cause error
              ++ ['\n'])).withStatus (Launch.refusalCode error)
    | none, false, [] =>
      start (state.leave 0 []) label [] (state.readable 0).1 (call.settings.change .stdin true)

/-- Runs a program that runs another one. -/
def runLaunch : Nat → Bool → State → String → Chars → List Chars → State
  | 0, _, state, _, _, _ => state.exhausted
  | steps + 1, replaces, state, runner, label, arguments =>
    match Launch.ofArguments runner arguments with
    | .error text => state.take ((state.situation label).refuseUsage (Launch.usageCode runner) text)
    | .ok launch =>
      let changed := launch.changeVariables state
      let found := if (changed.held? (chars "PATH")).isSome then changed
        else changed.putVariable (chars "PATH") { value := some (chars "/bin:/usr/bin") }
      match launch.words with
      | [] =>
        if runner = "env" then
          state.answer (unlines (changed.environment.map fun (name, value) => name ++ '=' :: value))
        else state.answer (chars "0\n")
      | name :: arguments =>
        let refuse (state : State) (error : FileError) : State :=
          (state.write 2 (Launch.refusal runner label name error)).withStatus
            (Launch.refusalCode error)
        { runProgram steps replaces found refuse name arguments with bindings := state.bindings }

/-- Runs a program for items of the input. -/
def runBatches : Nat → State → Chars → List Chars → State
  | 0, state, _, _ => state.exhausted
  | steps + 1, state, label, arguments =>
    match Batching.ofArguments arguments {} with
    | .error text => state.take ((state.situation label).refuseUsage 1 text)
    | .ok batching =>
      let commands := batching.commands (state.readable 0).1
      let started := ((state.leave 0 []).connect 0 (some (.device false))).withStatus 0
      { runBatch steps label commands started with descriptors := state.descriptors }

def runBatch : Nat → Chars → List (List Chars) → State → State
  | 0, _, _, state => state.exhausted
  | steps + 1, label, (name :: arguments) :: rest, state =>
    let refuse (state : State) (error : FileError) : State :=
      (state.write 2 (Launch.refusal "xargs" label name error)).withStatus
        (Launch.refusalCode error)
    let ran := runProgram steps false state refuse name arguments
    if ran.status = 126 || ran.status = 127 || !ran.isGoing then ran
    else if ran.status = 255 then
      let text := label ++ chars ": " ++ name ++ chars ": exited with status 255; aborting\n"
      (ran.write 2 text).withStatus 124
    else runBatch steps label rest (ran.withStatus (if ran.status = 0 then state.status else 123))
  | _ + 1, _, _, state => state

end

end LiveCompile.Shell
