import LiveCompile.Shell.Addition

/-! The commands of the shell by their names, and what names stand for as commands. -/

namespace LiveCompile.Shell

/-- The commands that change the shell, by their names. -/
def shellCommands : List (String × Builtin) :=
  [(":", Builtin.nothing), ("exit", Builtin.exits), ("return", Builtin.returns),
    ("break", Builtin.breakOut false), ("continue", Builtin.breakOut true),
    ("shift", Builtin.shift),
    ("export", Builtin.exports), ("readonly", Builtin.readonly), ("unset", Builtin.unset),
    ("local", Builtin.locals), ("set", Builtin.set), ("cd", Builtin.cd), ("chdir", Builtin.cd),
    ("read", Builtin.read), ("umask", Builtin.umask), ("getopts", Builtin.getopts),
    ("times", Builtin.times),
    ("trap", Builtin.trap),
    ("kill", Builtin.kill), ("wait", Builtin.waits), ("hash", Builtin.nothing),
    ("ulimit", Builtin.limits), ("jobs", Builtin.nothing), ("alias", Builtin.nothing)]

/-- The commands that run others. -/
def runningCommands : List String := ["eval", ".", "exec", "command", "type"]

def isSpecialBuiltin (name : Chars) : Bool := specialBuiltins.any fun other => other.toList = name

def shellCommand? (dialect : Dialect) (name : Chars) : Option Builtin :=
  let known := match dialect with
    | .plain => shellCommands
    | .extended => addedCommands ++ shellCommands
  (known.find? fun (other, _) => other.toList = name).map (·.2)

def isBuiltin (dialect : Dialect) (name : Chars) : Bool :=
  let word := String.ofList name
  (shellCommand? dialect name).isSome || (builtin? dialect name).isSome
    || runningCommands.contains word
    || (dialect = .extended && (word = "source" || word = "builtin"))

namespace State

/-- Runs a part of the state with a command of the shell that complaints name. -/
def naming (name : Chars) (run : State → State) (state : State) : State :=
  { run { state with running := some name } with running := state.running }

def searchPath (state : State) : Chars := (state.value? (chars "PATH")).getD []

def meaning (state : State) (name : Chars) : Builtin.Meaning :=
  if keywords.contains (String.ofList name) then .keyword
  else if state.functions.any (·.1 = name) then .function
  else if isBuiltin state.dialect name then .builtin (isSpecialBuiltin name)
  else
    match Lookup.ofName state.view state.searchPath name with
    | .program _ path => .path path
    | .script path _ => .path path
    | .refused _ => .unknown

/-- Tells of what kind the things are that names stand for. -/
def tellTypes : Builtin := fun state arguments =>
  let (asksKind, names) := match arguments with
    | ['-', 't'] :: names => (true, names)
    | names => (false, names)
  let step (state : State) (name : Chars) : State :=
    let meaning := state.meaning name
    let kind := match meaning with
      | .keyword => some "keyword"
      | .function => some "function"
      | .builtin _ => some "builtin"
      | .path _ => some "file"
      | .unknown => none
    match kind, asksKind with
    | some kind, true => state.write 1 (chars (kind ++ "\n"))
    | some _, false =>
      let told := match meaning with
        | .builtin _ => chars " is a shell builtin"
        | .keyword => chars " is a shell keyword"
        | .function => chars " is a function"
        | .path path => chars " is " ++ path
        | .unknown => []
      state.write 1 (name ++ told ++ ['\n'])
    | none, true => state.withStatus 1
    | none, false => state.object 1 (name ++ chars ": not found")
  names.foldl step (state.withStatus 0)

/-- Tells what names stand for. -/
def tell (brief : Bool) : Builtin := fun state names =>
  let step (state : State) (name : Chars) : State :=
    match Builtin.describe name brief (state.meaning name) with
    | some text => state.write 1 (text ++ ['\n'])
    | none =>
      match state.dialect with
      | .extended =>
        if brief then state
        else state.naming (chars "command") (·.complain (name ++ chars ": not found"))
      | .plain =>
        let state := if brief then state else state.write 1 (name ++ chars ": not found\n")
        state.withStatus 127
  let after := names.foldl step (state.withStatus 0)
  let isKnown (name : Chars) : Bool := (Builtin.describe name brief (state.meaning name)).isSome
  if state.isExtended && !names.any isKnown then after.withStatus 1 else after

end State

end LiveCompile.Shell
