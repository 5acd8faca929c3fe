import LiveCompile.Shell.Builtin

/-! Commands of the extended shell that give variables attributes, and how those are shown. -/

namespace LiveCompile.Shell

/-- A text between double quotes, so that a shell reads it back. -/
def doubleQuoted (text : Chars) : Chars :=
  if !text.all isPrintable then Alteration.quoted text
  else '"' :: text.flatMap (fun c =>
    if c = '"' || c = '\\' || c = '$' || c = backquote then ['\\', c] else [c]) ++ ['"']

namespace Variable

/-- The letters of the attributes. -/
def letters (held : Variable) : Chars :=
  let isArray := held.cells.isSome && !held.isMap
  let found := [(isArray, 'a'), (held.isMap, 'A'), (held.isInteger, 'i'), (held.fixed, 'r'),
    (held.exported, 'x')].filterMap fun (holds, letter) => if holds then some letter else none
  if found.isEmpty then ['-'] else found

/-- The value as a shell reads it back. -/
def shown? (held : Variable) : Option Chars :=
  let shownKey (key : Chars) : Chars :=
    if key.all fun c => c.isAlphanum || c = '_' then key else doubleQuoted key
  let cell (cell : Chars × Chars) : Chars :=
    '[' :: shownKey cell.1 ++ chars "]=" ++ doubleQuoted cell.2
  match held.cells with
  | none => held.value.map doubleQuoted
  | some [] => none
  | some cells =>
    let inner := [' '].intercalate (cells.map cell)
    some ('(' :: inner ++ (if held.isMap then [' ', ')'] else [')']))

/-- The command that declares a variable. -/
def declaration (held : Variable) (name : Chars) : Chars :=
  chars "declare -" ++ held.letters ++ ' ' :: name ++ (match held.shown? with
    | some value => '=' :: value
    | none => []) ++ ['\n']

/-- The variable with an attribute, or without it. -/
def withAttribute (held : Variable) (isOn : Bool) (letter : Char) : Variable :=
  match letter with
  | 'x' => { held with exported := isOn }
  | 'i' => { held with isInteger := isOn }
  | 'a' => { held with cells := some (held.cells.getD (held.value.toList.map (['0'], ·))) }
  | 'A' => { held with cells := some (held.cells.getD []), isMap := true }
  | _ => held

end Variable

namespace Builtin

/-- The letters of options at the start of arguments, with the value of each that takes one, and
the arguments after them; or the first letter that is none. -/
def lettersOf (known valued : String) :
    List Chars → Except Char (List (Char × Chars) × List Chars)
  | ['-', '-'] :: rest => .ok ([], rest)
  | ('-' :: letter :: letters) :: rest =>
    match cluster (letter :: letters) with
    | .error letter => .error letter
    | .ok (found, none) => do
      let (others, rest) ← lettersOf known valued rest
      return (found ++ others, rest)
    | .ok (found, some letter) =>
      match rest with
      | [] => .error letter
      | value :: rest => do
        let (others, rest) ← lettersOf known valued rest
        return (found ++ (letter, value) :: others, rest)
  | arguments => .ok ([], arguments)
where
  cluster : Chars → Except Char (List (Char × Chars) × Option Char)
    | [] => .ok ([], none)
    | letter :: letters =>
      if valued.toList.contains letter then
        .ok (if letters.isEmpty then ([], some letter) else ([(letter, letters)], none))
      else if known.toList.contains letter then do
        let (found, pending) ← cluster letters
        return ((letter, []) :: found, pending)
      else .error letter

/-- How a command is used that declares variables. -/
def declaringUsage (name : String) : String :=
  match name with
  | "declare" => "declare [-aAfFgiIlnrtux] [name[=value] ...] or declare -p [-aAfFilnrtux] [name ...]"
  | "typeset" =>
    "typeset [-aAfFgiIlnrtux] name[=value] ... or typeset -p [-aAfFilnrtux] [name ...]"
  | "local" => "local [option] name[=value] ..."
  | "export" => "export [-fn] [name[=value] ...] or export -p"
  | _ => "readonly [-aAf] [name[=value] ...] or readonly -p"

/-- Attributes that variables get, and those that they lose. -/
structure Attributes where
  gets : Chars := []
  loses : Chars := []
  isLocal : Bool := false

/-- Declares a variable that an argument names and may give a value. -/
def declare (attributes : Attributes) (state : State) (argument : Chars) : State :=
  let target := match assigned? argument with
    | some (name, _, appends, value) => some (name, appends, some value)
    | none => if isName argument then some (argument, false, none) else none
  match target with
  | none => state.object 1 (backquote :: argument ++ chars "': not a valid identifier")
  | some (name, appends, value) =>
    let isNew := attributes.isLocal && !state.saved.any (·.1 = name)
    let isFixed := (state.held? name).any (·.fixed) && !isNew
    let isReleased := attributes.loses.contains 'r'
    if isFixed && (value.isSome || isReleased) then
      state.object 1 (name ++ chars ": readonly variable")
    else
      let state := if isNew then (saveVariable state name).putVariable name {} else state
      let held := attributes.gets.foldl (fun held => held.withAttribute true)
        ((state.held? name).getD {})
      let held := attributes.loses.foldl (fun held => held.withAttribute false) held
      let state := state.putVariable name held
      let state := match value with
        | some value => state.assignTo name none appends value
        | none => state
      if !attributes.gets.contains 'r' then state
      else state.putVariable name { (state.held? name).getD {} with fixed := true }

/-- Shows variables by their names. -/
def showDeclarations (state : State) (names : List Chars) : State :=
  names.foldl (fun state name =>
    match state.held? name with
    | some held => state.write 1 (held.declaration name)
    | none => state.object 1 (name ++ chars ": not found")) (state.withStatus 0)

/-- All variables of a kind. -/
def declarations (state : State) (isShown : Variable → Bool) : Chars :=
  let found := state.bindings.filter fun (_, held) => isShown held
  (found.mergeSort fun a b => textLE a.1 b.1).flatMap fun (name, held) => held.declaration name

/-- Tells whether functions are there. -/
def askFunctions (state : State) (tells : Bool) (names : List Chars) : State :=
  names.foldl (fun state name =>
    if state.functions.any (·.1 = name) then
      if tells then state.write 1 (name ++ ['\n']) else state
    else state.withStatus 1) (state.withStatus 0)

/-- Declares variables; `always` are attributes that they get in any case. -/
def declares (name : String) (always : Chars) : Builtin := fun state arguments =>
  let isOption (argument : Chars) : Bool :=
    match argument with
    | '-' :: _ :: _ => true
    | '+' :: _ :: _ => true
    | _ => false
  let options := arguments.takeWhile isOption
  let names := arguments.dropWhile isOption
  let given := (options.filter (·.head? = some '-')).flatMap fun option =>
    (option.drop 1).filter (· ≠ '-')
  let taken := (options.filter (·.head? = some '+')).flatMap fun option => option.drop 1
  let declaresLocal := name = "local" || (name ≠ "export" && name ≠ "readonly" && state.inFunction)
  if name = "local" && !state.inFunction then
    state.object 1 (chars "can only be used in a function")
  else
    match given.find? fun letter => !"aAfFgiIlnrtuxp".toList.contains letter with
    | some letter => state.refuseOption ['-', letter] (declaringUsage name)
    | none =>
      let isRelease := name = "export" && given.contains 'n'
      let attributes : Attributes :=
        { gets := given ++ (if isRelease then [] else always)
          loses := taken ++ (if isRelease then ['x'] else [])
          isLocal := declaresLocal && !given.contains 'g' }
      if given.contains 'f' || given.contains 'F' then
        askFunctions state (given.contains 'F') names
      else if names.isEmpty then
        state.answer (declarations state fun held =>
          (always.isEmpty || (always.contains 'x' && held.exported)
            || (always.contains 'r' && held.fixed)))
      else if given.contains 'p' then showDeclarations state names
      else names.foldl (fun state name => if state.isGoing then declare attributes state name
        else state) (state.withStatus 0)

/-- Forgets variables, elements of them or functions. -/
def forgets : Builtin := fun state arguments =>
  match lettersOf "fvn" "" arguments with
  | .error letter => state.refuseOption ['-', letter] "unset [-f] [-v] [-n] [name ...]"
  | .ok (options, names) =>
    let step (state : State) (word : Chars) : State :=
      let (name, key) := Calculation.nameParts word
      if options.any (·.1 = 'f') || (options.isEmpty && !isName name) then
        { state with functions := state.functions.filter (·.1 ≠ word) }
      else if !isName name then
        state.object 1 (backquote :: word ++ chars "': not a valid identifier")
      else if (state.held? name).any (·.fixed) then
        state.object 1 (name ++ chars ": cannot unset: readonly variable")
      else
        match key with
        | none =>
          if (state.held? name).isNone && options.isEmpty then
            { state with functions := state.functions.filter (·.1 ≠ name) }
          else state.unset name
        | some key =>
          if isEveryKey key then state.putCells name (state.isMap name) []
          else
            let (state, key) := state.keyFor name key
            state.putCells name (state.isMap name)
              ((state.cellsOf name).filter (·.1 ≠ key))
    names.foldl (fun state name => if state.isGoing then step state name else state)
      (state.withStatus 0)

end Builtin

end LiveCompile.Shell
