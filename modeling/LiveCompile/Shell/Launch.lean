import LiveCompile.Shell.Command

/-! Programs that run another program: what their arguments ask for. -/

namespace LiveCompile.Shell

/-- What a program that runs another one is asked for. -/
structure Launch where
  /-- the other program gets no variables but those that are given -/
  isCleared : Bool := false
  /-- variables that the other program gets, or does not get -/
  changes : List (Chars × Option Chars) := []
  words : List Chars := []

namespace Launch

/-- What `env` is asked for, or what is wrong. -/
def ofEnvironment : List Chars → Launch → Except Chars Launch
  | [], launch => .ok launch
  | ['-'] :: rest, launch => ofEnvironment rest { launch with isCleared := true }
  | ['-', 'i'] :: rest, launch => ofEnvironment rest { launch with isCleared := true }
  | ['-', 'u'] :: name :: rest, launch =>
    ofEnvironment rest { launch with changes := launch.changes ++ [(name, none)] }
  | ['-', '-'] :: rest, launch => given rest launch
  | ('-' :: letter :: more) :: rest, launch =>
    if letter = 'u' then
      ofEnvironment rest { launch with changes := launch.changes ++ [(more, none)] }
    else if letter = '-' then .error (chars "unrecognized option '--" ++ more ++ ['\x27'])
    else .error (chars "invalid option -- '" ++ [letter, '\x27'])
  | argument :: rest, launch => given (argument :: rest) launch
where
  given : List Chars → Launch → Except Chars Launch
    | [], launch => .ok launch
    | argument :: rest, launch =>
      match Builtin.assigned argument with
      | (name, some value) =>
        given rest { launch with changes := launch.changes ++ [(name, some value)] }
      | (_, none) => .ok { launch with words := argument :: rest }

/-- The arguments after options at the start, of which those in a list take a value. -/
def afterOptions (valued : List Char) : List Chars → List Chars
  | ['-', '-'] :: rest => rest
  | ('-' :: letter :: more) :: rest =>
    if valued.contains letter && more.isEmpty then
      match rest with
      | _ :: rest => afterOptions valued rest
      | [] => []
    else afterOptions valued rest
  | arguments => arguments

/-- What a program is asked for that runs another one, or what is wrong. -/
def ofArguments (runner : String) (arguments : List Chars) : Except Chars Launch :=
  let needs (words : List Chars) : Except Chars Launch :=
    if words.isEmpty then .error (chars "missing operand") else .ok { words }
  match runner with
  | "env" => ofEnvironment arguments {}
  | "nice" => .ok { words := afterOptions ['n'] arguments }
  | "timeout" =>
    let words := (afterOptions ['s', 'k'] arguments).drop 1
    if words.isEmpty then .error [] else .ok { words }
  | "nohup" => needs (afterOptions [] arguments)
  | _ => needs (afterOptions [] arguments)

/-- The code for bad arguments. -/
def usageCode (runner : String) : Nat := if runner = "setsid" then 1 else 125

/-- What is said when the other program cannot be run. -/
def refusal (runner : String) (label name : Chars) (error : FileError) : Chars :=
  let text := match runner with
    | "env" => quotedName name
    | "nice" => quotedName name
    | "setsid" => chars "failed to execute " ++ name
    | "xargs" => name
    | _ => chars "failed to run command " ++ quotedName name
  label ++ chars ": " ++ text ++ chars ": " ++ cause error ++ ['\n']

/-- The code for a program that cannot be run. -/
def refusalCode : FileError → Nat
  | .notFound => 127
  | .notDirectory => 127
  | .nameTooLong => 127
  | _ => 126

def changeVariables (launch : Launch) (state : State) : State :=
  let state := if launch.isCleared then { state with bindings := [] } else state
  launch.changes.foldl (fun state (name, value) =>
    match value with
    | some value => state.putVariable name { value := some value, exported := true }
    | none => state.unset name) state

end Launch

/-- How items become arguments of the programs that `xargs` runs. -/
structure Batching where
  /-- the greatest number of items for one run -/
  size : Option Nat := none
  /-- the text that an item stands for -/
  slot : Option Chars := none
  separator : Option Char := none
  needsItems : Bool := false
  words : List Chars := []

namespace Batching

def ofArguments : List Chars → Batching → Except Chars Batching
  | [], batching => .ok batching
  | ['-', 'n'] :: count :: rest, batching =>
    ofArguments rest { batching with size := natural? count }
  | ['-', 'L'] :: count :: rest, batching =>
    ofArguments rest { batching with size := natural? count }
  | ['-', 'I'] :: slot :: rest, batching => ofArguments rest { batching with slot := some slot }
  | ['-', 'd'] :: text :: rest, batching =>
    let text := (Escapes.expand {} text).1
    ofArguments rest { batching with separator := text.head? }
  | ['-', '-'] :: rest, batching => .ok { batching with words := rest }
  | ('-' :: letter :: more) :: rest, batching =>
    match letter with
    | '0' => ofArguments rest { batching with separator := some '\x00' }
    | 'r' => ofArguments rest { batching with needsItems := true }
    | 't' => ofArguments rest batching
    | 'n' => ofArguments rest { batching with size := natural? more }
    | 'I' => ofArguments rest { batching with slot := some more }
    | 'd' => ofArguments rest { batching with separator := more.head? }
    | _ => .error (chars "invalid option -- '" ++ [letter, '\x27'])
  | words, batching => .ok { batching with words }

/-- The items between blanks; quotes and backslashes keep blanks. `item` is what is read of
an item so far. -/
def items (quote : Option Char) (item : Option Chars) : Chars → List Chars
  | [] => item.toList
  | c :: rest =>
    let more (c : Char) : Option Chars := some (item.getD [] ++ [c])
    match quote with
    | some q => if c = q then items none (some (item.getD [])) rest else items quote (more c) rest
    | none =>
      if c = '"' || c = apostrophe then items (some c) (some (item.getD [])) rest
      else if c = '\\' then
        match rest with
        | [] => item.toList
        | next :: rest => items none (more next) rest
      else if isBlankOrLine c then item.toList ++ items none none rest
      else items none (more c) rest

/-- The items in a text. -/
def itemsOf (batching : Batching) (text : Chars) : List Chars :=
  match batching.separator, batching.slot with
  | some separator, _ =>
    let pieces := piecesBetween separator text
    if pieces.getLast? = some [] then pieces.dropLast else pieces
  | none, some _ =>
    ((linesOf text).map fun line => (bareLine line).dropWhile isBlankOrLine).filter (· ≠ [])
  | none, none => items none none text

/-- A list in pieces of a size. The first argument bounds their number. -/
def chunks (size : Nat) : Nat → List Chars → List (List Chars)
  | 0, _ => []
  | _ + 1, [] => []
  | count + 1, items => items.take size :: chunks size count (items.drop size)

/-- A word with another text for each place where a text occurs in it. The first argument
bounds the number of steps. -/
def replaced (slot item : Chars) : Nat → Chars → Chars
  | 0, text => text
  | _ + 1, [] => []
  | steps + 1, c :: rest =>
    if slot.isPrefixOf (c :: rest) && !slot.isEmpty then
      item ++ replaced slot item steps ((c :: rest).drop slot.length)
    else c :: replaced slot item steps rest

/-- The commands to run for a text. -/
def commands (batching : Batching) (text : Chars) : List (List Chars) :=
  let words := if batching.words.isEmpty then [chars "echo"] else batching.words
  let items := batching.itemsOf text
  match batching.slot with
  | some slot =>
    items.map fun item => words.map fun word => replaced slot item (word.length + 1) word
  | none =>
    if items.isEmpty then (if batching.needsItems then [] else [words])
    else (chunks (max 1 (batching.size.getD items.length)) items.length items).map (words ++ ·)

end Batching

end LiveCompile.Shell
