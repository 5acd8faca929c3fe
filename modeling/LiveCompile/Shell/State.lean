import LiveCompile.Shell.Script
import LiveCompile.Shell.Arithmetic
import LiveCompile.Shell.Setting

/-! A shell between two commands. Programs run one after the other: what one writes is there
before another one reads it. -/

namespace LiveCompile.Shell

structure Variable where
  value : Option Chars := none
  exported : Bool := false
  fixed : Bool := false
  /-- the elements of an array with their keys; the value is that of the first key -/
  cells : Option (List (Chars × Chars)) := none
  /-- the keys of an array are any texts -/
  isMap : Bool := false
  /-- what is assigned is computed -/
  isInteger : Bool := false
  deriving Repr, Inhabited, DecidableEq

/-- What a descriptor stands for. Sources and sinks have numbers, so that several
descriptors can stand for one. -/
inductive Endpoint where
  | source (number : Nat) (isFile : Bool)
  | sink (number : Nat)
  | file (place : List FileName)
  /-- it is always empty and keeps nothing; it may refuse what is written -/
  | device (isFull : Bool)
  deriving DecidableEq, Repr

/-- How a shell goes on after a command. -/
inductive Flow where
  | going
  | breaking (loops : Nat)
  | continuing (loops : Nat)
  | returning
  | leaving
  /-- a signal ends the shell -/
  | killed (signal : Nat)
  deriving DecidableEq, Repr

structure State where
  view : FileView
  /-- how the shell names itself -/
  name : Chars
  dialect : Dialect := .plain
  /-- the number of the shell among the shells that run -/
  number : Nat := 2
  arguments : List Chars := []
  bindings : List (Chars × Variable) := []
  functions : List (Chars × Command) := []
  settings : Settings := []
  descriptors : List (Nat × Endpoint) := []
  sources : List (Nat × Chars) := []
  /-- what is written to each sink, the last piece first -/
  sinks : List (Nat × List Chars) := []
  /-- the number of the next source or sink -/
  next : Nat := 0
  /-- the code of the last command -/
  status : Nat := 0
  /-- the code of the last script whose output was taken by the command that runs -/
  outputStatus : Nat := 0
  line : Nat := 1
  flow : Flow := .going
  /-- scripts that run when a signal comes, and at the end for the number zero -/
  traps : List (Nat × Chars) := []
  /-- the command of the shell that runs, which complaints name -/
  running : Option Chars := none
  /-- how many loops are around the command that runs -/
  loops : Nat := 0
  inFunction : Bool := false
  /-- the file whose lines are run in this shell -/
  sourced : Option Chars := none
  /-- how complaints name what is read if it is no file -/
  reading : String := ""
  /-- how many scripts whose output is taken are around -/
  depth : Nat := 0
  /-- the codes of the commands of the last pipeline -/
  pipeline : List Nat := []
  /-- the functions that run, the innermost one first -/
  calls : List Chars := []
  /-- the commands that ran in the background: their numbers and codes, the last one first -/
  jobs : List (Nat × Nat) := []
  /-- further settings of the extended shell that are on -/
  switches : List Chars := []
  /-- the next argument and the place in the one before it where `getopts` goes on -/
  scanning : Nat × Option Nat := (1, none)
  /-- variables that have their old values again after the function that runs -/
  saved : List (Chars × Option Variable) := []

namespace State

def isGoing (state : State) : Bool := state.flow = .going

def withStatus (state : State) (status : Nat) : State := { state with status }

def endpoint? (state : State) (descriptor : Nat) : Option Endpoint :=
  (state.descriptors.find? (·.1 = descriptor)).map (·.2)

/-- The state with a descriptor that stands for something else, or is closed. -/
def connect (state : State) (descriptor : Nat) (endpoint : Option Endpoint) : State :=
  let others := state.descriptors.filter (·.1 ≠ descriptor)
  { state with descriptors := (endpoint.toList.map (descriptor, ·)) ++ others }

/-- A new source that holds a text. -/
def addSource (state : State) (text : Chars) (isFile : Bool) : Endpoint × State :=
  (.source state.next isFile,
    { state with sources := (state.next, text) :: state.sources, next := state.next + 1 })

def addSink (state : State) : Nat × State :=
  (state.next, { state with sinks := (state.next, []) :: state.sinks, next := state.next + 1 })

def collected (state : State) (number : Nat) : Chars :=
  (((state.sinks.find? (·.1 = number)).map (·.2)).getD []).reverse.flatten

/-- The state with other files; those that are new get their modes. -/
def withTree (state : State) (tree : FileTree) : State :=
  { state with view := { state.view with tree := tree.masked state.view.tree state.view.mask } }

def writeTo (state : State) (endpoint : Option Endpoint) (text : Chars) : State :=
  if text.isEmpty then state
  else
    match endpoint with
    | some (.sink number) =>
      { state with sinks := state.sinks.map fun (other, before) =>
          if other = number then (other, text :: before) else (other, before) }
    | some (.file place) =>
      let tree := state.view.tree
      state.withTree (tree.write place ((tree.file? place).getD [] ++ octetsOf text))
    | _ => state

/-- Writes to a descriptor; what is written to a closed one is lost. -/
def write (state : State) (descriptor : Nat) (text : Chars) : State :=
  state.writeTo (state.endpoint? descriptor) text

/-- Why nothing can be written to a descriptor. -/
def refusal? (state : State) (descriptor : Nat) : Option String :=
  match state.endpoint? descriptor with
  | none => some "Bad file descriptor"
  | some (.device true) => some "No space left on device"
  | some _ => none

/-- What can be read from a descriptor, and whether it is a file. -/
def readable (state : State) (descriptor : Nat) : Chars × Bool :=
  match state.endpoint? descriptor with
  | some (.source number isFile) =>
    (((state.sources.find? (·.1 = number)).map (·.2)).getD [], isFile)
  | _ => ([], false)

/-- The state after all but a rest is read from a descriptor. -/
def leave (state : State) (descriptor : Nat) (rest : Chars) : State :=
  match state.endpoint? descriptor with
  | some (.source number _) =>
    { state with sources := state.sources.map fun (other, text) =>
        if other = number then (other, rest) else (other, text) }
  | _ => state

def atLine (state : State) (line : Nat) : State := { state with line }

def isExtended (state : State) : Bool := state.dialect = .extended

/-- How the shell calls the place where it is. -/
def placeName (state : State) : Chars :=
  match state.dialect with
  | .plain => state.name ++ chars ": " ++ decimal state.line
  | .extended =>
    let fromFile := state.sourced.isSome || state.reading.isEmpty
    (if state.inFunction && !fromFile then chars "environment" else state.sourced.getD state.name)
      ++ chars ": line " ++ decimal state.line

/-- How complaints of the shell begin. -/
def label (state : State) : Chars :=
  let running := match state.running with
    | some name => chars ": " ++ name
    | none => []
  state.placeName ++ running

def complain (state : State) (text : Chars) : State :=
  state.write 2 (state.label ++ chars ": " ++ text ++ ['\n'])

/-- A complaint that ends the shell. -/
def giveUp (state : State) (text : Chars) : State :=
  { state.complain text with status := 2, flow := .leaving }

/-- A complaint that does not end the command. -/
def object (state : State) (status : Nat) (text : Chars) : State :=
  (state.complain text).withStatus status

/-- A complaint of each dialect. The plain one gives up, the extended one goes on with a code. -/
def refuse (state : State) (plain extended : Chars) (code : Nat := 1) : State :=
  match state.dialect with
  | .plain => state.giveUp plain
  | .extended => state.object code extended

/-- A complaint of each dialect that ends the shell. -/
def abort (state : State) (plain extended : Chars) (code : Nat := 1) : State :=
  match state.dialect with
  | .plain => state.giveUp plain
  | .extended => { state.object code extended with flow := .leaving }

def held? (state : State) (name : Chars) : Option Variable :=
  (state.bindings.find? (·.1 = name)).map (·.2)

def value? (state : State) (name : Chars) : Option Chars := (state.held? name).bind (·.value)

def putVariable (state : State) (name : Chars) (new : Variable) : State :=
  { state with bindings := (name, new) :: state.bindings.filter (·.1 ≠ name) }

/-- Where a key of a map has its place among the others: one of 1024 slots. -/
def slotOf (key : Chars) : Nat :=
  (key.foldl (fun hash c => (hash * 16777619) ^^^ UInt32.ofNat c.toNat) (2166136261 : UInt32)).toNat
    % 1024

/-- The elements of an array after one is put; those with numbers are in their order, the others
in that of their slots, and in a slot the last one first. -/
def withCell (isMap : Bool) (cells : List (Chars × Chars)) (key value : Chars) :
    List (Chars × Chars) :=
  if isMap then
    if cells.any (·.1 = key) then
      cells.map fun (other, before) => if other = key then (key, value) else (other, before)
    else
      let isBefore (cell : Chars × Chars) : Bool := slotOf cell.1 < slotOf key
      cells.takeWhile isBefore ++ (key, value) :: cells.dropWhile isBefore
  else
    let number (key : Chars) : Nat := (natural? key).getD 0
    let others := cells.filter (·.1 ≠ key)
    others.filter (fun (other, _) => number other < number key) ++ (key, value)
      :: others.filter (fun (other, _) => number key < number other)

/-- The elements of an array that the extended shell keeps itself. -/
def derived (state : State) (name : Chars) : List Chars :=
  if !state.isExtended then []
  else
    match String.ofList name with
    | "PIPESTATUS" => state.pipeline.map decimal
    | "FUNCNAME" =>
      if state.calls.isEmpty || !state.reading.isEmpty then state.calls
      else state.calls ++ [chars "main"]
    | "LINENO" => [decimal state.line]
    | "BASHPID" => [decimal (state.number + state.depth)]
    | "BASH_SUBSHELL" => [decimal state.depth]
    | "SECONDS" => [['0']]
    | _ => []

/-- The elements of a variable with their keys. -/
def cellsOf (state : State) (name : Chars) : List (Chars × Chars) :=
  match state.held? name with
  | none => (state.derived name).zipIdx.map fun (value, index) => (decimal index, value)
  | some held =>
    match held.cells, held.value with
    | some cells, _ => cells
    | none, some value => [(['0'], value)]
    | none, none => []

/-- The state with other elements of an array. -/
def putCells (state : State) (name : Chars) (isMap : Bool) (cells : List (Chars × Chars)) :
    State :=
  let held := (state.held? name).getD {}
  let value := (cells.find? (·.1 = ['0'])).map (·.2)
  state.putVariable name { held with cells := some cells, isMap, value }

def element? (state : State) (name key : Chars) : Option Chars :=
  ((state.cellsOf name).find? (·.1 = key)).map (·.2)

def isMap (state : State) (name : Chars) : Bool := (state.held? name).any (·.isMap)

def putElement (state : State) (name key value : Chars) : State :=
  if (state.held? name).any (·.fixed) then
    state.abort (name ++ chars ": is read only") (name ++ chars ": readonly variable")
  else
    let isMap := state.isMap name
    state.putCells name isMap (withCell isMap (state.cellsOf name) key value)

/-- The state after an assignment; a fixed variable refuses it. -/
def assign (state : State) (name value : Chars) : State :=
  let before := (state.held? name).getD {}
  if before.fixed then
    state.abort (name ++ chars ": is read only") (name ++ chars ": readonly variable")
  else
    let exported := before.exported || state.settings.contains .allexport
    let cells := before.cells.map fun cells => withCell before.isMap cells ['0'] value
    let state := state.putVariable name { before with value := some value, exported, cells }
    if name ≠ chars "OPTIND" then state
    else
      match natural? value with
      | some index => { state with scanning := (max 1 index, none) }
      | none => if state.isExtended then state else state.giveUp (chars "Illegal number: " ++ value)

def unset (state : State) (name : Chars) : State :=
  { state with bindings := state.bindings.filter (·.1 ≠ name) }

def markExported (state : State) (name : Chars) : State :=
  state.putVariable name { (state.held? name).getD {} with exported := true }

/-- The variables that programs get. -/
def environment (state : State) : List (Chars × Chars) :=
  state.bindings.filterMap fun (name, held) =>
    if held.exported then held.value.map (name, ·) else none

/-- The separators of fields. -/
def separators (state : State) : Chars := (state.value? (chars "IFS")).getD [' ', '\t', '\n']

/-- The value of a special parameter that has one. -/
def special? (state : State) (name : Chars) : Option Chars :=
  match name with
  | ['#'] => some (decimal state.arguments.length)
  | ['?'] => some (decimal state.status)
  | ['$'] => some (decimal state.number)
  | ['!'] => state.jobs.head?.map fun job => decimal job.1
  | ['-'] => some (state.settings.letters state.dialect)
  | name =>
    match natural? name with
    | some 0 => some state.name
    | some n => state.arguments[n - 1]?
    | none => (state.value? name).or (state.derived name).head?

/-- The number that a variable holds. -/
def integer (state : State) (name : Chars) : Except Chars Int :=
  match (state.value? name).getD [] with
  | [] => .ok 0
  | text =>
    let (negative, digits) := match text with
      | '-' :: digits => (true, digits)
      | '+' :: digits => (false, digits)
      | digits => (false, digits)
    match digits.head?.filter Char.isDigit, Expression.numeral digits with
    | some _, (value, []) => .ok (if negative then -value else value)
    | _, _ => .error text

end State

end LiveCompile.Shell
