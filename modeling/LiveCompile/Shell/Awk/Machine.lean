import LiveCompile.Shell.Redirection
import LiveCompile.Shell.Awk.Record
import LiveCompile.Shell.Awk.Table

/-! The machine that a program runs on: variables, the record with its fields, and what is read
and written. -/

namespace LiveCompile.Shell.Awk

/-- What a name stands for. -/
inductive Slot where
  | value (value : Value)
  | table (index : Nat)
  /-- nothing yet; what may become a table may be so for several names at once -/
  | unused (table : Option Nat)
  deriving Inhabited

/-- What is being read. -/
structure Input where
  /-- it is the input of the shell, of which more may be there than was read -/
  isStandard : Bool := false
  rest : Chars := []
  /-- the code of the command that wrote it -/
  code : Nat := 0

/-- What is being written. -/
structure Output where
  isPipe : Bool
  /-- where a file is written -/
  endpoint : Option Endpoint := none
  /-- what is not written yet, the last piece first -/
  pending : List Chars := []

/-- What is being read, by the name of a file or the script of a command. -/
structure Sought where
  isCommand : Bool
  name : Chars
  deriving DecidableEq

structure Machine where
  state : State
  /-- how the program names itself -/
  label : Chars
  globals : Array Slot := #[]
  /-- what the parameters of the function that runs stand for -/
  locals : Array Slot := #[]
  tables : Array Table := #[]
  record : Value := .unset
  fields : Array Value := #[]
  /-- how the record is to be split, if it is not yet -/
  unsplit : Option Separator := none
  /-- the record is to be made from its fields -/
  isUnjoined : Bool := false
  fieldSeparator : Separator := .blanks
  ender : Ender := .single '\n'
  /-- what is written as output and is not there yet, the last piece first -/
  pending : List Chars := []
  outputs : List (Chars × Output) := []
  inputs : List (Sought × Input) := []
  /-- the operand that is read -/
  main : Option Input := none
  /-- the number of the next operand -/
  nextOperand : Nat := 1
  /-- an operand was read, or the input in its place -/
  hasRead : Bool := false
  /-- the rules from a record to another one that are between the two -/
  within : List Nat := []
  seed : Nat := 1
  /-- the last number that was given for the seed -/
  seedValue : Value := .number .zero
  exitCode : Nat := 0

/-- Why a program does not go on. -/
inductive Interrupt where
  | breaks
  | continues
  | next
  | nextFile
  | returns (value : Value)
  | leaves
  /-- with what is said about it -/
  | fault (complaint : Chars)

abbrev Action := EStateM Interrupt Machine

namespace Machine

/-- Runs a script apart from a program. -/
abbrev Runner := State → Chars → State

def global (machine : Machine) (name : String) : Value :=
  match machine.globals.getD (place name) (.unused none) with
  | .value value => value
  | _ => .unset

def numberFormat (machine : Machine) : Chars := (machine.global "CONVFMT").text?

/-- A value as a text. -/
def textOf (machine : Machine) (value : Value) : Chars :=
  match value with
  | .number value => numberText machine.numberFormat value
  | value => value.text?

def globalText (machine : Machine) (name : String) : Chars := machine.textOf (machine.global name)

def putGlobal (machine : Machine) (name : String) (value : Value) : Machine :=
  { machine with globals := machine.globals.setIfInBounds (place name) (.value value) }

/-- The machine after what was written as output is there. -/
def flushed (machine : Machine) : Machine :=
  { machine with
    state := machine.state.write 1 machine.pending.reverse.flatten, pending := [] }

/-- The machine after what was written to files is there. -/
def flushedAll (machine : Machine) : Machine :=
  let flush (done : State × List (Chars × Output)) (entry : Chars × Output) :
      State × List (Chars × Output) :=
    let (name, output) := entry
    if output.isPipe then (done.1, done.2 ++ [entry])
    else
      (done.1.writeTo output.endpoint output.pending.reverse.flatten,
        done.2 ++ [(name, { output with pending := [] })])
  let machine := machine.flushed
  let (state, outputs) := machine.outputs.foldl flush (machine.state, [])
  { machine with state, outputs }

/-- The code of a script that has ended: one more byte tells of a signal. -/
def codeOf (state : State) : Nat :=
  match state.flow with
  | .killed signal => 256 + signal
  | _ => state.status

/-- Runs a script that reads a text, if one is given. -/
def runScript (run : Runner) (script : Chars) (input : Option Chars) (machine : Machine) :
    Machine × Nat :=
  let before := machine.state
  let fed := match input with
    | some text =>
      let (source, state) := before.addSource text false
      state.connect 0 (some source)
    | none => before
  let after := run fed script
  let state := { after with
    descriptors := before.descriptors, flow := before.flow, status := before.status }
  ({ machine with state }, codeOf after)

/-- What a script writes. -/
def outputOfScript (run : Runner) (script : Chars) (machine : Machine) :
    Machine × Chars × Nat :=
  let before := machine.state
  let (sink, opened) := before.addSink
  let after := run (opened.connect 1 (some (.sink sink))) script
  let state := { after with
    descriptors := before.descriptors, flow := before.flow, status := before.status
    sinks := after.sinks.filter (·.1 ≠ sink) }
  ({ machine with state }, after.collected sink, codeOf after)

/-- Ends what is written under a name, and gives the code of a command that reads it. -/
def closeOutput (run : Runner) (name : Chars) (output : Output) (machine : Machine) :
    Machine × Nat :=
  let machine := { machine with outputs := machine.outputs.filter (·.1 ≠ name) }
  let content := output.pending.reverse.flatten
  if output.isPipe then machine.runScript run name (some content)
  else ({ machine with state := machine.state.writeTo output.endpoint content }, 0)

/-- The machine after all that was written is there. -/
def finished (run : Runner) (machine : Machine) : Machine :=
  let closed := machine.outputs.foldl
    (fun machine (name, output) => (machine.closeOutput run name output).1) machine
  closed.flushed

/-- The table that an index stands for. -/
def table (machine : Machine) (index : Nat) : Table := machine.tables.getD index {}

def putTable (machine : Machine) (index : Nat) (table : Table) : Machine :=
  { machine with tables := machine.tables.setIfInBounds index table }

def slot (machine : Machine) (name : Name) : Slot :=
  (if name.isLocal then machine.locals else machine.globals).getD name.index (.unused none)

def putSlot (machine : Machine) (name : Name) (slot : Slot) : Machine :=
  if name.isLocal then { machine with locals := machine.locals.setIfInBounds name.index slot }
  else { machine with globals := machine.globals.setIfInBounds name.index slot }

/-- The table that a name stands for; a name that was not used yet gets one. -/
def tableOf (machine : Machine) (name : Name) : Machine × Nat :=
  match machine.slot name with
  | .table index => (machine, index)
  | .unused (some index) => (machine.putSlot name (.table index), index)
  | _ =>
    let index := machine.tables.size
    ({ machine with tables := machine.tables.push {} }.putSlot name (.table index), index)

/-- The machine with another record. -/
def withRecord (machine : Machine) (content : Chars) : Machine :=
  { machine with
    record := .given content, fields := #[], unsplit := some machine.fieldSeparator
    isUnjoined := false }

/-- The machine with its record in fields. -/
def split (machine : Machine) : Machine :=
  match machine.unsplit with
  | none => machine
  | some separator =>
    let pieces := separator.pieces (machine.textOf machine.record)
    { machine with fields := (pieces.map Value.given).toArray, unsplit := none }

/-- The machine with its record made from its fields. -/
def joined (machine : Machine) : Machine :=
  if machine.isUnjoined then
    let pieces := machine.fields.toList.map machine.textOf
    { machine with
      record := .given ((machine.globalText "OFS").intercalate pieces), isUnjoined := false }
  else machine

/-- The machine with so many fields. -/
def resized (machine : Machine) (count : Nat) : Machine :=
  let machine := machine.split
  let fields := machine.fields.extract 0 count
  { machine with
    fields := fields ++ Array.replicate (count - fields.size) (.given [])
    isUnjoined := true }

def putField (machine : Machine) (index : Nat) (value : Value) : Machine :=
  if index = 0 then machine.withRecord (machine.textOf value)
  else
    let machine := machine.split
    let machine := if machine.fields.size < index then machine.resized index else machine
    { machine with
      fields := machine.fields.setIfInBounds (index - 1) value, isUnjoined := true }

/-- The greatest number of fields. -/
def mostFields : Nat := 2097152

/-- Where a fault was met. -/
def whereabouts (machine : Machine) : Chars :=
  chars "\n\tFILENAME=\"" ++ machine.globalText "FILENAME" ++ chars "\" FNR="
    ++ machine.globalText "FNR" ++ chars " NR=" ++ machine.globalText "NR"

end Machine

namespace Action

/-- Stops with a complaint. -/
def refuse {α : Type} (text : Chars) : Action α := do
  throw (.fault ((← get).label ++ chars ": " ++ text ++ ['\n']))

/-- Stops with a complaint that tells where the program was. -/
def fault {α : Type} (text : Chars) : Action α := do
  refuse (chars "run time error: " ++ text ++ (← get).whereabouts)

def cannotOpen {α : Type} (name : Chars) (purpose : String) (error : FileError) : Action α :=
  refuse (chars "cannot open \"" ++ name ++ chars ("\"" ++ purpose ++ " (") ++ cause error
    ++ [')'])

/-- The expression that a text writes. -/
def compiled (content : Chars) : Action Regex := do
  match Pattern.ofText content with
  | .ok regex => return regex
  | .error fault =>
    Action.fault (chars "regular expression compile failed (" ++ chars fault.message
      ++ chars ")\n" ++ content)

def succeeds {α : Type} (result : Except Pattern.Fault α) (content : Chars) : Action α := do
  match result with
  | .ok value => return value
  | .error fault =>
    Action.fault (chars "regular expression compile failed (" ++ chars fault.message
      ++ chars ")\n" ++ content)

/-- Assigns a variable of a program; some of them mean something to the machine. -/
def putName (name : Name) (value : Value) : Action Unit := do
  modify fun machine => machine.putSlot name (.value value)
  if !name.isLocal && name.index < knownNames.length then
    let machine ← get
    match knownNames.getD name.index "" with
    | "NF" => set (machine.resized value.toNumber.toInt64.toNat)
    | "FS" =>
      let content := machine.textOf value
      let separator ← succeeds (Separator.ofText content) content
      modify fun machine => { machine with fieldSeparator := separator }
    | "RS" =>
      let content := machine.textOf value
      let ender ← succeeds (Ender.ofText content) content
      modify fun machine => { machine with ender }
    | _ => return

def putKnown (name : String) (value : Value) : Action Unit := putName ⟨false, place name⟩ value

/-- The value of a name. -/
def valueOf (name : Name) : Action Value := do
  if name = ⟨false, place "NF"⟩ then
    modify Machine.split
    return .ofNat (← get).fields.size
  else
    return match (← get).slot name with
      | .value value => value
      | _ => .unset

def field (index : Nat) : Action Value := do
  if index = 0 then
    modify Machine.joined
    return (← get).record
  else
    modify Machine.split
    return (← get).fields.getD (index - 1) .unset

/-- How much of the input of the shell is read at once. -/
def blockLength : Nat := 4096

/-- Reads more of the input of the shell; nothing if all is read. -/
def more (input : Input) (count : Nat) : Action (Option Input) := do
  let machine ← get
  let available := (machine.state.readable 0).1
  if !input.isStandard || available.isEmpty then return none
  else
    set { machine with state := machine.state.leave 0 (available.drop count) }
    return some { input with rest := input.rest ++ available.take count }

/-- The next record of what is read. The first argument bounds the number of blocks. -/
def takeRecord : Nat → Input → Action (Option Chars × Input)
  | 0, input => return (none, input)
  | blocks + 1, input => do
    let machine ← get
    let isWhole := match machine.ender with
      | .single _ => true
      | _ => !input.isStandard || (machine.state.readable 0).1.isEmpty
    match if isWhole then machine.ender.record? input.rest else none with
    | some (record, rest) => return (some record, { input with rest })
    | none =>
      match ← more input blockLength with
      | some input => takeRecord blocks input
      | none => return (machine.ender.lastRecord? input.rest, { input with rest := [] })

/-- The next record of what is read. -/
def nextRecord (input : Input) : Action (Option Chars × Input) := do
  takeRecord (((← get).state.readable 0).1.length + 2) input

/-- The content of a file, or the input of the shell. -/
def opened (name : Chars) : Action (Except FileError Input) := do
  let state := (← get).state
  if Situation.isInput name then return .ok { isStandard := true }
  else
    let situation : Situation := { label := [], view := state.view }
    return (situation.read name).map fun rest => { rest }

/-- An operand that assigns a variable. -/
def assignment? (operand : Chars) : Option (Chars × Chars) :=
  let name := operand.takeWhile Scan.isNamePart
  match operand.dropWhile Scan.isNamePart with
  | '=' :: value =>
    if name.head?.any Scan.isNameStart then
      some (name, Scan.unescaped (value.length + 1) value)
    else none
  | _ => none

def assignGlobal (names : Array Chars) (name value : Chars) : Action Unit := do
  match names.findIdx? (· = name) with
  | some index => putName ⟨false, index⟩ (.given value)
  | none => return

/-- The next operand to read; assignments before it are made. The first argument bounds the
number of operands. -/
def openNext (names : Array Chars) : Nat → Action (Option Input)
  | 0 => return none
  | count + 1 => do
    let machine ← get
    let index := machine.nextOperand
    let last := (machine.global "ARGC").toNumber.toInt64
    if last ≤ index then
      if machine.hasRead then return none
      else
        set { machine with hasRead := true }
        putKnown "FILENAME" (.text ['-'])
        return some { isStandard := true }
    else
      let (machine, arguments) := machine.tableOf ⟨false, place "ARGV"⟩
      set { machine with nextOperand := index + 1 }
      let operand :=
        machine.textOf ((machine.table arguments).value (.integer (index : Nat)))
      if operand.isEmpty then openNext names count
      else
        match assignment? operand with
        | some (name, value) =>
          assignGlobal names name value
          openNext names count
        | none =>
          modify fun machine => { machine with hasRead := true }
          match ← opened operand with
          | .error .isDirectory => refuse (chars "read error (Is a directory)")
          | .error error => cannotOpen operand "" error
          | .ok input =>
            putKnown "FILENAME" (.given operand)
            putKnown "FNR" (.ofNat 0)
            return some input

def count (name : String) : Action Unit := do
  let number := ((← get).global name).toNumber
  putKnown name (.number (number.sum .one))

/-- The next record of the operands. The first argument bounds the number of operands. -/
def mainRecord (names : Array Chars) : Nat → Action (Option Chars)
  | 0 => return none
  | steps + 1 => do
    let input ← match (← get).main with
      | some input => pure (some input)
      | none =>
        let operands := ((← get).global "ARGC").toNumber.toInt64.toNat
        openNext names (operands + 1)
    match input with
    | none => return none
    | some input =>
      let (record, rest) ← nextRecord input
      match record with
      | some record =>
        modify fun machine => { machine with main := some rest }
        count "NR"
        count "FNR"
        return some record
      | none =>
        modify fun machine => { machine with main := none }
        mainRecord names steps

/-- Writes a text as output. -/
def write (text : Chars) : Action Unit :=
  modify fun machine => { machine with pending := text :: machine.pending }

/-- Writes a text where a route leads. -/
def writeTo (route : Route) (name text : Chars) : Action Unit := do
  let isFile := route ≠ .pipe
  if isFile && (name = ['-'] || name = chars "/dev/stdout") then write text
  else if isFile && name = chars "/dev/stderr" then
    modify fun machine => { machine with state := machine.state.write 2 text }
  else
    let machine ← get
    let put (output : Output) : Machine → Machine := fun machine => { machine with
      outputs := (name, { output with pending := text :: output.pending })
        :: machine.outputs.filter (·.1 ≠ name) }
    match (machine.outputs.find? (·.1 = name)).map (·.2) with
    | some output => set (put output machine)
    | none =>
      if isFile then
        match machine.state.target (route = .append) name with
        | .error error => cannotOpen name " for output" error
        | .ok (endpoint, state) =>
          set (put { isPipe := false, endpoint := some endpoint } { machine with state })
      else set (put { isPipe := true } machine.flushedAll)

end Action

end LiveCompile.Shell.Awk
