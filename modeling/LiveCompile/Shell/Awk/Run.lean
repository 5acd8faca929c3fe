import LiveCompile.Shell.Awk.Machine
import LiveCompile.Shell.Awk.Reader

/-! Running programs. The first argument of each function bounds the depth of its calls. -/

namespace LiveCompile.Shell.Awk

/-- What does not change while a program runs. -/
structure Context where
  program : Program
  run : Machine.Runner

/-- What can be assigned to, after its subscripts and its number are known. -/
inductive Target where
  | name (name : Name)
  | element (table : Nat) (key : Key)
  | field (index : Nat)

namespace Action

def exhausted {α : Type} : Action α := throw .leaves

def textOf (value : Value) : Action Chars := return (← get).textOf value

/-- The key that a value is. -/
def keyOf (value : Value) : Action Key := do
  match value with
  | .number number =>
    match number.integer? with
    | some integer => return .integer integer
    | none => return .text (← textOf value)
  | value => return .text (← textOf value)

/-- Looks for a key in an array, or puts it there. -/
def lookUp (array : Name) (key : Key) (creates : Bool) : Action (Nat × Bool) := do
  let (machine, index) := (← get).tableOf array
  let (table, found) := (machine.table index).find key creates
  set (machine.putTable index table)
  return (index, found)

def fetch : Target → Action Value
  | .name name => valueOf name
  | .element table key => return ((← get).table table).value key
  | .field index => field index

def store (target : Target) (value : Value) : Action Unit := do
  match target with
  | .name name => putName name value
  | .element index key =>
    modify fun machine => machine.putTable index ((machine.table index).put key value)
  | .field index =>
    if Machine.mostFields < index then
      fault (chars "maximum number of fields exceeded")
    else modify fun machine => machine.putField index value

/-- Runs a script after all that was written is there. -/
def runScript (context : Context) (script : Chars) : Action Nat := do
  let (machine, code) := (← get).flushedAll.runScript context.run script none
  set machine
  return code

/-- Ends what is read or written under a name. -/
def close (context : Context) (name : Chars) : Action Value := do
  let machine ← get
  let read? := machine.inputs.find? (·.1.name = name)
  set { machine with inputs := machine.inputs.filter (·.1.name ≠ name) }
  match machine.outputs.find? (·.1 = name) with
  | some (_, output) =>
    let (machine, code) := (← get).flushedAll.closeOutput context.run name
      (if output.isPipe then output else { output with pending := [] })
    set machine
    return .ofNat code
  | none =>
    return match read? with
      | some (_, input) => .ofNat input.code
      | none => .number (.ofInt (-1))

/-- The number of a match and its length. -/
def find (regex : Regex) (content : Chars) : Action Value := do
  let (start, length) : Int × Int := match regex.find? {} { after := content } with
    | some found =>
      (found.start.position + 1, (found.ended.position : Int) - found.start.position)
    | none => (0, -1)
  putKnown "RSTART" (.number (.ofInt start))
  putKnown "RLENGTH" (.number (.ofInt length))
  return .number (.ofInt start)

/-- The next record of a file or of what a command writes; nothing at the end. -/
def otherRecord (context : Context) (sought : Sought) :
    Action (Except FileError (Option Chars)) := do
  let before := ((← get).inputs.find? (·.1 = sought)).map (·.2)
  let input ← match before with
    | some input => pure (.ok input)
    | none =>
      if sought.isCommand then
        let (machine, rest, code) :=
          (← get).flushedAll.outputOfScript context.run sought.name
        set machine
        pure (.ok { rest, code })
      else opened sought.name
  match input with
  | .error error => return .error error
  | .ok input =>
    let (record, input) ← nextRecord input
    modify fun machine => { machine with
      inputs := (sought, input) :: machine.inputs.filter (·.1 ≠ sought) }
    return .ok record

/-- A part of a text from a place on. -/
def part (content : Chars) (start : Int) (length : Option Int) : Chars :=
  let length := match length with
    | none => (content.length : Int)
    | some length => if start < 1 then length - start else length
  (content.drop (max 1 start - 1).toNat).take length.toNat

/-- The place of a text in another one, counted from one. -/
def placeOf (sought : Chars) : Nat → Chars → Nat
  | index, content =>
    if sought.isPrefixOf content then index
    else
      match content with
      | [] => 0
      | _ :: rest => placeOf sought (index + 1) rest

/-- The value of a function that every program has. -/
def primitive (context : Context) (function : Primitive) (values : List Value) :
    Action Value := do
  let value (index : Nat) : Value := values.getD index .unset
  let number (index : Nat) : Floating := (value index).toNumber
  let text (index : Nat) : Action Chars := textOf (value index)
  let mapped (f : Float → Float) : Action Value := return .number ((number 0).mapped f)
  match function with
  | .length =>
    match values with
    | [] => return .ofNat (← textOf (← field 0)).length
    | _ => return .ofNat (← text 0).length
  | .substr =>
    let length := match values with
      | [_, _, length] => some length.toNumber.toInt64
      | _ => none
    return .text (part (← text 0) (number 1).toInt64 length)
  | .index => return .ofNat (placeOf (← text 1) 1 (← text 0))
  | .sprintf =>
    let format ← text 0
    match formatted (← get).numberFormat (format.length + 1) 0 format (values.drop 1) with
    | (content, none) => return .text content
    | (_, some fault) => malformed "sprintf" format fault
  | .sin => mapped Float.sin
  | .cos => mapped Float.cos
  | .exp => mapped Float.exp
  | .log => mapped Float.log
  | .sqrt => mapped Float.sqrt
  | .atan2 => return .number (Floating.mapped₂ Float.atan2 (number 0) (number 1))
  | .int => return .number (number 0).truncated
  | .rand =>
    let machine ← get
    let seed := (machine.seed * 1103515245 + 12345) % 2147483648
    set { machine with seed }
    return .number (.ofRatio false seed 2147483648)
  | .srand =>
    let machine ← get
    let seedValue := values.headD (.ofNat 0)
    set { machine with seed := seedValue.toNumber.toNat64 % 2147483648, seedValue }
    return machine.seedValue
  | .tolower => return .text ((← text 0).map Char.toLower)
  | .toupper => return .text ((← text 0).map Char.toUpper)
  | .system => return .ofNat (← runScript context (← text 0))
  | .close => close context (← text 0)
  | .flush =>
    let name ← text 0
    let isOpen := values.isEmpty || (← get).outputs.any (·.1 = name)
      || name.isEmpty || name = chars "/dev/stdout"
    modify Machine.flushedAll
    return .number (.ofInt (if isOpen then 0 else -1))
where
  malformed {α : Type} (function : String) (format : Chars) (wrong : FormatFault) : Action α :=
    let about := chars function ++ chars "(\"" ++ format ++ chars "\")"
    match wrong with
    | .tooFew => fault (chars "not enough arguments passed to " ++ about)
    | .improper number =>
      fault (chars "improper conversion(number " ++ decimal number ++ chars ") in " ++ about)

mutual

/-- The value of an expression. -/
def evaluate (context : Context) : Nat → Expr → Action Value
  | 0, _ => exhausted
  | steps + 1, expr => do
    match expr with
    | .number value => return .number value
    | .text content => return .text content
    | .pattern regex => return .ofBool (regex.isIn {} (← textOf (← field 0)))
    | .name name => valueOf name
    | .element _ _ => fetch (← resolve context steps expr)
    | .field _ => fetch (← resolve context steps expr)
    | .assign target value =>
      let target ← resolve context steps target
      let value ← evaluate context steps value
      store target value
      return value
    | .update operation target value =>
      let target ← resolve context steps target
      let value ← evaluate context steps value
      let result :=
        Value.number (operation.apply (← fetch target).toNumber value.toNumber)
      store target result
      return result
    | .step target isUp isAfter =>
      let target ← resolve context steps target
      let before := (← fetch target).toNumber
      let after := before.sum (if isUp then .one else Floating.one.negated)
      store target (.number after)
      return .number (if isAfter then before else after)
    | .both first second =>
      if (← evaluate context steps first).holds then
        return .ofBool (← evaluate context steps second).holds
      else return .ofBool false
    | .either first second =>
      if (← evaluate context steps first).holds then return .ofBool true
      else return .ofBool (← evaluate context steps second).holds
    | .negation operand => return .ofBool !(← evaluate context steps operand).holds
    | .choice condition first second =>
      if (← evaluate context steps condition).holds then evaluate context steps first
      else evaluate context steps second
    | .compared comparison first second =>
      let first ← evaluate context steps first
      let second ← evaluate context steps second
      return .ofBool (comparison.holds (first.compare (← get).numberFormat second))
    | .matched isNegated subject pattern =>
      let content ← textOf (← evaluate context steps subject)
      let regex ← expressionOf context steps pattern
      return .ofBool (regex.isIn {} content != isNegated)
    | .holds array subscripts =>
      let (_, found) ← lookUp array (← keyFrom context steps subscripts) false
      return .ofBool found
    | .joined first second =>
      let first ← textOf (← evaluate context steps first)
      let second ← textOf (← evaluate context steps second)
      return .text (first ++ second)
    | .arithmetic operation first second =>
      let first ← evaluate context steps first
      let second ← evaluate context steps second
      return .number (operation.apply first.toNumber second.toNumber)
    | .negative operand =>
      return .number (← evaluate context steps operand).toNumber.negated
    | .positive operand => return .number (← evaluate context steps operand).toNumber
    | .call function arguments => call context steps function arguments
    | .primitive function arguments =>
      primitive context function (← evaluateAll context steps arguments)
    | .size name =>
      match (← get).slot name with
      | .table index => return .ofNat ((← get).table index).size
      | .unused (some index) => return .ofNat ((← get).table index).size
      | _ => return .ofNat (← textOf (← valueOf name)).length
    | .split subject array separator =>
      let content ← textOf (← evaluate context steps subject)
      let separator ← match separator with
        | none => pure (← get).fieldSeparator
        | some (.pattern .empty) => pure .each
        | some (.pattern regex) => pure (.regex regex)
        | some separator => do
          let text ← textOf (← evaluate context steps separator)
          succeeds (Separator.ofText text) text
      let pieces := separator.pieces content
      let (machine, index) := (← get).tableOf array
      set (machine.putTable index (.ofRow (pieces.map Value.given)))
      return .ofNat pieces.length
    | .find subject pattern =>
      let content ← textOf (← evaluate context steps subject)
      find (← expressionOf context steps pattern) content
    | .replaced isGlobal pattern replacement target =>
      let regex ← expressionOf context steps pattern
      let replacement ← textOf (← evaluate context steps replacement)
      let target ← resolve context steps target
      let content ← textOf (← fetch target)
      let (result, count) :=
        replaceMatches isGlobal regex replacement (2 * content.length + 2) false
          { after := content }
      if 0 < count then store target (.text result)
      return .ofNat count
    | .record source target => takeRecordFrom context steps source target

/-- An expression that texts are matched with. -/
def expressionOf (context : Context) : Nat → Expr → Action Regex
  | 0, _ => exhausted
  | steps + 1, expr => do
    match expr with
    | .pattern regex => return regex
    | expr => compiled (← textOf (← evaluate context steps expr))

def evaluateAll (context : Context) : Nat → List Expr → Action (List Value)
  | 0, _ => exhausted
  | _ + 1, [] => return []
  | steps + 1, first :: rest => do
    let first ← evaluate context steps first
    return first :: (← evaluateAll context steps rest)

/-- The key that subscripts give. -/
def keyFrom (context : Context) : Nat → List Expr → Action Key
  | 0, _ => exhausted
  | steps + 1, subscripts => do
    match ← evaluateAll context steps subscripts with
    | [value] => keyOf value
    | values =>
      let machine ← get
      return .text ((machine.globalText "SUBSEP").intercalate (values.map machine.textOf))

/-- What is assigned to. -/
def resolve (context : Context) : Nat → Expr → Action Target
  | 0, _ => exhausted
  | steps + 1, expr => do
    match expr with
    | .element array subscripts =>
      let key ← keyFrom context steps subscripts
      let (index, _) ← lookUp array key true
      return .element index key
    | .field index =>
      let value := (← evaluate context steps index).toNumber
      if value.toInt64 < 0 then
        fault (chars "negative field index $" ++ numberText [] value.truncated)
      else return .field value.toInt64.toNat
    | .name name => return .name name
    | _ => return .field 0

def takeRecordFrom (context : Context) : Nat → Source → Option Expr → Action Value
  | 0, _, _ => exhausted
  | steps + 1, source, target => do
    let sought? : Option Sought ← match source with
      | .input => pure none
      | .file name => do
        pure (some ⟨false, ← textOf (← evaluate context steps name)⟩)
      | .command script => do
        pure (some ⟨true, ← textOf (← evaluate context steps script)⟩)
    let target? : Option Target ← match target with
      | some target => some <$> resolve context steps target
      | none => pure none
    let record : Except FileError (Option Chars) ← match sought? with
      | some sought => otherRecord context sought
      | none => .ok <$> mainRecord context.program.names steps
    match record with
    | .error _ => return .number (.ofInt (-1))
    | .ok none => return .ofNat 0
    | .ok (some record) =>
      match target? with
      | some target => store target (.given record)
      | none => modify fun machine => machine.withRecord record
      return .ofNat 1

/-- What a parameter stands for. -/
def slotFor (context : Context) : Nat → Expr → Action Slot
  | 0, _ => exhausted
  | steps + 1, expr => do
    match expr with
    | .name name =>
      if name = ⟨false, place "NF"⟩ then return .value (← valueOf name)
      else
        match (← get).slot name with
        | .unused none =>
          let machine ← get
          let slot := Slot.unused (some machine.tables.size)
          set ({ machine with tables := machine.tables.push {} }.putSlot name slot)
          return slot
        | slot => return slot
    | expr => return .value (← evaluate context steps expr)

def slotsFor (context : Context) : Nat → List Expr → Action (List Slot)
  | 0, _ => exhausted
  | _ + 1, [] => return []
  | steps + 1, first :: rest => do
    let first ← slotFor context steps first
    return first :: (← slotsFor context steps rest)

/-- Calls a function of the program. -/
def call (context : Context) : Nat → Nat → List Expr → Action Value
  | 0, _, _ => exhausted
  | steps + 1, number, arguments => do
    let function := context.program.functions.getD number { name := [] }
    let slots := (← slotsFor context steps arguments).toArray
    let outer := (← get).locals
    let locals := slots ++ Array.replicate (function.parameters - slots.size) (.unused none)
    modify fun machine => { machine with locals }
    let value ← try
        execute context steps (function.body.getD (.block []))
        pure Value.unset
      catch
        | .returns value => pure value
        | interrupt => throw interrupt
    modify fun machine => { machine with locals := outer }
    return value

/-- Runs a statement. -/
def execute (context : Context) : Nat → Statement → Action Unit
  | 0, _ => exhausted
  | steps + 1, statement => do
    match statement with
    | .expression expr =>
      let _ ← evaluate context steps expr
    | .print isFormatted arguments target =>
      let values ← evaluateAll context steps arguments
      let (content, wrong) ← if isFormatted then do
          let format ← textOf (values.headD .unset)
          let numberFormat := (← get).numberFormat
          let (content, wrong) :=
            formatted numberFormat (format.length + 1) 0 format (values.drop 1)
          pure (content, wrong.map (format, ·))
        else do
          let values ← if values.isEmpty then do pure [← field 0] else pure values
          let machine ← get
          let format := machine.globalText "OFMT"
          let content := (machine.globalText "OFS").intercalate
            (values.map (Value.toText format)) ++ machine.globalText "ORS"
          pure (content, none)
      match target with
      | none => write content
      | some (route, name) => writeTo route (← textOf (← evaluate context steps name)) content
      match wrong with
      | some (format, wrong) => primitive.malformed "printf" format wrong
      | none => return
    | .block body => executeAll context steps body
    | .condition test first second =>
      if (← evaluate context steps test).holds then execute context steps first
      else
        match second with
        | some second => execute context steps second
        | none => return
    | .loop test body => repeatWhile context steps (some test) none body
    | .loopAfter body test =>
      if ← round context steps body then repeatWhile context steps (some test) none body
    | .loopWith start test step body =>
      if let some start := start then
        let _ ← evaluate context steps start
      repeatWhile context steps test step body
    | .each target array body =>
      let (machine, index) := (← get).tableOf array
      let (table, keys) := (machine.table index).keys
      set (machine.putTable index table)
      repeatFor context steps target body keys
    | .breaks => throw .breaks
    | .continues => throw .continues
    | .next => throw .next
    | .nextFile => throw .nextFile
    | .exit code =>
      if let some code := code then
        let value ← evaluate context steps code
        modify fun machine =>
          { machine with exitCode := (value.toNumber.toInt64 % 256).toNat }
      throw .leaves
    | .returns value =>
      match value with
      | some value => throw (.returns (← evaluate context steps value))
      | none => throw (.returns .unset)
    | .delete array subscripts =>
      let (machine, index) := (← get).tableOf array
      set machine
      match subscripts with
      | none => modify fun machine => machine.putTable index {}
      | some subscripts =>
        let key ← keyFrom context steps subscripts
        modify fun machine => machine.putTable index ((machine.table index).delete key)

def executeAll (context : Context) : Nat → List Statement → Action Unit
  | 0, _ => exhausted
  | _ + 1, [] => return
  | steps + 1, first :: rest => do
    execute context steps first
    executeAll context steps rest

/-- Runs the body of a loop once, and tells whether the loop goes on. -/
def round (context : Context) : Nat → Statement → Action Bool
  | 0, _ => exhausted
  | steps + 1, body =>
    try
      execute context steps body
      return true
    catch
      | .breaks => return false
      | .continues => return true
      | interrupt => throw interrupt

def repeatWhile (context : Context) :
    Nat → Option Expr → Option Expr → Statement → Action Unit
  | 0, _, _, _ => exhausted
  | steps + 1, test, step, body => do
    let holds ← match test with
      | some test => do pure (← evaluate context steps test).holds
      | none => pure true
    if holds then
      if ← round context steps body then
        if let some step := step then
          let _ ← evaluate context steps step
        repeatWhile context steps test step body

def repeatFor (context : Context) : Nat → Name → Statement → List Chars → Action Unit
  | 0, _, _, _ => exhausted
  | _ + 1, _, _, [] => return
  | steps + 1, target, body, key :: rest => do
    putName target (.text key)
    if ← round context steps body then repeatFor context steps target body rest

end

/-- Whether a rule is run for the record, given its number. -/
def isOccasion (context : Context) (steps number : Nat) (occasion : Occasion) : Action Bool := do
  let holds (condition : Expr) : Action Bool :=
    return (← evaluate context steps condition).holds
  match occasion with
  | .start => return false
  | .finish => return false
  | .always => return true
  | .when condition => holds condition
  | .between first last =>
    let isWithin ← if (← get).within.contains number then pure true else holds first
    if isWithin then
      let isLast ← holds last
      modify fun machine =>
        let others := machine.within.filter (· ≠ number)
        { machine with within := if isLast then others else number :: others }
    return isWithin

/-- Runs the action of a rule, or shows the record. -/
def act (context : Context) (steps : Nat) (rule : Rule) : Action Unit :=
  execute context steps (rule.action.getD (.print false [] none))

/-- Runs the rules for a record. -/
def runRules (context : Context) (steps : Nat) : List (Nat × Rule) → Action Unit
  | [] => return
  | (number, rule) :: rest => do
    if ← isOccasion context steps number rule.occasion then act context steps rule
    runRules context steps rest

/-- Runs the rules for all records. -/
def runRecords (context : Context) (rules : List (Nat × Rule)) : Nat → Action Unit
  | 0 => return
  | steps + 1 => do
    match ← mainRecord context.program.names steps with
    | none => return
    | some record =>
      modify fun machine => { machine.withRecord record with locals := #[] }
      try runRules context steps rules
      catch
        | .next => pure ()
        | .nextFile => modify fun machine => { machine with main := none }
        | interrupt => throw interrupt
      runRecords context rules steps

/-- Runs rules, and tells whether the program goes on. -/
def runAll (run : Action Unit) : Action Bool := do
  try
    run
    return true
  catch
    | .leaves => return false
    | .next => return true
    | .nextFile => return true
    | interrupt => throw interrupt

/-- Runs a program. -/
def runProgram (context : Context) (steps : Nat) : Action Unit := do
  let rules := context.program.rules
  let isStart (rule : Rule) : Bool := rule.occasion matches .start
  let isFinish (rule : Rule) : Bool := rule.occasion matches .finish
  let main := (List.range rules.length).zip rules |>.filter fun (_, rule) =>
    !isStart rule && !isFinish rule
  let goesOn ← runAll ((rules.filter isStart).forM (act context steps))
  if goesOn && (!main.isEmpty || rules.any isFinish) then
    let _ ← runAll (runRecords context main steps)
  modify fun machine => { machine with locals := #[] }
  let _ ← runAll ((rules.filter isFinish).forM (act context steps))

end Action

end LiveCompile.Shell.Awk
