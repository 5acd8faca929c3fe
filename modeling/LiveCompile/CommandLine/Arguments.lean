import LiveCompile.Path

/-! The arguments of the command line. Options may be written `--name value`,
`--name=value`, `-n value`, `-nvalue` or `-n=value`; flags may share a dash. After `--`
everything is an operand. An option may be given once before and once after the name of the
command, as far as it belongs there. -/

namespace LiveCompile.CommandLine

inductive ReportFormat where
  | text
  | json
  deriving DecidableEq, Repr

inductive Command where
  | compile (format : ReportFormat)
  | resolve (outputs : List Path) (format : ReportFormat)
  | session (debounce : Option Nat) (noLoad : Bool)
  deriving DecidableEq, Repr

/-- What the arguments ask for. -/
inductive Invocation where
  | version
  | run (quiet verbose : Bool) (config : Option Path) (command : Command)
  deriving DecidableEq, Repr

inductive OptionName where
  | quiet
  | verbose
  | config
  | version
  | format
  | debounce
  | noLoad
  deriving DecidableEq, Repr

namespace OptionName

def long : OptionName → String
  | quiet => "quiet"
  | verbose => "verbose"
  | config => "config"
  | version => "version"
  | format => "format"
  | debounce => "debounce-ms"
  | noLoad => "no-load"

def short? : OptionName → Option Char
  | quiet => some 'q'
  | verbose => some 'v'
  | version => some 'V'
  | format => some 'f'
  | _ => none

def takesValue : OptionName → Bool
  | config => true
  | format => true
  | debounce => true
  | _ => false

end OptionName

/-- The options that may stand anywhere. -/
def globalOptions : List OptionName := [.quiet, .verbose, .config]

/-- Options with their values, and operands. -/
structure Scanned where
  given : List (OptionName × String) := []
  operands : List String := []
  deriving Repr

namespace Scanned

def has (scanned : Scanned) (name : OptionName) : Bool := scanned.given.any (·.1 = name)

def value? (scanned : Scanned) (name : OptionName) : Option String :=
  (scanned.given.find? (·.1 = name)).map (·.2)

/-- An option is given at most once. -/
def give? (scanned : Scanned) (name : OptionName) (value : String) : Option Scanned :=
  if scanned.has name then none else some { scanned with given := scanned.given ++ [(name, value)] }

end Scanned

/-- Whether an argument can be the value of the option before it. -/
def isValue (argument : String) : Bool := argument = "-" || !argument.startsWith "-"

/-- The options in the letters after a dash, with the argument that may be a value. Gives
what is scanned and whether that argument was taken. The request for the version ends the
reading. -/
def cluster? (allowed : List OptionName) (next : Option String) :
    List Char → Scanned → Option (Scanned × Bool)
  | [], scanned => some (scanned, false)
  | letter :: rest, scanned => do
    let name ← allowed.find? (·.short? = some letter)
    if name = .version then return (← scanned.give? name "", false)
    else if name.takesValue then
      match rest with
      | [] =>
        let value ← next.filter isValue
        return (← scanned.give? name value, true)
      | '=' :: value => return (← scanned.give? name (String.ofList value), false)
      | value => return (← scanned.give? name (String.ofList value), false)
    else cluster? allowed next rest (← scanned.give? name "")

/-- An option that is written out, without its dashes. -/
def long? (allowed : List OptionName) (next : Option String) (text : List Char)
    (scanned : Scanned) : Option (Scanned × Bool) := do
  let label := String.ofList (text.takeWhile (· ≠ '='))
  let name ← allowed.find? (·.long == label)
  match text.dropWhile (· ≠ '='), name.takesValue with
  | _ :: value, true => return (← scanned.give? name (String.ofList value), false)
  | [], true =>
    let value ← next.filter isValue
    return (← scanned.give? name value, true)
  | [], false => return (← scanned.give? name "", false)
  | _ :: _, false => none

/-- One argument that begins with a dash. -/
def option? (allowed : List OptionName) (argument : String) (next : Option String)
    (scanned : Scanned) : Option (Scanned × Bool) :=
  match argument.toList with
  | '-' :: '-' :: text => long? allowed next text scanned
  | '-' :: letters => cluster? allowed next letters scanned
  | _ => none

/-- The arguments of a command; `taken` tells that the next one is already used as a value. -/
def scan? (allowed : List OptionName) : Bool → List String → Scanned → Option Scanned
  | _, [], scanned => some scanned
  | true, _ :: rest, scanned => scan? allowed false rest scanned
  | false, argument :: rest, scanned =>
    if argument = "--" then some { scanned with operands := scanned.operands ++ rest }
    else if isValue argument then
      scan? allowed false rest { scanned with operands := scanned.operands ++ [argument] }
    else do
      let (scanned, taken) ← option? allowed argument rest.head? scanned
      scan? allowed taken rest scanned

/-- A number without sign or with a plus, below 2^64. -/
def number? (text : String) : Option Nat := do
  let digits := match text.toList with
    | '+' :: digits => digits
    | digits => digits
  if digits.isEmpty || !digits.all Char.isDigit then none
  else
    let value := digits.foldl (fun value digit => value * 10 + (digit.toNat - 48)) 0
    if value < Nat.pow 2 64 then some value else none

def format? (scanned : Scanned) : Option ReportFormat :=
  match scanned.value? .format with
  | none => some .text
  | some "text" => some .text
  | some "json" => some .json
  | some _ => none

/-- The options of a command. -/
def optionsOf? : String → Option (List OptionName)
  | "compile" => some [.format]
  | "resolve" => some [.format]
  | "session" => some [.debounce, .noLoad]
  | _ => none

def command? (name : String) (scanned : Scanned) : Option Command :=
  match name, scanned.operands with
  | "compile", [] => do return .compile (← format? scanned)
  | "resolve", first :: rest => do
    if (first :: rest).any String.isEmpty then none
    else return .resolve ((first :: rest).map Path.ofText) (← format? scanned)
  | "session", [] =>
    match scanned.value? .debounce with
    | none => some (.session none (scanned.has .noLoad))
    | some text => do return .session (some (← number? text)) (scanned.has .noLoad)
  | _, _ => none

/-- The arguments before the name of the command, that name and what follows it. The
request for the version ends the reading. -/
def invocation? : Bool → List String → Scanned → Option Invocation
  | _, [], _ => none
  | true, _ :: rest, scanned => invocation? false rest scanned
  | false, argument :: rest, scanned =>
    if isValue argument then do
      let own ← optionsOf? argument
      let later ← scan? (globalOptions ++ own) false rest {}
      let command ← command? argument later
      return .run (scanned.has .quiet || later.has .quiet)
        (scanned.has .verbose || later.has .verbose)
        (((later.value? .config).orElse fun _ => scanned.value? .config).map Path.ofText) command
    else do
      let (scanned, taken) ← option? (globalOptions ++ [.version]) argument rest.head? scanned
      if scanned.has .version then return .version
      else invocation? taken rest scanned

/-- What the arguments of a call ask for; nothing if they are not understood. -/
def Invocation.ofArguments? (arguments : List String) : Option Invocation :=
  invocation? false arguments {}

end LiveCompile.CommandLine
