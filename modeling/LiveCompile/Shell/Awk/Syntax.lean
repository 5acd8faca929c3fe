import LiveCompile.Shell.Floating
import LiveCompile.Shell.Regex.Basic

/-! Programs that look at records of text: rules with patterns and actions. Names are numbers:
places among the parameters of a function, or among all other names. -/

namespace LiveCompile.Shell.Awk

/-- A variable or an array. -/
structure Name where
  isLocal : Bool
  index : Nat
  deriving DecidableEq, Repr, Inhabited

inductive Arithmetic where
  | plus
  | minus
  | times
  | over
  | modulo
  | power
  deriving DecidableEq, Repr

inductive Comparison where
  | less
  | lessOrEqual
  | equal
  | unequal
  | greater
  | greaterOrEqual
  deriving DecidableEq, Repr

/-- Functions that every program has and whose arguments are values. -/
inductive Primitive where
  | length
  | substr
  | index
  | sprintf
  | sin
  | cos
  | atan2
  | exp
  | log
  | sqrt
  | int
  | rand
  | srand
  | tolower
  | toupper
  | system
  | close
  | flush
  deriving DecidableEq, Repr

mutual

inductive Expr where
  | number (value : Floating)
  | text (content : Chars)
  /-- an expression that the record may match -/
  | pattern (regex : Regex)
  | name (name : Name)
  | element (array : Name) (subscripts : List Expr)
  | field (index : Expr)
  | assign (target value : Expr)
  | update (operation : Arithmetic) (target value : Expr)
  /-- one more or one less; the value is the one before if the sign is after the target -/
  | step (target : Expr) (isUp isAfter : Bool)
  | both (first second : Expr)
  | either (first second : Expr)
  | negation (operand : Expr)
  | choice (condition first second : Expr)
  | compared (comparison : Comparison) (first second : Expr)
  | matched (isNegated : Bool) (subject pattern : Expr)
  | holds (array : Name) (subscripts : List Expr)
  | joined (first second : Expr)
  | arithmetic (operation : Arithmetic) (first second : Expr)
  | negative (operand : Expr)
  | positive (operand : Expr)
  | call (function : Nat) (arguments : List Expr)
  | primitive (function : Primitive) (arguments : List Expr)
  /-- the length of what may be an array -/
  | size (name : Name)
  | split (subject : Expr) (array : Name) (separator : Option Expr)
  | find (subject pattern : Expr)
  | replaced (isGlobal : Bool) (pattern replacement target : Expr)
  /-- reads a record into a target -/
  | record (source : Source) (target : Option Expr)

/-- Where a record is read from. -/
inductive Source where
  | input
  | file (name : Expr)
  | command (script : Expr)

end

/-- Where output goes. -/
inductive Route where
  | file
  | append
  | pipe
  deriving DecidableEq, Repr

inductive Statement where
  | expression (expr : Expr)
  | print (isFormatted : Bool) (arguments : List Expr) (target : Option (Route × Expr))
  | block (body : List Statement)
  | condition (test : Expr) (first : Statement) (second : Option Statement)
  | loop (test : Expr) (body : Statement)
  /-- the body comes before the test -/
  | loopAfter (body : Statement) (test : Expr)
  | loopWith (start : Option Expr) (test : Option Expr) (step : Option Expr) (body : Statement)
  | each (target : Name) (array : Name) (body : Statement)
  | breaks
  | continues
  | next
  | nextFile
  | exit (code : Option Expr)
  | returns (value : Option Expr)
  | delete (array : Name) (subscripts : Option (List Expr))

/-- When the action of a rule is run. -/
inductive Occasion where
  | start
  | finish
  | always
  | when (condition : Expr)
  /-- from a record to another one -/
  | between (first last : Expr)

structure Rule where
  occasion : Occasion
  /-- without an action the record is shown -/
  action : Option Statement

structure Function where
  name : Chars
  parameters : Nat := 0
  body : Option Statement := none

/-- A program, with the names that are not parameters. -/
structure Program where
  rules : List Rule := []
  functions : Array Function := #[]
  names : Array Chars := #[]

/-- Names that every program has, at the places before all others. -/
def knownNames : List String :=
  ["NF", "NR", "FNR", "FS", "OFS", "RS", "ORS", "FILENAME", "SUBSEP", "RSTART", "RLENGTH",
    "CONVFMT", "OFMT", "ENVIRON", "ARGC", "ARGV"]

/-- The place of a known name. -/
def place (name : String) : Nat := (knownNames.idxOf? name).getD 0

instance : Inhabited Expr := ⟨.text []⟩

end LiveCompile.Shell.Awk
