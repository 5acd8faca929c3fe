import LiveCompile.Shell.Program.Output

/-! Programs that tell about the machine and the user, and those that only wait or end. -/

namespace LiveCompile.Shell

/-- Does nothing and ends with a code. -/
def ends (code : Nat) : Program := fun situation _ => { code, unread := situation.input }

/-- The seconds that a text stands for as a ratio: a number and perhaps the letter of a unit. -/
def duration? (text : Chars) : Option (Nat × Nat) :=
  let units : List (Chars × Nat) :=
    [([], 1), (['s'], 1), (['m'], 60), (['h'], 3600), (['d'], 86400)]
  match Floating.read? text with
  | some (.finite negative numerator denominator, rest) =>
    if negative && 0 < numerator then none
    else (units.find? (·.1 = rest)).map fun (_, seconds) => (numerator * seconds, denominator)
  | some (.infinite false, rest) => (units.find? (·.1 = rest)).map fun _ => (Nat.pow 10 12, 1)
  | _ => none

def sleep : Program := fun situation arguments =>
  match arguments.find? fun text => (duration? text).isNone with
  | some text => situation.refuseUsage 1 (chars "invalid time interval " ++ quotedName text)
  | none =>
    if arguments.isEmpty then situation.refuseUsage 1 (chars "missing operand")
    else ends 0 situation []

/-- How many lines are written that are read only in part. -/
def endlessLines : Nat := 65536

/-- Writes a line again and again. -/
def yes : Program := fun situation arguments =>
  let line := (if arguments.isEmpty then ['y'] else [' '].intercalate arguments) ++ ['\n']
  writes situation (List.replicate endlessLines line).flatten

def tty : Program := fun situation _ =>
  { output := chars "not a tty\n", code := 1, unread := situation.input }

/-- The user, who is the first one. -/
def userName : Chars := chars "root"

/-- Takes no operands. -/
def withoutOperands (situation : Situation) (operands : List Chars) (ran : Ran) : Ran :=
  match operands with
  | [] => ran
  | extra :: _ => situation.refuseUsage 1 (chars "extra operand " ++ quotedName extra)

def whoami : Program := withOptions { letters := "" } 1 fun situation options =>
  withoutOperands situation options.operands (writes situation (userName ++ ['\n']))

/-- Shows numbers and names of the user. -/
def identity : Program := withOptions { letters := "Ggnru" } 1 fun situation options =>
  if !"Ggu".toList.any options.has then
    writes situation (chars "uid=0(root) gid=0(root) groups=0(root)\n")
  else writes situation ((if options.has 'n' then userName else ['0']) ++ ['\n'])

def uname : Program := withOptions { letters := "mos" } 1 fun situation options =>
  let parts := (if options.has 's' || options.given.isEmpty then [chars "Linux"] else [])
    ++ (if options.has 'm' then [chars "x86_64"] else [])
    ++ (if options.has 'o' then [chars "GNU/Linux"] else [])
  withoutOperands situation options.operands (writes situation ([' '].intercalate parts ++ ['\n']))

def printenv : Program := fun situation arguments =>
  match arguments with
  | [] =>
    writes situation (unlines (situation.environment.map fun (name, value) => name ++ '=' :: value))
  | names =>
    let values := names.map fun name => (situation.environment.find? (·.1 = name)).map (·.2)
    { output := unlines (values.filterMap id), code := if values.contains none then 1 else 0
      unread := situation.input }

end LiveCompile.Shell
