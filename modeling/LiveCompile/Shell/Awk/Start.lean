import LiveCompile.Shell.Awk.Run

/-! What a program is started with: options, the text of the program, variables and operands. -/

namespace LiveCompile.Shell.Awk

/-- What is asked for. -/
structure Request where
  separator : Option Chars := none
  assignments : List (Chars × Chars) := []
  /-- files that hold the program -/
  files : List Chars := []
  operands : List Chars := []
  /-- options that mean nothing -/
  vacuous : List Chars := []

/-- What the arguments come to. -/
inductive Asked where
  | request (request : Request)
  | help
  | version
  | refused (complaint : Chars)

def usage : List String :=
  ["Usage: mawk [Options] [Program] [file ...]",
    "",
    "Program:",
    "    The -f option value is the name of a file containing program text.",
    "    If no -f option is given, a \"--\" ends option processing; the following",
    "    parameters are the program text.",
    "",
    "Options:",
    "    -f program-file  Program  text is read from file instead of from the",
    "                     command-line.  Multiple -f options are accepted.",
    "    -F value         sets the field separator, FS, to value.",
    "    -v var=value     assigns value to program variable var.",
    "    --               unambiguous end of options.",
    "",
    "    Implementation-specific options are prefixed with \"-W\".  They can be",
    "    abbreviated:",
    "",
    "    -W version       show version information and exit.",
    "    -W compat        pre-POSIX 2001.",
    "    -W dump          show assembler-like listing of program and exit.",
    "    -W help          show this message and exit.",
    "    -W interactive   set unbuffered output, line-buffered input.",
    "    -W exec file     use file as program as well as last option.",
    "    -W posix         stricter POSIX checking.",
    "    -W random=number set initial random seed.",
    "    -W sprintf=number adjust size of sprintf buffer.",
    "    -W usage         show this message and exit."]

/-- Reads arguments. The first argument bounds the number of steps. -/
def Request.read : Nat → List Chars → Request → Asked
  | 0, operands, request => .request { request with operands }
  | _ + 1, [], request => .request request
  | _ + 1, ['-', '-'] :: operands, request => .request { request with operands }
  | steps + 1, ('-' :: letter :: attached) :: rest, request =>
    let other : Asked := .refused (chars "not an option: -" ++ letter :: attached)
    let next : Option (Chars × List Chars) :=
      if !attached.isEmpty then some (attached, rest)
      else
        match rest with
        | value :: rest => some (value, rest)
        | [] => none
    if "FvfW".toList.contains letter then
      match next with
      | none => .refused (chars "option -" ++ letter :: chars " lacks argument")
      | some (value, rest) =>
        match letter with
        | 'F' => read steps rest { request with separator := some value }
        | 'f' => read steps rest { request with files := request.files ++ [value] }
        | 'v' =>
          match Action.assignment? value with
          | some assignment =>
            read steps rest { request with assignments := request.assignments ++ [assignment] }
          | none => .refused (chars "improper assignment: -v " ++ value)
        | _ =>
          if value = chars "version" || value = ['v'] then .version
          else if value = chars "help" || value = chars "usage" then .help
          else read steps rest { request with vacuous := request.vacuous ++ [value] }
    else if letter = '-' then
      if attached = chars "version" then .version
      else if attached = chars "help" || attached = chars "usage" then .help
      else other
    else other
  | _ + 1, operands, request => .request { request with operands }

/-- The text of the program, its file if it has just one, and the operands after it. -/
def Request.program (request : Request) (state : State) :
    Except (Chars × FileError) (Option (Chars × Option Chars × List Chars)) := do
  if request.files.isEmpty then
    return match request.operands with
      | [] => none
      | text :: operands => some (text, none, operands)
  else
    let situation : Situation := { label := [], view := state.view }
    let texts ← request.files.mapM fun file =>
      if Situation.isInput file then .ok (state.readable 0).1
      else (situation.read file).mapError (file, ·)
    let only? := if request.files.length = 1 then request.files.head? else none
    return some (texts.flatten, only?, request.operands)

/-- The machine before a program runs. -/
def Machine.initial (state : State) (label : Chars) (program : Program) (operands : List Chars) :
    Machine :=
  let words := label :: operands
  let numbered := (List.range words.length).zip words
  let arguments := numbered.foldl (fun (table : Table) (index, word) =>
    ((table.find (.integer (index : Nat)) true).1).put (.integer (index : Nat)) (.given word)) {}
  let environment := state.environment.foldl (fun (table : Table) (name, value) =>
    ((table.find (.text name) true).1).put (.text name) (.given value)) {}
  let start : Machine :=
    { state, label, globals := Array.replicate program.names.size (.unused none)
      tables := #[environment, arguments] }
  let given : List (String × Value) :=
    [("NR", .ofNat 0), ("FNR", .ofNat 0), ("FS", .text [' ']), ("OFS", .text [' ']),
      ("RS", .text ['\n']), ("ORS", .text ['\n']), ("SUBSEP", .text ['\x1c']),
      ("RSTART", .ofNat 0), ("RLENGTH", .number (.ofInt (-1))), ("CONVFMT", .text (chars "%.6g")),
      ("OFMT", .text (chars "%.6g")), ("ARGC", .ofNat words.length)]
  let machine := given.foldl (fun machine (name, value) => machine.putGlobal name value) start
  (machine.putSlot ⟨false, place "ENVIRON"⟩ (.table 0)).putSlot ⟨false, place "ARGV"⟩ (.table 1)

/-- Makes the assignments of a request and runs its program. -/
def Request.run (request : Request) (context : Context) (steps : Nat) : Action Unit := do
  if let some separator := request.separator then
    let content := Scan.unescaped (separator.length + 1) separator
    match Separator.ofText content with
    | .error fault =>
      Action.refuse (chars "line 0: regular expression compile failed (" ++ chars fault.message
        ++ chars ")\n" ++ content)
    | .ok _ => Action.putKnown "FS" (.text content)
  request.assignments.forM fun (name, value) =>
    Action.assignGlobal context.program.names name value
  Action.runProgram context steps

/-- Runs a program as its arguments ask, given how scripts are run. What it says of its version is
left out. -/
def start (steps : Nat) (run : Machine.Runner) (state : State) (label : Chars)
    (arguments : List Chars) : State :=
  let refuse (state : State) (text : Chars) : State :=
    (state.write 2 (label ++ chars ": " ++ text ++ ['\n'])).withStatus 2
  let tell (descriptor : Nat) (lines : List String) : State :=
    (state.write descriptor (unlines (lines.map chars))).withStatus 0
  match Request.read (arguments.length + 1) arguments {} with
  | .help => tell 1 usage
  | .version => state.withStatus 0
  | .refused complaint => refuse state complaint
  | .request request =>
    let warn (state : State) (option : Chars) : State :=
      state.write 2 (label ++ chars ": vacuous option: -W \"" ++ option ++ chars "\"\n")
    let state := request.vacuous.foldl warn state
    match request.program state with
    | .error (file, error) =>
      refuse state (chars "cannot open \"" ++ file ++ chars "\" (" ++ cause error ++ [')'])
    | .ok none => tell 2 usage
    | .ok (some (text, file?, operands)) =>
      let state := if request.files.any Situation.isInput then state.leave 0 [] else state
      match Program.ofText text with
      | .error misreadings =>
        let lead := match file? with
          | some file => file ++ chars ": "
          | none => []
        let complain (state : State) (misreading : Misreading) : State :=
          let line := match misreading.line with
            | some line => chars "line " ++ decimal line ++ chars ": "
            | none => []
          refuse state (lead ++ line ++ misreading.text)
        misreadings.foldl complain state
      | .ok program =>
        let machine := Machine.initial state label program operands
        match (request.run { program, run } steps).run machine with
        | .error (.fault complaint) machine =>
          let machine := { machine with state := machine.state.write 2 complaint }
          (machine.finished run).state.withStatus 2
        | .error _ machine => (machine.finished run).state.withStatus machine.exitCode
        | .ok _ machine => (machine.finished run).state.withStatus machine.exitCode

end LiveCompile.Shell.Awk
