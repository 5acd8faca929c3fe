import LiveCompile.Shell.Program.Options
import LiveCompile.Shell.Sed.Editing

/-! The program `sed`: it edits the lines of files as a script says. -/

namespace LiveCompile.Shell

namespace Sed

/-- The letters of options that are only written as words. -/
def sandbox : Char := '\x01'
def posix : Char := '\x02'
def help : Char := '\x03'
def debug : Char := '\x04'
def links : Char := '\x05'

def known : Options.Known where
  letters := "bnrsuEzl:e:f:i::\x01\x02\x03\x04\x05"
  words := [("binary", 'b'), ("regexp-extended", 'r'), ("debug", debug), ("in-place", 'i'),
    ("expression", 'e'), ("file", 'f'), ("line-length", 'l'), ("null-data", 'z'),
    ("zero-terminated", 'z'), ("quiet", 'n'), ("posix", posix), ("silent", 'n'),
    ("sandbox", sandbox), ("separate", 's'), ("unbuffered", 'u'), ("help", help),
    ("follow-symlinks", links)]

def usage : Chars := chars <|
  "Usage: sed [OPTION]... \x7bscript-only-if-no-other-script\x7d [input-file]...\n\n"
  ++ "  -n, --quiet, --silent\n                 suppress automatic printing of pattern space\n"
  ++ "      --debug\n                 annotate program execution\n"
  ++ "  -e script, --expression=script\n"
  ++ "                 add the script to the commands to be executed\n"
  ++ "  -f script-file, --file=script-file\n"
  ++ "                 add the contents of script-file to the commands to be executed\n"
  ++ "  --follow-symlinks\n                 follow symlinks when processing in place\n"
  ++ "  -i[SUFFIX], --in-place[=SUFFIX]\n"
  ++ "                 edit files in place (makes backup if SUFFIX supplied)\n"
  ++ "  -l N, --line-length=N\n"
  ++ "                 specify the desired line-wrap length for the \x60l' command\n"
  ++ "  --posix\n                 disable all GNU extensions.\n"
  ++ "  -E, -r, --regexp-extended\n"
  ++ "                 use extended regular expressions in the script\n"
  ++ "                 (for portability use POSIX -E).\n"
  ++ "  -s, --separate\n"
  ++ "                 consider files as separate rather than as a single,\n"
  ++ "                 continuous long stream.\n"
  ++ "      --sandbox\n                 operate in sandbox mode (disable e/r/w commands).\n"
  ++ "  -u, --unbuffered\n"
  ++ "                 load minimal amounts of data from the input files and flush\n"
  ++ "                 the output buffers more often\n"
  ++ "  -z, --null-data\n                 separate lines by NUL characters\n"
  ++ "      --help     display this help and exit\n"
  ++ "      --version  output version information and exit\n\n"
  ++ "If no -e, --expression, -f, or --file option is given, then the first\n"
  ++ "non-option argument is taken as the sed script to interpret.  All\n"
  ++ "remaining arguments are names of input files; if no input files are\n"
  ++ "specified, then the standard input is read.\n\n"

/-- A part of a script: an argument, or what is in a file. -/
structure Source where
  file : Option Chars
  text : Chars

/-- The parts of a script that options give, and the operands that are left. -/
def sources (situation : Situation) (options : Options) :
    Except Chars (List Source × List Chars) := do
  let given ← options.given.filterMapM fun (letter, value) =>
    if letter = 'e' then .ok (some ⟨none, value⟩)
    else if letter = 'f' then
      match situation.contents [value] with
      | (_, .ok text) :: _ => .ok (some ⟨some value, bareLine text⟩)
      | (_, .error error) :: _ =>
        .error (chars "couldn't open file " ++ value ++ chars ": " ++ cause error)
      | [] => .ok none
    else .ok none
  match given, options.operands with
  | [], script :: files => return ([⟨none, script⟩], files)
  | given, files => return (given, files)

/-- The place of a fault in the parts of a script; `offset` is how many characters are before
it, and `expressions` how many arguments were parts. -/
def placeOf (offset expressions : Nat) : List Source → Chars
  | [] => chars "-e expression #1, char 0"
  | source :: rest =>
    let expressions := if source.file.isNone then expressions + 1 else expressions
    if offset ≤ source.text.length || rest.isEmpty then
      match source.file with
      | none => chars "-e expression #" ++ decimal expressions ++ chars ", char " ++ decimal offset
      | some name =>
        let lines := (source.text.take (offset - 1)).count '\n' + 1
        chars "file " ++ name ++ chars " line " ++ decimal lines
    else placeOf (offset - source.text.length - 1) expressions rest

/-- What is wrong with a script, or the script. -/
def script (extended : Bool) (sources : List Source) : Except (Chars × Nat) Script :=
  let text := ['\n'].intercalate (sources.map (·.text))
  match raws extended (text.length + 2) 0 text with
  | .error fault =>
    let place := match fault.cause with
      | .unmatchedOpening => chars "-e expression #1, char 0"
      | _ => placeOf (text.length - fault.left) 0 sources
    match fault.cause with
    | .regex .bareClass => .error (fault.cause.message, 1)
    | cause => .error (place ++ chars ": " ++ cause.message, 1)
  | .ok raws =>
    match resolved raws with
    | .ok script => .ok script
    | .error label =>
      .error (chars "can't find label for jump to \x60" ++ label ++ ['\x27'], 4)

/-- The name of a copy that is kept of an edited file. -/
def backupName (suffix name : Chars) : Chars :=
  let parts := piecesBetween '/' name
  let last := parts.getLastD []
  let kept := if suffix.contains '*' then
      suffix.flatMap fun c => if c = '*' then last else [c]
    else last ++ suffix
  if kept.contains '/' then kept else ['/'].intercalate (parts.dropLast ++ [kept])

/-- A tree with a file; if the file cannot be written, the tree stays. -/
def withFile (view : FileView) (tree : FileTree) (name content : Chars) : FileTree :=
  match { view with tree }.placeToWrite (pathOf name) with
  | .ok place => if tree.isDeviceAt place then tree else tree.write place (octetsOf content)
  | .error _ => tree

/-- The files after an edit. -/
def treeAfter (situation : Situation) (options : Options) (script : Script) (edited : List Chars)
    (done : Editing) : Option FileTree :=
  let files := script.files.filter fun name =>
    name ≠ chars "/dev/stdout" && name ≠ chars "/dev/stderr"
  if files.isEmpty && edited.isEmpty then none
  else
    let view := situation.view
    let contentOf (target : Target) : Chars := (done.writtenTo target).pieces.reverse.flatten
    let tree := files.foldl (fun tree name => withFile view tree name (contentOf (.file name)))
      view.tree
    some (edited.foldl (fun tree name =>
      let tree := match options.value? 'i' with
        | some (c :: suffix) =>
          withFile view tree (backupName (c :: suffix) name)
            (((situation.read name).toOption).getD [])
        | _ => tree
      withFile view tree name (contentOf (.edited name))) tree)

/-- Edits the operands. -/
def editAll (situation : Situation) (options : Options) (script : Script) (quiet : Bool)
    (operands : List Chars) : Ran :=
  let inPlace := options.has 'i'
  let settings : Settings :=
    { quiet, inPlace, ending := if options.has 'z' then '\x00' else '\n'
      width := ((options.value? 'l').bind natural?).getD 70 }
  let contents := if inPlace then operands.map fun name => (name, situation.read name)
    else situation.contents operands
  let complaints := contents.flatMap fun
    | (_, .ok _) => []
    | (name, .error error) =>
      situation.complaint <|
        if error ≠ .isDirectory then chars "can't read " ++ name ++ chars ": " ++ cause error
        else if inPlace then
          chars "couldn't edit " ++ name ++ chars ": not a regular file"
        else chars "read error on " ++ name ++ chars ": " ++ cause error
  let isPanic := contents.any fun
    | (_, .error .isDirectory) => true
    | _ => false
  let texts := contents.filterMap fun
    | (name, .ok text) => some (name, text)
    | (_, .error _) => none
  let read (name : Chars) : Chars :=
    if Situation.isInput name then situation.input else ((situation.read name).toOption).getD []
  let lines := inputLines settings.ending (options.has 's' || inPlace) texts
  let done := edit ⟨settings, read⟩ script lines
  let written (target : Target) : Chars := (done.writtenTo target).pieces.reverse.flatten
  let unread := if !operands.isEmpty then situation.unreadAfter operands
    else if situation.inputIsFile then done.rest.flatMap fun line =>
      line.text ++ if line.isEnded then [settings.ending] else []
    else []
  let lacking := if done.lacksSought then
      situation.complaint (chars "-e expression #1, char 0: no previous regular expression")
    else []
  { output := written .output, complaints := complaints ++ written .complaints ++ lacking
    code := if done.lacksSought then 1 else if done.code ≠ 0 then done.code % 256
      else if complaints.isEmpty then 0 else if isPanic then 4 else 2
    unread, tree := treeAfter situation options script (if inPlace then texts.map (·.1) else []) done }

end Sed

def sed : Program := fun situation arguments =>
  let usage (text : Chars) : Ran :=
    { complaints := (if text.isEmpty then [] else situation.complaint text) ++ Sed.usage
      code := 1, unread := situation.input }
  match Options.ofArguments Sed.known arguments with
  | .error text => usage text
  | .ok options =>
    if options.has Sed.help then { output := Sed.usage, unread := situation.input }
    else
      match Sed.sources situation options with
      | .error text => situation.refuse 4 text
      | .ok ([], _) => usage []
      | .ok (sources, operands) =>
        match Sed.script (options.has 'E' || options.has 'r') sources with
        | .error (text, code) => situation.refuse code text
        | .ok script =>
          let first := (sources.headD ⟨none, []⟩).text
          let quiet := options.has 'n' || first.takeWhile (· ≠ '\n') = ['#', 'n']
          if options.has 'i' && operands.isEmpty then situation.refuse 4 (chars "no input files")
          else Sed.editAll situation options script quiet operands

end LiveCompile.Shell
