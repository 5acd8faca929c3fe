import LiveCompile.Files.Tree
import LiveCompile.Shell.Quoted

/-! Programs: what each leaves for its arguments, its input and the files it sees. -/

namespace LiveCompile.Shell

def charsOf (octets : List UInt8) : Chars := octets.map fun octet => Char.ofNat octet.toNat

def octetsOf (text : Chars) : List UInt8 := text.map fun c => c.toNat.toUInt8

/-- A text of Unicode characters as octets. -/
def chars (text : String) : Chars := charsOf text.toUTF8.toList

def pathOf (text : Chars) : Path := ⟨octetsOf text⟩

def decimal (n : Nat) : Chars := (toString n).toList

/-- What a program finds when it starts. -/
structure Situation where
  /-- how the program names itself when it complains -/
  label : Chars
  view : FileView
  environment : List (Chars × Chars) := []
  input : Chars := []
  /-- whether the input is a file, and not what another program writes -/
  inputIsFile : Bool := false

/-- Where a program writes. -/
inductive Channel where
  | output
  | complaints
  deriving DecidableEq, Repr

/-- What a program leaves: what it writes, its exit code, the input that it did not read, and
the files if it changed them. -/
structure Ran where
  /-- what is written first, in its order; complaints and then output follow -/
  written : List (Channel × Chars) := []
  output : Chars := []
  complaints : Chars := []
  code : Nat := 0
  unread : Chars := []
  tree : Option FileTree := none

namespace Ran

/-- All that is written, in its order. -/
def texts (ran : Ran) : List (Channel × Chars) :=
  ran.written ++ [(.complaints, ran.complaints), (.output, ran.output)]

/-- All that is written to one channel. -/
def textOn (ran : Ran) (channel : Channel) : Chars :=
  ran.texts.flatMap fun (other, text) => if other = channel then text else []

/-- What is left if nothing can be written as output: a complaint about it instead. -/
def withoutOutput (ran : Ran) (failure : Chars) : Ran :=
  { ran with
    written := ran.written.filter (·.1 ≠ .output), output := []
    complaints := ran.complaints ++ failure, code := 1 }

end Ran

abbrev Program := Situation → List Chars → Ran

/-- A cause as programs word it. -/
def cause : FileError → Chars
  | .notFound => chars "No such file or directory"
  | .denied => chars "Permission denied"
  | .notDirectory => chars "Not a directory"
  | .isDirectory => chars "Is a directory"
  | .nameTooLong => chars "File name too long"
  | .zeroOctet => chars "Invalid argument"
  | .notText => chars "Invalid argument"

namespace Situation

def complaint (situation : Situation) (text : Chars) : Chars :=
  situation.label ++ chars ": " ++ text ++ ['\n']

/-- Ends with a complaint and reads nothing. -/
def refuse (situation : Situation) (code : Nat) (text : Chars) : Ran :=
  { complaints := situation.complaint text, code, unread := situation.input }

/-- Ends with a complaint about the arguments, which may have no words of its own. -/
def refuseUsage (situation : Situation) (code : Nat) (text : Chars) : Ran :=
  { complaints := (if text.isEmpty then [] else situation.complaint text)
      ++ chars "Try '" ++ situation.label
      ++ chars " --help' for more information.\n", code, unread := situation.input }

/-- How much of an endless file of zeros is read. -/
def zeroLength : Nat := 131072

/-- The content of a named file. -/
def read (situation : Situation) (name : Chars) : Except FileError Chars :=
  if name = chars "/dev/zero" then .ok (List.replicate zeroLength '\x00')
  else (situation.view.read (pathOf name)).map charsOf

/-- Whether an operand stands for the input. -/
def isInput (name : Chars) : Bool :=
  name = ['-'] || name = chars "/dev/stdin" || name = chars "/dev/fd/0"

/-- What is read from the operands: the names with their contents, a hyphen or nothing at all
for the input. -/
def contents (situation : Situation) (operands : List Chars) :
    List (Chars × Except FileError Chars) :=
  let read (state : Chars × List (Chars × Except FileError Chars)) (name : Chars) :=
    if isInput name then (([] : Chars), state.2 ++ [(name, .ok state.1)])
    else (state.1, state.2 ++ [(name, situation.read name)])
  ((if operands.isEmpty then [['-']] else operands).foldl read (situation.input, [])).2

/-- What is left of the input after the operands are read. -/
def unreadAfter (situation : Situation) (operands : List Chars) : Chars :=
  if operands.isEmpty || operands.any isInput then [] else situation.input

/-- How a program tells which file it could not read. -/
abbrev Naming := Chars → Chars

/-- Complaints about the files that could not be read. -/
def complaintsAbout (situation : Situation) (contents : List (Chars × Except FileError Chars))
    (naming : Naming) : Chars :=
  contents.flatMap fun
    | (_, .ok _) => []
    | (name, .error error) => situation.complaint (naming name ++ chars ": " ++ cause error)

/-- Writes what a step gives for the contents of each operand, in their order, with a state that
goes from one to the next. `complaint` words the failure to read one. -/
def walk {State : Type} (situation : Situation) (operands : List Chars)
    (complaint : Chars → FileError → Chars) (step : State → Chars → Chars → State × Chars)
    (start : State) : Ran × State :=
  let visit (done : Ran × State) (content : Chars × Except FileError Chars) : Ran × State :=
    let (ran, state) := done
    match content with
    | (name, .ok text) =>
      let (state, output) := step state name text
      ({ ran with written := ran.written ++ [(.output, output)] }, state)
    | (name, .error error) =>
      let text := situation.complaint (complaint name error)
      ({ ran with written := ran.written ++ [(.complaints, text)], code := 1 }, state)
  (situation.contents operands).foldl visit ({ unread := situation.unreadAfter operands }, start)

/-- Writes what a function gives for the contents of each operand. -/
def filter (situation : Situation) (operands : List Chars) (naming : Naming) (f : Chars → Chars) :
    Ran :=
  (situation.walk operands (fun name error => naming name ++ chars ": " ++ cause error)
    (fun _ _ text => ((), f text)) ()).1

/-- Writes what a function gives for the contents of all operands together. -/
def filterWhole (situation : Situation) (operands : List Chars) (f : Chars → Chars) : Ran :=
  let contents := situation.contents operands
  let complaints := situation.complaintsAbout contents shownName
  { output := f (contents.flatMap fun
      | (_, .ok text) => text
      | (_, .error _) => [])
    complaints, code := if complaints.isEmpty then 0 else 1
    unread := situation.unreadAfter operands }

/-- What a program leaves that writes its output to a named file. -/
def into (situation : Situation) (target : Chars) (ran : Ran) : Except FileError Ran :=
  if target = ['-'] || target = chars "/dev/stdout" then .ok ran
  else if target = chars "/dev/stderr" then
    .ok { ran with written := ran.texts.map fun (_, text) => (.complaints, text)
                   output := [], complaints := [] }
  else
    (situation.view.placeToWrite (pathOf target)).map fun place =>
      let tree := ran.tree.getD situation.view.tree
      let silent := { ran with output := [], written := ran.written.filter (·.1 ≠ .output) }
      if tree.isDeviceAt place then silent
      else { silent with tree := some (tree.write place (octetsOf (ran.textOn .output))) }

end Situation

/-- A number without sign. -/
def natural? (text : Chars) : Option Nat :=
  if text.isEmpty || !text.all Char.isDigit then none
  else some (text.foldl (fun value c => value * 10 + (c.toNat - '0'.toNat)) 0)

/-- A number with a sign or without. -/
def integer? (text : Chars) : Option Int :=
  match text with
  | '-' :: digits => (natural? digits).map fun n => -(n : Int)
  | '+' :: digits => (natural? digits).map Int.ofNat
  | digits => (natural? digits).map Int.ofNat

/-- The pieces of a text between separators. -/
def piecesBetween (separator : Char) (text : Chars) : List Chars :=
  text.foldr (fun c pieces =>
    match pieces with
    | [] => [[c]]
    | piece :: rest => if c = separator then [] :: piece :: rest else (c :: piece) :: rest) [[]]

/-- The pieces of a text, each with the character that ends it. -/
def piecesEndedBy (ending : Char) (text : Chars) : List Chars :=
  text.foldr (fun c pieces =>
    match pieces with
    | [] => [[c]]
    | piece :: rest => if c = ending then [c] :: piece :: rest else (c :: piece) :: rest) []

/-- The lines of a text, each with the line feed that ends it. -/
def linesOf (text : Chars) : List Chars := piecesEndedBy '\n' text

/-- A piece without the character that ends it. -/
def barePiece (ending : Char) (piece : Chars) : Chars :=
  if piece.getLast? = some ending then piece.dropLast else piece

/-- A line without its line feed. -/
def bareLine (line : Chars) : Chars := barePiece '\n' line

/-- Texts, each on a line. -/
def unlines (lines : List Chars) : Chars := lines.flatMap (· ++ ['\n'])

/-- Whether a text comes before another one or is the same. -/
def textLE (a b : Chars) : Bool := (compareOctets (octetsOf a) (octetsOf b)).isLE

/-- The places below a place, a directory before what is in it, with the texts that show them.
The first argument bounds the depth. -/
def below (tree : FileTree) : Nat → List FileName → Chars → List (List FileName × Chars)
  | 0, place, shown => [(place, shown)]
  | depth + 1, place, shown =>
    let names := (tree.namesAt place).mergeSort fun a b => (compareOctets a b).isLE
    (place, shown) :: names.flatMap fun name =>
      let lead := if shown.getLast? = some '/' then shown else shown ++ ['/']
      below tree depth (place ++ [name]) (lead ++ charsOf name)

end LiveCompile.Shell
