import LiveCompile.Shell.Program.Output
import LiveCompile.Shell.Program.Runs
import LiveCompile.Shell.Pattern

/-! Programs that read, write and name files. -/

namespace LiveCompile.Shell

/-- Numbers the lines of a text, from a number on. -/
def numbered (lines : List Chars) : Chars :=
  (lines.zipIdx 1).flatMap fun (line, n) => rightAligned 6 (decimal n) ++ '\t' :: line

/-- Numbers the lines of a text that are not empty. -/
def numberedFrom (first : Nat) : List Chars → Chars
  | [] => []
  | line :: rest =>
    if line = ['\n'] then line ++ numberedFrom first rest
    else rightAligned 6 (decimal first) ++ '\t' :: line ++ numberedFrom (first + 1) rest

/-- A character as it is shown if it cannot be printed. -/
def visible (c : Char) : Chars :=
  let shown (n : Nat) : Chars :=
    if n < 32 then ['^', Char.ofNat (n + 64)] else if n = 127 then ['^', '?'] else [Char.ofNat n]
  if c = '\n' || c = '\t' then [c]
  else if c.toNat < 128 then shown c.toNat
  else ['M', '-'] ++ shown (c.toNat - 128)

/-- Lines of which several empty ones in a row are one. -/
def squeezed : Bool → List Chars → List Chars
  | _, [] => []
  | afterEmpty, line :: rest =>
    if line = ['\n'] then (if afterEmpty then [] else [line]) ++ squeezed true rest
    else line :: squeezed false rest

/-- Writes its input, or the files it is given one after the other. -/
def cat : Program :=
  withOptions { letters := "AbeEnstTuv", words := [("number", 'n'), ("show-ends", 'E'), ("show-all", 'A'),
    ("number-nonblank", 'b'), ("squeeze-blank", 's'), ("show-tabs", 'T'),
    ("show-nonprinting", 'v')] } 1
    fun situation options =>
  let any (letters : String) : Bool := letters.toList.any options.has
  situation.filterWhole options.operands fun text =>
    let text := if options.has 's' then (squeezed false (linesOf text)).flatten else text
    let text := if any "vAet" then text.flatMap visible else text
    let text := if any "TAt" then
        text.flatMap fun c => if c = '\t' then ['^', 'I'] else [c] else text
    let number (text : Chars) : Chars :=
      if options.has 'b' then numberedFrom 1 (linesOf text)
      else if options.has 'n' then numbered (linesOf text)
      else text
    let text := number text
    if any "EAe" then text.flatMap fun c => if c = '\n' then ['$', '\n'] else [c] else text

def nl : Program := withOptions { letters := "b:" } 1 fun situation options =>
  situation.filterWhole options.operands fun text =>
    let step (written : Chars × Nat) (line : Chars) : Chars × Nat :=
      let line := bareLine line ++ ['\n']
      if line = ['\n'] && options.value? 'b' ≠ some ['a'] then
        (written.1 ++ chars "       \n", written.2)
      else (written.1 ++ rightAligned 6 (decimal written.2) ++ '\t' :: line, written.2 + 1)
    ((linesOf text).foldl step ([], 1)).1

/-- Changes the files for each operand in turn; a change may fail with a complaint. -/
def changesOfAll (situation : Situation) (operands : List Chars)
    (change : FileView → Chars → Except Chars FileTree) : Ran :=
  let done := operands.foldl (fun (view, complaints) operand =>
    match change view operand with
    | .ok tree => ({ view with tree }, complaints)
    | .error text => (view, complaints ++ situation.complaint text)) (situation.view, ([] : Chars))
  { complaints := done.2, code := if done.2.isEmpty then 0 else 1, tree := some done.1.tree
    unread := situation.input }

/-- Changes the files for each operand in turn; there must be one. -/
def changes (situation : Situation) (operands : List Chars) (missing : String)
    (change : FileView → Chars → Except Chars FileTree) : Ran :=
  if operands.isEmpty then situation.refuseUsage 1 (chars missing)
  else changesOfAll situation operands change

/-- The text of a failure to do something with a file. -/
def cannot (what : String) (name : Chars) (error : FileError) : Chars :=
  chars ("cannot " ++ what ++ " ") ++ quotedName name ++ chars ": " ++ cause error

def touch : Program := withOptions { letters := "acmd:r:" } 1 fun situation options =>
  changes situation options.operands "missing file operand" fun view name =>
    if view.found (pathOf name) then .ok view.tree
    else if options.has 'c' then .ok view.tree
    else
      match view.placeToWrite (pathOf name) with
      | .ok place => .ok (view.tree.write place [])
      | .error .isDirectory =>
        .error (chars "setting times of " ++ quotedName name ++ chars ": " ++ cause .notFound)
      | .error error => .error (cannot "touch" name error)

def mkdir : Program := withOptions { letters := "pvm:", words := [("parents", 'p')] } 1 fun situation options =>
  changes situation options.operands "missing operand" fun view name =>
    let path := pathOf name
    if view.isDirectory path && options.has 'p' then .ok view.tree
    else if view.found path then
      .error (chars "cannot create directory " ++ quotedName name ++ chars ": File exists")
    else
      let names := path.components.filterMap fun
        | .normal name => some name
        | _ => none
      let bare := pathOf (name.reverse.dropWhile (· = '/')).reverse
      match view.placeToWrite bare with
      | .ok place => .ok (view.tree.makeDirectory place)
      | .error error =>
        if options.has 'p' && error = .notFound then
          .ok (view.tree.makeDirectory ((if path.isAbsolute then [] else view.origin) ++ names))
        else .error (cannot "create directory" name error)

def rm : Program := withOptions { letters := "rRfvd", words := [("recursive", 'r'), ("force", 'f')] } 1
    fun situation options =>
  let change (view : FileView) (name : Chars) : Except Chars FileTree :=
    match view.locate (pathOf name) with
    | .error error =>
      if options.has 'f' && error = .notFound then .ok view.tree
      else .error (cannot "remove" name error)
    | .ok place =>
      if view.tree.isDirectoryAt place && !(options.has 'r' || options.has 'R') then
        .error (cannot "remove" name .isDirectory)
      else .ok ((view.tree.remove place).makeDirectory place.dropLast)
  if options.has 'f' then changesOfAll situation options.operands change
  else changes situation options.operands "missing operand" change

def rmdir : Program := withOptions { letters := "p" } 1 fun situation options =>
  changes situation options.operands "missing operand" fun view name =>
    let refused (text : String) : Except Chars FileTree :=
      .error (chars "failed to remove " ++ quotedName name ++ chars (": " ++ text))
    match view.locate (pathOf name) with
    | .error error =>
      .error (chars "failed to remove " ++ quotedName name ++ chars ": " ++ cause error)
    | .ok place =>
      if !view.tree.isDirectoryAt place then refused "Not a directory"
      else if (view.tree.namesAt place).isEmpty then
        .ok ((view.tree.remove place).makeDirectory place.dropLast)
      else refused "Directory not empty"

/-- Writes its input to its output and to files. -/
def tee : Program := withOptions { letters := "ai", words := [("append", 'a')] } 1 fun situation options =>
  let isOutput (name : Chars) : Bool := name = chars "/dev/stdout"
  let isComplaints (name : Chars) : Bool := name = chars "/dev/stderr"
  let files := options.operands.filter fun name => !isOutput name && !isComplaints name
  let copies (written : Chars → Bool) : Chars :=
    (options.operands.filter written).flatMap fun _ => situation.input
  let ran := changesOfAll situation files fun view name =>
    match view.placeToWrite (pathOf name) with
    | .error error => .error (name ++ chars ": " ++ cause error)
    | .ok place =>
      if view.tree.isDeviceAt place then .ok view.tree
      else
        let before := if options.has 'a' then (view.tree.file? place).getD [] else []
        .ok (view.tree.write place (before ++ octetsOf situation.input))
  { ran with
    output := situation.input ++ copies isOutput
    complaints := ran.complaints ++ copies isComplaints
    unread := [] }

/-- The names that are shown of a directory. -/
def listed (options : Options) (view : FileView) (place : List FileName) : List Chars :=
  let names := (view.tree.namesAt place).map charsOf
  let names := if options.has 'a' then ['.'] :: ['.', '.'] :: names
    else if options.has 'A' then names
    else names.filter fun name => name.head? ≠ some '.'
  names.mergeSort textLE

def ls : Program := withOptions { letters := "1aAdFlrt", words := [("all", 'a')] } 2 fun situation options =>
  let operands := (if options.operands.isEmpty then [['.']] else options.operands).mergeSort textLE
  let found := operands.map fun name => (name, situation.view.locate (pathOf name))
  let complaints := found.flatMap fun
    | (name, .error error) => situation.complaint (cannot "access" name error)
    | (_, .ok _) => []
  let isListed (place : List FileName) : Bool :=
    situation.view.tree.isDirectoryAt place && !options.has 'd'
  let files := found.filterMap fun
    | (name, .ok place) => if isListed place then none else some name
    | (_, .error _) => none
  let directories := found.filterMap fun
    | (name, .ok place) =>
      if isListed place then some (name, listed options situation.view place) else none
    | (_, .error _) => none
  let sections := (if files.isEmpty then [] else [unlines files])
    ++ directories.map fun (name, names) =>
    (if operands.length > 1 then name ++ chars ":\n" else []) ++ unlines names
  { output := ['\n'].intercalate sections, complaints
    code := if complaints.isEmpty then 0 else 2, unread := situation.input }

end LiveCompile.Shell
