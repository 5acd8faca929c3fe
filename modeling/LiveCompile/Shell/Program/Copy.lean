import LiveCompile.Shell.Program.Files

/-! Programs that copy and move files, with what is below directories, and one that tells which
files are programs. -/

namespace LiveCompile.FileTree

/-- The tree with what is at a place and below it at another place too. -/
def copyTo (tree : FileTree) (source target : List FileName) : FileTree :=
  let moved (place : List FileName) : Option (List FileName) :=
    if source.isPrefixOf place then some (target ++ place.drop source.length) else none
  let files := tree.files.filterMap fun (place, octets) =>
    (moved place).map fun place => (place, octets)
  let isOld (place : List FileName) : Bool := !files.any (·.1 = place)
  { tree with
    files := tree.files.filter (isOld ·.1) ++ files
    directories := tree.directories ++ tree.directories.filterMap moved
      ++ (if tree.isDirectoryAt source then [target] else [])
    modes := tree.modes ++ tree.modes.filterMap fun (place, mode) =>
      (moved place).map fun place => (place, mode) }

end LiveCompile.FileTree

namespace LiveCompile.Shell

/-- How `cp` and `mv` differ, and what their options ask for. -/
structure Copying where
  moves : Bool
  /-- directories are copied too -/
  isDeep : Bool
  isVerbose : Bool
  /-- files that exist stay as they are -/
  keeps : Bool
  /-- a target that is a directory is what the source becomes -/
  isExact : Bool

namespace Copying

/-- The name of what is copied into a directory. -/
def inside (directory name : Chars) : Chars :=
  let bare := (name.reverse.dropWhile (· = '/')).reverse
  let last := (bare.reverse.takeWhile (· ≠ '/')).reverse
  if directory.getLast? = some '/' then directory ++ last else directory ++ '/' :: last

/-- A text for a source and a target, after a word for what is done. -/
def pair (what source between target : Chars) : Chars :=
  what ++ quotedName source ++ between ++ quotedName target

/-- Where something comes to lie: at a place that exists or below a directory. -/
def placeOf (view : FileView) (isDirectory : Bool) (name : Chars) :
    Except FileError (List FileName) :=
  match view.locate (pathOf name) with
  | .ok place => .ok place
  | .error .notFound =>
    let bare := (name.reverse.dropWhile (· = '/')).reverse
    match view.placeToWrite (pathOf (if isDirectory then bare else name)) with
    | .error .isDirectory => .error .notDirectory
    | found => found
  | .error error => .error error

/-- Why something that is there cannot be replaced. -/
def obstacle? (copying : Copying) (tree : FileTree) (source place : List FileName)
    (name target : Chars) : Option Chars :=
  let isDirectory := tree.isDirectoryAt source
  if source = place && !isDirectory then
    some (pair [] name (chars " and ") target ++ chars " are the same file")
  else if !tree.isPresent place then none
  else
    match isDirectory, tree.isDirectoryAt place with
    | false, true =>
      some (chars "cannot overwrite directory " ++ quotedName target ++ chars " with non-directory")
    | true, false =>
      some (pair (chars "cannot overwrite non-directory ") target (chars " with directory ") name)
    | true, true =>
      if copying.moves && !(tree.namesAt place).isEmpty && source ≠ place then
        some (chars "cannot overwrite " ++ quotedName target ++ chars ": Directory not empty")
      else none
    | false, false => none

/-- Copies or moves a source to a target: the files after it, and what is written. -/
def copyOne (copying : Copying) (view : FileView) (name target : Chars) :
    Except Chars (FileTree × Chars) := do
  let tree := view.tree
  let source ← (view.locate (pathOf name)).mapError (cannot "stat" name)
  let isDirectory := tree.isDirectoryAt source
  if isDirectory && !copying.isDeep then
    .error (chars "-r not specified; omitting directory " ++ quotedName name)
  else
    let place ← (placeOf view isDirectory target).mapError fun error =>
      if copying.moves then
        pair (chars "cannot move ") name (chars " to ") target ++ chars ": " ++ cause error
      else cannot (if isDirectory then "create directory" else "create regular file") target error
    let said := pair (if copying.moves then chars "renamed " else []) name (chars " -> ") target
    if let some text := copying.obstacle? tree source place name target then .error text
    else if isDirectory && source.isPrefixOf place then
      .error (if copying.moves then
        pair (chars "cannot move ") name (chars " to a subdirectory of itself, ") target
        else pair (chars "cannot copy a directory, ") name (chars ", into itself, ") target)
    else if copying.keeps && tree.isPresent place then return (tree, [])
    else
      let copied := tree.copyTo source place
      let moved := (copied.remove source).makeDirectory source.dropLast
      return (if copying.moves then moved else copied,
        if copying.isVerbose then said ++ ['\n'] else [])

/-- Copies sources to a target or into it. -/
def copyAll (copying : Copying) (situation : Situation) (sources : List Chars) (target : Chars) :
    Ran :=
  let view := situation.view
  let isInside := !copying.isExact && view.isDirectory (pathOf target)
  if !isInside && sources.length > 1 then
    let error : FileError := match view.locate (pathOf target) with
      | .ok _ => .notDirectory
      | .error error => error
    situation.refuse 1 (chars "target " ++ quotedName target ++ chars ": " ++ cause error)
  else
    let step (ran : FileView × Chars × Chars) (name : Chars) : FileView × Chars × Chars :=
      let (view, output, complaints) := ran
      match copying.copyOne view name (if isInside then inside target name else target) with
      | .ok (tree, said) => ({ view with tree }, output ++ said, complaints)
      | .error text => (view, output, complaints ++ situation.complaint text)
    let (view, output, complaints) := sources.foldl step (view, [], [])
    { output, complaints, code := if complaints.isEmpty then 0 else 1, tree := some view.tree
      unread := situation.input }

def run (copying : Copying) (situation : Situation) (operands : List Chars) : Ran :=
  match operands.getLast?, operands.dropLast with
  | none, _ => situation.refuseUsage 1 (chars "missing file operand")
  | some only, [] =>
    situation.refuseUsage 1 (chars "missing destination file operand after " ++ quotedName only)
  | some target, sources => copying.copyAll situation sources target

end Copying

def cp : Program := withOptions { letters := "RadfnprvT", words := [("recursive", 'r'), ("force", 'f')] } 1
    fun situation options =>
  let copying : Copying :=
    { moves := false, isDeep := "Rar".toList.any options.has, isVerbose := options.has 'v'
      keeps := options.has 'n', isExact := options.has 'T' }
  copying.run situation options.operands

def mv : Program := withOptions { letters := "fnvT", words := [("force", 'f')] } 1 fun situation options =>
  let copying : Copying :=
    { moves := true, isDeep := true, isVerbose := options.has 'v', keeps := options.has 'n'
      isExact := options.has 'T' }
  copying.run situation options.operands

/-- How a change of modes is asked for. -/
structure Changing where
  isDeep : Bool := false
  isQuiet : Bool := false
  /-- what is said of each file, or only of those that change -/
  reports : Option Bool := none
  reference : Option Chars := none
  change : Option Chars := none

namespace Changing

/-- An option that has no letter. -/
def referenceOption : Char := '\x01'

/-- The letters that options may have because they begin a change. -/
def signs : Chars := "rwxXstugoa,+=01234567".toList

def step (changing : Changing) (option : Char × Chars) : Except Refusal Changing :=
  let (letter, value) := option
  match letter with
  | 'R' => .ok { changing with isDeep := true }
  | 'f' => .ok { changing with isQuiet := true }
  | 'v' => .ok { changing with reports := some true }
  | 'c' => .ok { changing with reports := some false }
  | letter =>
    if letter = referenceOption then .ok { changing with reference := some value }
    else
      let text := '-' :: letter :: value
      .ok { changing with change := some (match changing.change with
        | some before => before ++ ',' :: text
        | none => text) }

/-- What is said of a mode before and after. -/
def report (changing : Changing) (name : Chars) (before after : Mode) : Chars :=
  let shown (mode : Mode) : Chars := mode.octalText ++ chars " (" ++ mode.letters ++ [')']
  if before ≠ after && changing.reports.isSome then
    chars "mode of " ++ quotedName name ++ chars " changed from " ++ shown before ++ chars " to "
      ++ shown after ++ ['\n']
  else if changing.reports = some true then
    chars "mode of " ++ quotedName name ++ chars " retained as " ++ shown after ++ ['\n']
  else []

/-- Changes the mode of one operand, and of what is below it if that is asked for. -/
def visit (changing : Changing) (situation : Situation) (change : Mode.Change)
    (done : FileTree × Ran) (name : Chars) : FileTree × Ran :=
  let (tree, ran) := done
  match FileView.locate { situation.view with tree } (pathOf name) with
  | .error error =>
    let complaint := if changing.isQuiet then []
      else situation.complaint (cannot "access" name error)
    let failure := if changing.reports = some true then
        quotedName name ++ chars " could not be accessed\n"
      else []
    (tree, { ran with
      written := ran.written ++ [(.complaints, complaint), (.output, failure)], code := 1 })
  | .ok place =>
    let places := if changing.isDeep then below tree 64 place name else [(place, name)]
    places.foldl (fun (tree, ran) (place, name) =>
      let before := tree.modeAt place
      let after := Mode.apply situation.view.mask (tree.isDirectoryAt place) before change
      let said := changing.report name before after
      (if before = after then tree else tree.withMode place after,
        { ran with written := ran.written ++ [(.output, said)] })) (tree, ran)

def run (situation : Situation) (changing : Changing) (operands : List Chars) :
    Except Refusal Ran := do
  let hint (text : Chars) : Except Refusal Ran := .error ⟨text, true⟩
  let (text?, files) := match changing.change, changing.reference with
    | some text, _ => (some text, operands)
    | none, some _ => (none, operands)
    | none, none => (operands.head?, operands.drop 1)
  match files, text? with
  | [], some text =>
    if operands.isEmpty && changing.change.isNone then hint (chars "missing operand")
    else hint (chars "missing operand after " ++ quotedText (operands.getLast?.getD text))
  | [], none => hint (chars "missing operand")
  | files, text? =>
    let change ← match text?, changing.reference with
      | some text, _ =>
        match Mode.change? text with
        | some change => pure change
        | none => .error ⟨chars "invalid mode: " ++ quotedText text, true⟩
      | none, some name =>
        match situation.view.locate (pathOf name) with
        | .ok place => pure (.exact (situation.view.tree.modeAt place) 5)
        | .error error =>
          .error ⟨chars "failed to get attributes of " ++ quotedName name ++ chars ": "
            ++ cause error, false⟩
      | none, none => .error ⟨chars "missing operand", true⟩
    let (tree, ran) := files.foldl (changing.visit situation change)
      (situation.view.tree, { unread := situation.input })
    return { ran with tree := some tree }

end Changing

/-- Changes the modes of files. -/
def chmod : Program :=
  let letters := Changing.signs.flatMap ([·, ':', ':'])
  withRequest { letters := "Rcfv\x01:" ++ String.ofList letters, words := [("changes", 'c'),
    ("recursive", 'R'), ("quiet", 'f'), ("silent", 'f'), ("verbose", 'v'),
    ("reference", Changing.referenceOption)] } 1 {} Changing.step Changing.run

end LiveCompile.Shell
