import LiveCompile.Shell.Program.Output
import LiveCompile.Shell.Pattern

/-! Programs for names of files: parts of a name, where it leads, and what is below it. -/

namespace LiveCompile.Shell

/-- The last part of a name. -/
def lastPart (name : Chars) : Chars :=
  let bare := (name.reverse.dropWhile (· = '/')).reverse
  if bare.isEmpty then (if name.isEmpty then [] else ['/'])
  else (bare.reverse.takeWhile (· ≠ '/')).reverse

/-- A text without another one at its end, unless nothing would be left. -/
def withoutSuffix (suffix text : Chars) : Chars :=
  if suffix.isSuffixOf text && suffix ≠ text then text.take (text.length - suffix.length) else text

/-- The last parts of names, without a suffix. -/
def basename : Program :=
  withOptions { letters := "as:z", stops := true, words := [("multiple", 'a'), ("suffix", 's'),
    ("zero", 'z')] } 1 fun situation options =>
  let ending := if options.has 'z' then ['\x00'] else ['\n']
  let part (suffix : Option Chars) (name : Chars) : Chars :=
    let last := lastPart name
    (if last = ['/'] then last else withoutSuffix (suffix.getD []) last) ++ ending
  match options.operands with
  | [] => situation.refuseUsage 1 (chars "missing operand")
  | names =>
    if options.has 'a' || options.has 's' then
      writes situation (names.flatMap (part (options.value? 's')))
    else
      match names with
      | _ :: _ :: extra :: _ =>
        situation.refuseUsage 1 (chars "extra operand " ++ quotedText extra)
      | names => writes situation (part names[1]? (names.headD []))

/-- Names without their last parts. -/
def dirname : Program :=
  withOptions { letters := "z", words := [("zero", 'z')] } 1
    fun situation options =>
  let above (name : Chars) : Chars :=
    let bare := (name.reverse.dropWhile (· = '/')).reverse
    let lead := ((bare.reverse.dropWhile (· ≠ '/')).dropWhile (· = '/')).reverse
    if !lead.isEmpty then lead else if name.head? = some '/' then ['/'] else ['.']
  let ending := if options.has 'z' then ['\x00'] else ['\n']
  if options.operands.isEmpty then situation.refuseUsage 1 (chars "missing operand")
  else writes situation (options.operands.flatMap fun name => above name ++ ending)

def pwd : Program := fun situation _ =>
  writes situation (charsOf situation.view.originPath.octets ++ ['\n'])

/-- How much of a path has to exist. -/
inductive Required where
  | all
  | allButLast
  | nothing
  deriving DecidableEq, Repr

/-- The absolute path of a name, without steps to a directory and back. -/
def absolute (situation : Situation) (required : Required) (name : Chars) :
    Except FileError Chars :=
  let path := pathOf name
  let view := situation.view
  let shown (place : List FileName) : Chars :=
    charsOf (FileView.originPath { view with origin := place }).octets
  match view.locate path, required with
  | .ok place, _ => .ok (shown place)
  | .error error, .all => .error error
  | .error error, .allButLast =>
    match path.parts.getLast? with
    | none => .error error
    | some last =>
      match view.tree.follow path.parts.dropLast (if path.isAbsolute then [] else view.origin) with
      | .ok place =>
        if view.tree.isDirectoryAt place then .ok (shown (place ++ [last])) else .error error
      | .error error => .error error
  | .error _, .nothing =>
    let step (place : List FileName) (part : FileName) : List FileName :=
      if charsOf part = ['.'] then place
      else if charsOf part = ['.', '.'] then place.dropLast
      else place ++ [part]
    .ok (shown (path.parts.foldl step (if path.isAbsolute then [] else view.origin)))

def realpath : Program := withOptions { letters := "emqs" } 1 fun situation options =>
  let required : Required :=
    if options.has 'e' then .all else if options.has 'm' then .nothing else .allButLast
  let found := options.operands.map fun name => (name, absolute situation required name)
  let complaints := situation.complaintsAbout found shownName
  if options.operands.isEmpty then situation.refuseUsage 1 (chars "missing operand")
  else
    { output := unlines (found.filterMap (·.2.toOption)), complaints
      code := if complaints.isEmpty then 0 else 1, unread := situation.input }

/-- Shows where names lead if it is asked to follow them: no name is a link. -/
def readlink : Program := withOptions { letters := "efmnqsz" } 1 fun situation options =>
  let required? : Option Required :=
    if options.has 'e' then some .all
    else if options.has 'm' then some .nothing
    else if options.has 'f' then some .allButLast
    else none
  let found := options.operands.filterMap fun name =>
    required?.bind fun required => (absolute situation required name).toOption
  if options.operands.isEmpty then situation.refuseUsage 1 (chars "missing operand")
  else
    { output := unlines found, code := if found.length = options.operands.length then 0 else 1
      unread := situation.input }

/-- What `find` is asked to show. -/
structure Sought where
  isShown : List FileName × Chars → Bool := fun _ => true
  depth : Nat := 64

/-- Reads the tests of `find`, all of which have to hold. -/
def Sought.ofArguments (tree : FileTree) : List Chars → Except Chars Sought
  | [] => .ok {}
  | test :: rest =>
    let holds (test : List FileName × Chars → Bool) (others : Sought) : Sought :=
      { others with isShown := fun found => test found && others.isShown found }
    let noValue : Except Chars Sought :=
      .error (chars "missing argument to `" ++ test ++ ['\x27'])
    match String.ofList test, rest with
    | "-print", rest => Sought.ofArguments tree rest
    | "-name", value :: rest => do
      let pattern := Pattern.ofMarked (value.map (·, false))
      let named (found : List FileName × Chars) : Bool :=
        pattern.matchesText ((piecesBetween '/' found.2).getLastD [])
      return holds named (← Sought.ofArguments tree rest)
    | "-type", ['f'] :: rest => do
      return holds (fun found => (tree.file? found.1).isSome) (← Sought.ofArguments tree rest)
    | "-type", ['d'] :: rest => do
      return holds (fun found => tree.isDirectoryAt found.1) (← Sought.ofArguments tree rest)
    | "-type", value :: _ => .error (chars "Unknown argument to -type: " ++ value)
    | "-maxdepth", value :: rest => do
      let others ← Sought.ofArguments tree rest
      return { others with depth := (natural? value).getD others.depth }
    | "-name", [] => noValue
    | "-type", [] => noValue
    | "-maxdepth", [] => noValue
    | _, _ => .error (chars "unknown predicate `" ++ test ++ ['\x27'])

/-- Shows the places below directories. -/
def find : Program := fun situation arguments =>
  let starts := arguments.takeWhile fun argument => argument.head? ≠ some '-'
  let tree := situation.view.tree
  match Sought.ofArguments tree (arguments.drop starts.length) with
  | .error text => situation.refuse 1 text
  | .ok sought =>
    let starts := if starts.isEmpty then [['.']] else starts
    let found := starts.map fun name => (name, situation.view.locate (pathOf name))
    let complaints := situation.complaintsAbout
      (found.map fun (name, place) => (name, place.map fun _ => [])) quotedName
    let shown := found.flatMap fun
      | (name, .ok place) => (below tree sought.depth place name).filter sought.isShown
      | (_, .error _) => []
    { output := unlines (shown.map (·.2)), complaints, code := if complaints.isEmpty then 0 else 1
      unread := situation.input }

end LiveCompile.Shell
