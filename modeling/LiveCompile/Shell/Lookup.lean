import LiveCompile.Shell.Program.Table

/-! Looking for programs by name: a name with a slash is a path, any other one is looked for
in directories. -/

namespace LiveCompile.Shell

/-- What is found under the name of a program. -/
inductive Lookup where
  | program (name : Chars) (path : Chars)
  /-- a file that holds a script -/
  | script (path : Chars) (text : Chars)
  | refused (error : FileError)

namespace Lookup

/-- The program at a place, which a path names. -/
def ofPlace (tree : FileTree) (path : Chars) (place : List FileName) : Lookup :=
  if !tree.isProgramAt place then .refused .denied
  else
    let name := charsOf (place.getLast?.getD [])
    let content := (tree.file? place).getD []
    let isKnown := (program? name).isSome || runners.contains (String.ofList name)
    if content.isEmpty && isKnown then .program name path else .script path (charsOf content)

def ofPath (view : FileView) (path : Chars) : Lookup :=
  match view.locate (pathOf path) with
  | .ok place => ofPlace view.tree path place
  | .error error => .refused error

/-- The paths that a name may stand for, given the directories between colons. -/
def candidates (directories name : Chars) : List Chars :=
  (piecesBetween ':' directories).map fun directory =>
    if directory.isEmpty then name else directory ++ '/' :: name

/-- Looks for a program in directories. What cannot run is passed over, but then it is known
that something is there. -/
def ofName (view : FileView) (directories name : Chars) : Lookup :=
  if name.contains '/' then ofPath view name
  else if name.length > FileTree.maxNameLength then .refused .nameTooLong
  else
    let found := (candidates directories name).map (ofPath view)
    let runs := found.find? fun
      | .refused _ => false
      | _ => true
    let denied := found.any fun
      | .refused .denied => true
      | _ => false
    runs.getD (.refused (if denied then .denied else .notFound))

end Lookup

end LiveCompile.Shell
