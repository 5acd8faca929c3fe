import LiveCompile.Files.Mode
import LiveCompile.Path.Join

/-! A tree of files. A place in the tree is the list of names that lead to it from the
root. Every place above something is a directory. Paths are followed part by part: what
comes before a separator must be a directory, also before `.` and `..`. -/

namespace LiveCompile

abbrev FileName := List UInt8

inductive FileError where
  | notFound
  | denied
  | notDirectory
  | isDirectory
  | nameTooLong
  /-- a path or an argument has an octet zero -/
  | zeroOctet
  /-- the file is not UTF-8 -/
  | notText
  deriving DecidableEq, Repr

def FileError.message : FileError → String
  | notFound => "No such file or directory (os error 2)"
  | denied => "Permission denied (os error 13)"
  | notDirectory => "Not a directory (os error 20)"
  | isDirectory => "Is a directory (os error 21)"
  | nameTooLong => "File name too long (os error 36)"
  | zeroOctet => "file name contained an unexpected NUL byte"
  | notText => "stream did not contain valid UTF-8"

structure FileTree where
  files : List (List FileName × List UInt8) := []
  directories : List (List FileName) := []
  /-- what can be opened but is neither a file nor a directory -/
  devices : List (List FileName) := []
  /-- the modes that are not the usual ones -/
  modes : List (List FileName × Mode) := []
  deriving Repr, Inhabited

namespace FileTree

/-- The octets of the file at a place. -/
def file? (tree : FileTree) (place : List FileName) : Option (List UInt8) :=
  (tree.files.find? (·.1 = place)).map (·.2)

def isDirectoryAt (tree : FileTree) (place : List FileName) : Bool :=
  let isAbove (other : List FileName) : Bool :=
    place.isPrefixOf other && place.length < other.length
  place.isEmpty || tree.directories.any place.isPrefixOf || tree.files.any (isAbove ·.1)
    || tree.devices.any isAbove

def isDeviceAt (tree : FileTree) (place : List FileName) : Bool := tree.devices.contains place

/-- Whether there is anything at a place. -/
def isPresent (tree : FileTree) (place : List FileName) : Bool :=
  tree.isDirectoryAt place || (tree.file? place).isSome || tree.isDeviceAt place

/-- The mode of what is at a place. -/
def modeAt (tree : FileTree) (place : List FileName) : Mode :=
  match tree.modes.find? (·.1 = place) with
  | some (_, mode) => mode
  | none =>
    if tree.isDirectoryAt place then 0o755 else if tree.isDeviceAt place then 0o666 else 0o644

def withMode (tree : FileTree) (place : List FileName) (mode : Mode) : FileTree :=
  { tree with modes := (place, mode) :: tree.modes.filter (·.1 ≠ place) }

/-- Whether the file at a place is a program. -/
def isProgramAt (tree : FileTree) (place : List FileName) : Bool :=
  !tree.isDirectoryAt place && (tree.modeAt place).mayRun

/-- The places of all files and directories. -/
def places (tree : FileTree) : List (List FileName) := tree.files.map (·.1) ++ tree.directories

/-- The tree in which what was not there before has a mode without the bits of a mask. -/
def masked (tree before : FileTree) (mask : Mode) : FileTree :=
  if mask = 0o022 then tree
  else
    let new := tree.places.filter fun place =>
      !before.isPresent place && !tree.modes.any (·.1 = place)
    new.foldl (fun tree place =>
      tree.withMode place (Mode.without (if tree.isDirectoryAt place then 0o777 else 0o666) mask))
      tree

/-- The names in a directory, each once. -/
def namesAt (tree : FileTree) (place : List FileName) : List FileName :=
  let below (other : List FileName) : Option FileName :=
    if place.isPrefixOf other then (other.drop place.length).head? else none
  ((tree.files.map (·.1) ++ tree.directories ++ tree.devices).filterMap below).eraseDups

/-- The tree with a file at a place. -/
def write (tree : FileTree) (place : List FileName) (octets : List UInt8) : FileTree :=
  { tree with files := tree.files.filter (·.1 ≠ place) ++ [(place, octets)] }

/-- The tree without what is at a place and below it. -/
def remove (tree : FileTree) (place : List FileName) : FileTree :=
  let stays (other : List FileName) : Bool := !place.isPrefixOf other
  { tree with
    files := tree.files.filter (stays ·.1)
    directories := tree.directories.filter stays
    modes := tree.modes.filter (stays ·.1) }

def makeDirectory (tree : FileTree) (place : List FileName) : FileTree :=
  { tree with directories := tree.directories ++ [place] }

/-- The greatest number of octets of a name. -/
def maxNameLength : Nat := 255

/-- The greatest number of octets of a path. -/
def maxPathLength : Nat := 4095

/-- Follows the parts of a path from a place. -/
def follow (tree : FileTree) : List (List UInt8) → List FileName → Except FileError (List FileName)
  | [], place => .ok place
  | part :: rest, place =>
    if !tree.isDirectoryAt place then .error .notDirectory
    else if part.isEmpty || part = [Path.dot] then follow tree rest place
    else if part = [Path.dot, Path.dot] then follow tree rest place.dropLast
    else if part.length > maxNameLength then .error .nameTooLong
    else
      let next := place ++ [part]
      if tree.isPresent next then follow tree rest next else .error .notFound

/-- The place of a path as seen from a place; it must exist. -/
def locate (tree : FileTree) (origin : List FileName) (path : Path) :
    Except FileError (List FileName) :=
  if path.octets.contains 0 then .error .zeroOctet
  else if path.octets.isEmpty then .error .notFound
  else if path.octets.length > maxPathLength then .error .nameTooLong
  else tree.follow path.parts (if path.isAbsolute then [] else origin)

end FileTree

/-- A tree as seen from a place in it, where relative paths start. -/
structure FileView where
  tree : FileTree
  origin : List FileName := []
  /-- the bits that the modes of new files do not get -/
  mask : Mode := 0o022
  deriving Repr, Inhabited

namespace FileView

def locate (view : FileView) (path : Path) : Except FileError (List FileName) :=
  view.tree.locate view.origin path

/-- Whether there is something at a path. -/
def found (view : FileView) (path : Path) : Bool :=
  match view.locate path with
  | .ok _ => true
  | .error _ => false

def isFile (view : FileView) (path : Path) : Bool :=
  match view.locate path with
  | .ok place => (view.tree.file? place).isSome
  | .error _ => false

def isDevice (view : FileView) (path : Path) : Bool :=
  match view.locate path with
  | .ok place => view.tree.isDeviceAt place
  | .error _ => false

def isExecutable (view : FileView) (path : Path) : Bool :=
  match view.locate path with
  | .ok place => view.tree.isProgramAt place
  | .error _ => false

def isDirectory (view : FileView) (path : Path) : Bool :=
  match view.locate path with
  | .ok place => view.tree.isDirectoryAt place
  | .error _ => false

/-- The octets of the file at a path. A device has none. -/
def read (view : FileView) (path : Path) : Except FileError (List UInt8) := do
  let place ← view.locate path
  if view.tree.isDirectoryAt place then .error .isDirectory
  else if view.tree.isDeviceAt place then return []
  else
    match view.tree.file? place with
    | some octets => return octets
    | none => .error .notFound

/-- The place of a file that a path names or that can be created under that name. -/
def placeToWrite (view : FileView) (path : Path) : Except FileError (List FileName) :=
  match view.locate path with
  | .ok place => if view.tree.isDirectoryAt place then .error .isDirectory else .ok place
  | .error .notFound =>
    match path.fileName?, path.parent? with
    | some name, some directory => do
      if path.octets.getLast? = some Path.slash then .error .isDirectory
      else
        let above ← view.locate (if directory.octets.isEmpty then Path.ofText "." else directory)
        if view.tree.isDirectoryAt above then return above ++ [name] else .error .notDirectory
    | _, _ => .error .notFound
  | .error error => .error error

/-- The text of the file at a path. -/
def readText (view : FileView) (path : Path) : Except FileError String := do
  let octets ← view.read path
  match String.fromUTF8? ⟨octets.toArray⟩ with
  | some text => return text
  | none => .error .notText

/-- The paths of all files below a directory, each as a path below the given one. -/
def filesBelow (view : FileView) (directory : Path) : Except FileError (List Path) := do
  let place ← view.locate directory
  if !view.tree.isDirectoryAt place then .error .notDirectory
  else
    return view.tree.files.filterMap fun (other, _) =>
      if place.isPrefixOf other && place.length < other.length then
        some (directory.join ⟨[Path.slash].intercalate (other.drop place.length)⟩)
      else none

/-- The view from a directory. -/
def enter (view : FileView) (path : Path) : Except FileError FileView := do
  let place ← view.locate path
  if view.tree.isDirectoryAt place then return { view with origin := place }
  else .error .notDirectory

/-- The path of the place a view starts from. -/
def originPath (view : FileView) : Path := ⟨Path.slash :: [Path.slash].intercalate view.origin⟩

end FileView

end LiveCompile
