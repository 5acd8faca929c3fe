/-! Paths as sequences of octets. Two paths name the same place in a buffer map iff they
have the same components, and paths are ordered by their components. -/

namespace LiveCompile

structure Path where
  octets : List UInt8
  deriving DecidableEq, Repr, Inhabited

/-- A part of a path between separators. -/
inductive Component where
  | root
  | current
  | parent
  | normal (name : List UInt8)
  deriving DecidableEq, Repr

/-- Lexicographic order of octets. -/
def compareOctets : List UInt8 → List UInt8 → Ordering
  | [], [] => .eq
  | [], _ :: _ => .lt
  | _ :: _, [] => .gt
  | a :: as, b :: bs => (compareOfLessAndEq a b).then (compareOctets as bs)

namespace Component

def rank : Component → Nat
  | root => 0
  | current => 1
  | parent => 2
  | normal _ => 3

/-- The root comes first, then `.`, then `..`, then names by their octets. -/
def compare : Component → Component → Ordering
  | normal a, normal b => compareOctets a b
  | a, b => compareOfLessAndEq a.rank b.rank

end Component

/-- Lexicographic order of component lists. -/
def compareComponents : List Component → List Component → Ordering
  | [], [] => .eq
  | [], _ :: _ => .lt
  | _ :: _, [] => .gt
  | a :: as, b :: bs => (a.compare b).then (compareComponents as bs)

namespace Path

def ofText (text : String) : Path := ⟨text.toUTF8.toList⟩

/-- The text of a path that is UTF-8. -/
def text? (path : Path) : Option String := String.fromUTF8? ⟨path.octets.toArray⟩

def slash : UInt8 := 47

def dot : UInt8 := 46

/-- The parts of a list between the places of a separator. -/
def splitAt (separator : UInt8) : List UInt8 → List (List UInt8)
  | [] => [[]]
  | octet :: rest =>
    match splitAt separator rest with
    | [] => [[octet]]
    | part :: parts => if octet = separator then [] :: part :: parts else (octet :: part) :: parts

/-- A part that is neither empty nor `.`. -/
def innerComponent? (part : List UInt8) : Option Component :=
  if part = [] ∨ part = [dot] then none
  else if part = [dot, dot] then some .parent
  else some (.normal part)

def isAbsolute (path : Path) : Bool := path.octets.head? = some slash

/-- The components of a path: repeated and trailing separators and every `.` but a leading
one are left out. -/
def components (path : Path) : List Component :=
  let parts := splitAt slash path.octets
  let inner := parts.filterMap innerComponent?
  if path.isAbsolute then .root :: inner
  else if parts.head? = some [dot] then .current :: inner
  else inner

def compare (a b : Path) : Ordering := compareComponents a.components b.components

/-- The last component, if it is a name. -/
def fileName? (path : Path) : Option (List UInt8) :=
  match path.components.getLast? with
  | some (.normal name) => some name
  | _ => none

/-- The parts of a name before and after its last dot. -/
def splitLastDot? (name : List UInt8) : Option (List UInt8 × List UInt8) :=
  match name with
  | [] => none
  | octet :: rest =>
    match splitLastDot? rest with
    | some (stem, extension) => some (octet :: stem, extension)
    | none => if octet = dot then some ([], rest) else none

/-- What follows the last dot of the name, unless nothing comes before the dot. -/
def extension? (path : Path) : Option (List UInt8) := do
  let (stem, extension) ← splitLastDot? (← path.fileName?)
  if stem.isEmpty then none else some extension

end Path

/-- Extensions of story sources when none are configured. -/
def defaultExtensions : List String := ["loom"]

/-- A configured extension without its leading dots. -/
def bareExtension (extension : String) : List Char := extension.toList.dropWhile (· = '.')

/-- Whether two texts are equal but for the case of ASCII letters. -/
def sameIgnoringCase (a b : List Char) : Bool := a.map Char.toLower == b.map Char.toLower

/-- Whether the path has one of the extensions; case and leading dots do not count. -/
def Path.isSource (path : Path) (extensions : List String) : Bool :=
  match path.extension?.bind fun octets => String.fromUTF8? ⟨octets.toArray⟩ with
  | none => false
  | some found =>
    extensions.any fun extension => sameIgnoringCase (bareExtension extension) found.toList

end LiveCompile
