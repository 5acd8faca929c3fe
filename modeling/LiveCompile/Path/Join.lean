import LiveCompile.Path
import LiveCompile.Text.Lossy

/-! Paths relative to each other, as texts: the path below a directory, the directory of a
path, and a path as seen from a directory. Components that are left out of a path's
component list are kept in its text as long as other components follow. -/

namespace LiveCompile

namespace Path

/-- A path below another one; an absolute path stays what it is. -/
def join (base path : Path) : Path :=
  if path.isAbsolute then path
  else if base.octets.isEmpty || base.octets.getLast? = some slash then ⟨base.octets ++ path.octets⟩
  else ⟨base.octets ++ slash :: path.octets⟩

/-- A path as it is shown. -/
def display (path : Path) : String := lossyText path.octets

/-- The parts between separators, after the root if there is one. -/
def parts (path : Path) : List (List UInt8) :=
  splitAt slash (if path.isAbsolute then path.octets.drop 1 else path.octets)

/-- Each part with whether it stands for a component. -/
def labelledParts (path : Path) : List (List UInt8 × Bool) :=
  let label (part : List UInt8) := (part, (innerComponent? part).isSome)
  match path.isAbsolute, path.parts with
  | false, first :: rest =>
    (first, first = [dot] || (innerComponent? first).isSome) :: rest.map label
  | _, parts => parts.map label

/-- Parts up to the last one that is a component. -/
def dropTrailing (parts : List (List UInt8 × Bool)) : List (List UInt8 × Bool) :=
  (parts.reverse.dropWhile fun part => !part.2).reverse

def ofParts (absolute : Bool) (parts : List (List UInt8 × Bool)) : Path :=
  ⟨(if absolute then [slash] else []) ++ [slash].intercalate (parts.map (·.1))⟩

/-- The path without its last component; the root and the empty path have none. -/
def parent? (path : Path) : Option Path :=
  match dropTrailing path.labelledParts with
  | [] => none
  | parts => some (ofParts path.isAbsolute (dropTrailing parts.dropLast))

/-- A path as seen from a directory that it is below. -/
def relativeTo? (path base : Path) : Option Path :=
  let above := base.components
  if !above.isPrefixOf path.components then none
  else if above.isEmpty then some (ofParts path.isAbsolute (dropTrailing path.labelledParts))
  else
    let named := if path.isAbsolute then above.length - 1 else above.length
    some (ofParts false (dropTrailing (skip named path.labelledParts)))
where
  /-- The parts after some components. -/
  skip : Nat → List (List UInt8 × Bool) → List (List UInt8 × Bool)
    | 0, parts => parts.dropWhile fun part => !part.2
    | _ + 1, [] => []
    | count + 1, (_, true) :: parts => skip count parts
    | count + 1, (_, false) :: parts => skip (count + 1) parts

end Path

end LiveCompile
