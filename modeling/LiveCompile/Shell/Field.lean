import LiveCompile.Shell.Pattern

/-! Fields of an expanded word. What comes from an expansion outside of quotes is split at
separators; blanks among them count as one and not at the ends. -/

namespace LiveCompile.Shell

/-- A piece of an expanded word. -/
inductive Atom where
  | character (c : Char) (quoted expanded : Bool)
  /-- there is a field here, even if it stays empty -/
  | present
  /-- a field ends here -/
  | boundary
  deriving DecidableEq, Repr

namespace Atom

/-- The text of an expansion. -/
def ofExpansion (quoted : Bool) (text : Chars) : List Atom :=
  text.map fun c => character c quoted true

def ofLiteral (quoted : Bool) (text : Chars) : List Atom :=
  if text.isEmpty && quoted then [present] else text.map fun c => character c quoted false

/-- The characters of atoms, without regard to fields. -/
def marked (atoms : List Atom) : Marked :=
  atoms.filterMap fun
    | character c quoted _ => some (c, quoted)
    | present => none
    | boundary => some (' ', true)

def text (atoms : List Atom) : Chars := (marked atoms).text

end Atom

/-- The state of the splitting: the fields so far, the last first, and the field that is
being read. -/
structure Splitting where
  fields : List Marked := []
  current : Option Marked := none
  /-- the last field was ended by blanks alone -/
  afterBlank : Bool := false

namespace Splitting

def close (splitting : Splitting) (afterBlank : Bool) : Splitting :=
  match splitting.current with
  | none => splitting
  | some field => { fields := field.reverse :: splitting.fields, current := none, afterBlank }

def isBlankSeparator (c : Char) : Bool := c = ' ' || c = '\t' || c = '\n'

def step (separators : Chars) (splitting : Splitting) : Atom → Splitting
  | .present => { splitting with current := some (splitting.current.getD []) }
  | .boundary => splitting.close false
  | .character c quoted expanded =>
    if expanded && !quoted && separators.contains c then
      if isBlankSeparator c then splitting.close true
      else if splitting.current.isSome then splitting.close false
      else if splitting.afterBlank then { splitting with afterBlank := false }
      else { splitting with fields := [] :: splitting.fields }
    else { splitting with
      current := some ((c, quoted) :: splitting.current.getD []), afterBlank := false }

end Splitting

/-- The fields of atoms. -/
def fields (separators : Chars) (atoms : List Atom) : List Marked :=
  ((atoms.foldl (Splitting.step separators) {}).close false).fields.reverse

end LiveCompile.Shell
