import LiveCompile.Shell.Regex.Basic

/-! Where an expression matches. Of the matches that begin first the longest one counts; of
the ways to it the one that repeats most often and takes the first alternatives. -/

namespace LiveCompile.Shell

namespace Regex

/-- How expressions are applied. -/
structure Manner where
  /-- the case of letters does not count -/
  folds : Bool := false
  /-- lines start and end at line feeds, too, and no set holds one that does not name it -/
  lines : Bool := false
  deriving DecidableEq, Repr

/-- A place in a text, with what the groups have matched: the characters before it in
reverse with their number, and those after it. -/
structure Place where
  before : Chars := []
  position : Nat := 0
  after : Chars
  groups : List (Nat × Chars) := []
  deriving DecidableEq

def isWordChar (c : Char) : Bool := c.isAlphanum || c = '_'

namespace Place

def step? (place : Place) : Option (Char × Place) :=
  match place.after with
  | [] => none
  | c :: rest =>
    some (c, { place with
      before := c :: place.before, position := place.position + 1, after := rest })

def advance (place : Place) (count : Nat) : Place :=
  let count := min count place.after.length
  { place with
    before := (place.after.take count).reverse ++ place.before
    position := place.position + count, after := place.after.drop count }

/-- The text from a place to a later one. -/
def upTo (start ended : Place) : Chars := start.after.take (ended.position - start.position)

def group? (place : Place) (index : Nat) : Option Chars :=
  (place.groups.find? (·.1 = index)).map (·.2)

def withGroup (place : Place) (index : Nat) (text : Chars) : Place :=
  { place with groups := (index, text) :: place.groups.filter (·.1 ≠ index) }

/-- Whether an expression goes on in the same way from two places in a text; what groups have
matched counts only if it refers back. -/
def alike (keepsGroups : Bool) (a b : Place) : Bool :=
  a.position = b.position && (!keepsGroups || a.groups = b.groups)

/-- Places of which no two are alike; the first ones stay. -/
def distinct (keepsGroups : Bool) (places : List Place) : List Place :=
  (places.foldl (fun kept place =>
    if kept.any (alike keepsGroups place) then kept else place :: kept) []).reverse

end Place

/-- Whether a character matches an element. -/
def fits (manner : Manner) (element : Element) (c : Char) : Bool :=
  let folded (holds : Char → Bool) : Bool :=
    holds c || (manner.folds && (holds c.toLower || holds c.toUpper))
  match element with
  | .character expected => folded (expected = ·)
  | .anyCharacter => !(manner.lines && c = '\n')
  | .anyText => true
  | .oneOf negated members =>
    folded (fun c => members.any (·.contains c)) != negated
      && !(negated && manner.lines && c = '\n')

def Edge.holds (manner : Manner) (place : Place) : Edge → Bool
  | .lineStart => place.before.isEmpty || (manner.lines && place.before.head? = some '\n')
  | .lineEnd => place.after.isEmpty || (manner.lines && place.after.head? = some '\n')
  | .textStart => place.before.isEmpty
  | .textEnd => place.after.isEmpty
  | .wordStart => !inWordBefore && inWordAfter
  | .wordEnd => inWordBefore && !inWordAfter
  | .wordEdge => inWordBefore != inWordAfter
  | .noWordEdge => inWordBefore = inWordAfter
where
  inWordBefore : Bool := place.before.head?.any isWordChar
  inWordAfter : Bool := place.after.head?.any isWordChar

/-- The places after a step that is made so many times. -/
def times (keepsGroups : Bool) (step : Place → List Place) : Nat → List Place → List Place
  | 0, places => places
  | _ + 1, [] => []
  | count + 1, places =>
    times keepsGroups step count (Place.distinct keepsGroups (places.flatMap step))

/-- The places after a step that is made at most so many times, more often first. A place
that was there before with as many steps left is passed over. Gives the places in reverse. -/
def closure (keepsGroups : Bool) (step : Place → List Place) :
    Nat → Place → List (Place × Nat) × List Place → List (Place × Nat) × List Place
  | 0, place, (seen, found) => (seen, place :: found)
  | count + 1, place, (seen, found) =>
    let left := min (count + 1) place.after.length
    if seen.any fun (other, steps) => steps = left && place.alike keepsGroups other then
      (seen, found)
    else
      let (seen, found) := (step place).foldl (fun state next =>
        if next.position = place.position then state
        else closure keepsGroups step count next state) ((place, left) :: seen, found)
      (seen, place :: found)

/-- The places where a match can end that begins at a place, the preferred ones first. -/
def ends (manner : Manner) (keepsGroups : Bool) : Regex → Place → List Place
  | empty, place => [place]
  | one element, place =>
    match place.step? with
    | some (c, next) => if fits manner element c then [next] else []
    | none => []
  | edge kind, place => if kind.holds manner place then [place] else []
  | sequence first second, place =>
    Place.distinct keepsGroups
      ((ends manner keepsGroups first place).flatMap fun place =>
        ends manner keepsGroups second place)
  | alternative first second, place =>
    Place.distinct keepsGroups
      (ends manner keepsGroups first place ++ ends manner keepsGroups second place)
  | repeated body least most, place =>
    let step (place : Place) : List Place := ends manner keepsGroups body place
    let begun := times keepsGroups step least [place]
    let count := match most with
      | some most => min (most - least) place.after.length
      | none => place.after.length
    let (_, found) := begun.foldl
      (fun state place => closure keepsGroups step count place state) ([], [])
    Place.distinct keepsGroups found.reverse
  | group index body, place =>
    (ends manner keepsGroups body place).map fun ended =>
      ended.withGroup index (place.upTo ended)
  | same index, place =>
    match place.group? index with
    | none => []
    | some text =>
      let isNext := if manner.folds then
          text.map Char.toLower = (place.after.take text.length).map Char.toLower
        else text.isPrefixOf place.after
      if isNext then [place.advance text.length] else []

/-- A match: where it begins and where it ends. -/
structure Match where
  start : Place
  ended : Place

namespace Match

def text (found : Match) : Chars := found.start.upTo found.ended

/-- What a group matched, with zero for the whole match. -/
def group (found : Match) (index : Nat) : Chars :=
  if index = 0 then found.text else (found.ended.group? index).getD []

/-- Whether a match is taken rather than another one: it begins earlier or is longer. -/
def precedes (a b : Match) : Bool :=
  a.start.position < b.start.position
    || (a.start.position = b.start.position && b.ended.position < a.ended.position)

/-- Whether no characters of words stand next to a match. -/
def isWord (found : Match) : Bool :=
  !found.start.before.head?.any isWordChar && !found.ended.after.head?.any isWordChar

/-- Whether a match is all of a line. -/
def isLine (found : Match) : Bool := found.start.before.isEmpty && found.ended.after.isEmpty

end Match

/-- The longest match at a place among those that are accepted. -/
def matchAt? (regex : Regex) (manner : Manner) (accepts : Match → Bool) (place : Place) :
    Option Match :=
  let start := { place with groups := [] }
  let found := ((ends manner regex.refersBack regex start).map (Match.mk start)).filter accepts
  found.foldl (fun best next =>
    match best with
    | some other => if next.precedes other then some next else best
    | none => some next) none

/-- The first match at one of so many places. -/
def search? (regex : Regex) (manner : Manner) (accepts : Match → Bool) :
    Nat → Place → Option Match
  | 0, _ => none
  | count + 1, place =>
    (regex.matchAt? manner accepts place).orElse fun _ =>
      place.step?.bind fun (_, place) => search? regex manner accepts count place

/-- The first match at a place or after it. -/
def find? (regex : Regex) (manner : Manner) (place : Place)
    (accepts : Match → Bool := fun _ => true) : Option Match :=
  regex.search? manner accepts (place.after.length + 1) place

/-- Whether an expression matches somewhere in a text. -/
def isIn (regex : Regex) (manner : Manner) (text : Chars) : Bool :=
  (regex.find? manner { after := text }).isSome

end Regex

end LiveCompile.Shell
