import LiveCompile.Shell.Arithmetic
import LiveCompile.Shell.Pattern
import LiveCompile.Shell.Program.Options
import LiveCompile.Shell.Program.Quantity

/-! Characters for characters: `tr` replaces, deletes and squeezes those of a set. -/

namespace LiveCompile.Shell

namespace Translate

/-- A part of a set. -/
inductive Element where
  | one (c : Char)
  | range (first last : Char)
  | kind (name : String)
  | same (c : Char)
  /-- a character so many times, or as often as is needed -/
  | repeated (c : Char) (count : Option Nat)
  deriving DecidableEq, Repr, Inhabited

/-- A character, and whether it was written after a backslash. -/
abbrev Mark := Char × Bool

/-- A text without its backslashes, and the warnings about them. -/
def marks : Chars → List Mark × List Chars
  | [] => ([], [])
  | '\\' :: c :: rest =>
    let (others, warnings) := marks rest
    match Expression.digitValue? 8 c, rest with
    | none, _ =>
      let character := match c with
        | 'a' => '\x07'
        | 'b' => '\x08'
        | 'f' => '\x0c'
        | 'n' => '\n'
        | 'r' => '\r'
        | 't' => '\t'
        | 'v' => '\x0b'
        | c => c
      ((character, true) :: others, warnings)
    | some first, [] => ([(Char.ofNat first, true)], [])
    | some first, d :: more =>
      match Expression.digitValue? 8 d with
      | none => ((Char.ofNat first, true) :: others, warnings)
      | some second =>
        let two := 8 * first + second
        match more with
        | [] => ([(Char.ofNat two, true)], [])
        | e :: rest =>
          let (shorter, warnings) := marks (e :: rest)
          match Expression.digitValue? 8 e with
          | none => ((Char.ofNat two, true) :: shorter, warnings)
          | some third =>
            if 8 * two + third ≤ 255 then
              let (others, warnings) := marks rest
              ((Char.ofNat (8 * two + third), true) :: others, warnings)
            else
              let warning := chars "warning: the ambiguous octal escape \\" ++ [c, d, e]
                ++ chars " is being\n\tinterpreted as the 2-byte sequence \\0" ++ [c, d]
                ++ chars ", " ++ [e]
              ((Char.ofNat two, true) :: shorter, warning :: warnings)
  | ['\\'] =>
    ([('\\', false)], [chars "warning: an unescaped backslash at end of string is not portable"])
  | c :: rest =>
    let (others, warnings) := marks rest
    ((c, false) :: others, warnings)

def plain (marks : List Mark) : Chars := marks.map (·.1)

/-- A text as complaints show it. -/
def printable (text : Chars) : Chars :=
  text.flatMap fun c =>
    if c = '\\' then ['\\', '\\'] else if isPrintable c then [c] else escaped c

def classNames : List String :=
  ["alnum", "alpha", "blank", "cntrl", "digit", "graph", "lower", "print", "punct", "space",
    "upper", "xdigit"]

/-- What stands before a sign and a closing bracket, and what follows them. -/
def upToClosing (sign : Char) : List Mark → Option (Chars × List Mark)
  | (c, false) :: (']', false) :: rest =>
    if c = sign then some ([], rest)
    else (upToClosing sign ((']', false) :: rest)).map fun (text, rest) => (c :: text, rest)
  | (c, _) :: rest => (upToClosing sign rest).map fun (text, rest) => (c :: text, rest)
  | [] => none

/-- A number of times up to a closing bracket, and what follows it. -/
def times? (marks : List Mark) : Option (Except Chars (Option Nat × List Mark)) :=
  let isInside (mark : Mark) : Bool := !mark.2 && mark.1 ≠ ']'
  match marks.dropWhile isInside with
  | (']', false) :: rest =>
    let digits := plain (marks.takeWhile isInside)
    let base := if digits.head? = some '0' then 8 else 10
    let isNumber := digits.all fun c => (Expression.digitValue? base c).isSome
    let count := Expression.valueInBase base digits
    if !isNumber || Quantity.greatest / 2 < count then
      some (.error (chars "invalid repeat count " ++ quotedText (printable digits)
        ++ chars " in [c*n] construct"))
    else some (.ok (if count = 0 then none else some count, rest))
  | _ => none

/-- A character between brackets with an asterisk after it. -/
def repeated? : List Mark → Option (Except Chars (Element × List Mark))
  | (c, _) :: ('*', false) :: rest =>
    (times? rest).map fun read => read.map fun (count, rest) => (.repeated c count, rest)
  | _ => none

/-- The part that begins with a bracket, of which the rest is given. -/
def bracketed? (marks : List Mark) : Option (Except Chars (Element × List Mark)) :=
  let mayRepeat := (repeated? marks).isSome && (marks.drop 1).head? = some ('*', false)
    && (((marks.drop 2).dropWhile fun mark => mark.1.isDigit).head? = some (']', false))
  match marks with
  | (':', false) :: rest =>
    match upToClosing ':' rest with
    | none => repeated? marks
    | some ([], _) => some (.error (chars "missing character class name '[::]'"))
    | some (name, rest) =>
      if classNames.contains (String.ofList name) then
        some (.ok (.kind (String.ofList name), rest))
      else if mayRepeat then repeated? marks
      else some (.error (chars "invalid character class " ++ quotedText (printable name)))
  | ('=', false) :: rest =>
    match upToClosing '=' rest with
    | none => repeated? marks
    | some ([], _) => some (.error (chars "missing equivalence class character '[==]'"))
    | some ([c], rest) => some (.ok (.same c, rest))
    | some (text, _) =>
      if mayRepeat then repeated? marks
      else some (.error (printable text
        ++ chars ": equivalence class operand must be a single character"))
  | marks => repeated? marks

/-- The parts of a set. The first argument bounds their number. -/
def elements : Nat → List Mark → Except Chars (List Element)
  | 0, _ => .ok []
  | count + 1, marks =>
    let simple (marks : List Mark) : Except Chars (List Element) :=
      match marks with
      | [] => .ok []
      | (a, _) :: ('-', false) :: (b, _) :: rest =>
        if b < a then
          .error (chars "range-endpoints of '" ++ printable [a] ++ ['-'] ++ printable [b]
            ++ chars "' are in reverse collating sequence order")
        else (elements count rest).map (.range a b :: ·)
      | (c, _) :: rest => (elements count rest).map (.one c :: ·)
    match marks with
    | ('[', false) :: a :: b :: rest =>
      match bracketed? (a :: b :: rest) with
      | some (.ok (element, rest)) => (elements count rest).map (element :: ·)
      | some (.error text) => .error text
      | none => simple marks
    | marks => simple marks

namespace Element

def members : Element → Chars
  | .one c => [c]
  | .range a b => (List.range (b.toNat + 1 - a.toNat)).map fun n => Char.ofNat (a.toNat + n)
  | .kind name => ((List.range 256).map Char.ofNat).filter (inClass name)
  | .same c => [c]
  | .repeated c count => List.replicate (count.getD 0) c

/-- Whether a part stands for letters of one case, and whether these are capitals. -/
def case? : Element → Option Bool
  | .kind "upper" => some true
  | .kind "lower" => some false
  | _ => none

def isClass : Element → Bool
  | .kind _ => true
  | _ => false

def isEndless : Element → Bool
  | .repeated _ none => true
  | _ => false

end Element

def members (elements : List Element) : Chars := elements.flatMap Element.members

/-- A character of a set with the case that its part stands for; the first of a part is marked. -/
structure Cell where
  character : Char
  case? : Option Bool
  isFirst : Bool

def cells (elements : List Element) : List Cell :=
  elements.flatMap fun element =>
    element.members.zipIdx.map fun (character, index) => ⟨character, element.case?, index = 0⟩

/-- What follows the part to which a first cell belongs. -/
def afterPart (cells : List Cell) : List Cell := (cells.drop 1).dropWhile (!·.isFirst)

/-- How often letters of a case are paired with letters of a case, or nothing if they are paired
with something else. The first argument bounds the number of steps. -/
def casePairs? : Nat → List Cell → List Cell → Option Nat
  | 0, _, _ => some 0
  | steps + 1, sources, targets =>
    match sources, targets with
    | _, [] => some 0
    | [], target :: _ => if target.case?.isSome && target.isFirst then none else some 0
    | source :: _, target :: _ =>
      if target.case?.isNone then casePairs? steps (sources.drop 1) (targets.drop 1)
      else if source.isFirst && source.case?.isSome then
        (casePairs? steps (afterPart sources) (afterPart targets)).map (· + 1)
      else none

/-- The pairs of characters; letters of one case are paired with those of the other. The first
argument bounds the number of steps. -/
def pairs : Nat → List Cell → List Cell → List (Char × Char)
  | 0, _, _ => []
  | steps + 1, sources, targets =>
    let letters (isUpper : Bool) : Chars := (Element.kind (if isUpper then "upper" else "lower")).members
    match sources, targets with
    | source :: _, target :: _ =>
      match source.case?, target.case? with
      | some false, some true =>
        (letters false).map (fun c => (c, c.toUpper))
          ++ pairs steps (afterPart sources) (afterPart targets)
      | some true, some false =>
        (letters true).map (fun c => (c, c.toLower))
          ++ pairs steps (afterPart sources) (afterPart targets)
      | _, some _ =>
        (source.character, target.character) :: pairs steps (afterPart sources) (afterPart targets)
      | _, none =>
        (source.character, target.character) :: pairs steps (sources.drop 1) (targets.drop 1)
    | _, _ => []

/-- What is asked for. -/
structure Request where
  complements : Bool := false
  deletes : Bool := false
  squeezes : Bool := false
  truncates : Bool := false

def step (request : Request) (option : Char × Chars) : Except Refusal Request :=
  .ok <| match option.1 with
    | 'd' => { request with deletes := true }
    | 's' => { request with squeezes := true }
    | 't' => { request with truncates := true }
    | 'A' => request
    | _ => { request with complements := true }

def octetCount : Nat := 256

/-- The characters for which a set stands, and those that it does not name if it is asked
for the others. -/
def Request.sources (request : Request) (first : List Element) : Chars :=
  if request.complements then
    let named := members first
    ((List.range octetCount).map Char.ofNat).filter (!named.contains ·)
  else members first

/-- The second set as long as the first one, which has so many characters. -/
def completed (count : Nat) (second : List Element) : List Element :=
  let missing := count - (members second).length
  second.map fun element =>
    match element with
    | .repeated c none => .repeated c (some missing)
    | element => element

/-- The last character of a set is repeated. -/
def extended (missing : Nat) (second : List Element) : Except Chars (List Element) :=
  match second.getLast? with
  | some (.kind _) =>
    .error (chars "when translating with string1 longer than string2,\nthe latter string must not end with a character class")
  | some (.one c) => .ok (second ++ [.repeated c (some missing)])
  | some (.range _ c) => .ok (second ++ [.repeated c (some missing)])
  | some (.repeated c _) => .ok (second ++ [.repeated c (some missing)])
  | some (.same c) => .ok (second ++ [.repeated c (some missing)])
  | none => .error (chars "when not truncating set1, string2 must be non-empty")

/-- The pairs of characters for two sets, and the second set in full, if they fit together. -/
def Request.table (request : Request) (first second : List Element) :
    Except Chars (List (Char × Char) × List Element) := do
  let sources := request.sources first
  let target := completed sources.length second
  if second.any fun element => element.isClass && element.case?.isNone then
    .error (chars "when translating, the only character classes that may appear in\nstring2 are 'upper' and 'lower'")
  let sourceCells := cells first
  let steps := sources.length + (members target).length + 1
  let cased := !request.complements && second.any Element.isClass
  let matched := if cased then casePairs? steps sourceCells (cells target) else some 0
  match matched with
  | none => .error (chars "misaligned [:upper:] and/or [:lower:] construct")
  | some count =>
    let sourceLength := sources.length - count * 25
    let targetLength := (members target).length - count * 25
    let target ← if targetLength < sourceLength && !request.truncates then
        (if targetLength = 0 then .error (chars "when not truncating set1, string2 must be non-empty")
          else extended (sourceLength - targetLength) target)
      else pure target
    let targets := members target
    if request.complements && first.any Element.isClass
        && !(targets.length = sources.length && targets.all (some · = targets.head?)) then
      .error (chars "when translating with complemented character classes,\nstring2 must map all characters in the domain to one")
    if request.complements then return (sources.zip targets, target)
    else return (pairs steps sourceCells (cells target), target)

def squeezed (members : Char → Bool) (text : Chars) : Chars :=
  text.foldr (fun c rest => if rest.head? = some c && members c then rest else c :: rest) []

/-- Another character for each one, by a list of pairs of which the last one counts. -/
def replaced (pairs : List (Char × Char)) (text : Chars) : Chars :=
  let table : Array Char := pairs.foldl (fun table (source, target) =>
    table.setIfInBounds source.toNat target) (((List.range octetCount).map Char.ofNat).toArray)
  text.map fun c => table.getD c.toNat c

/-- What becomes of the input. -/
def Request.output (request : Request) (first : List Element) (second : Option (List Element))
    (input : Chars) : Except Chars Chars := do
  if first.any Element.isEndless then
    .error (chars "the [c*] repeat construct may not appear in string1")
  let member := (request.sources first).contains
  match second with
  | none =>
    if request.deletes then return input.filter fun c => !member c
    else return squeezed member input
  | some second =>
    if 1 < second.countP Element.isEndless then
      .error (chars "only one [c*] repeat construct may appear in string2")
    if request.deletes then
      if second.any Element.isEndless then
        .error (chars "the [c*] construct may appear in string2 only when translating")
      return squeezed (members second).contains (input.filter fun c => !member c)
    else
      if second.any fun element => match element with | .same _ => true | _ => false then
        .error (chars "[=c=] expressions may not appear in string2 when translating")
      let (pairs, target) ← request.table first second
      let output := replaced pairs input
      return if request.squeezes then squeezed (members target).contains output else output

/-- The operands that are wrong in number. -/
def Request.operandFault? (request : Request) (operands : List Chars) : Option Chars :=
  let least := if request.deletes = request.squeezes then 2 else 1
  let most := if request.deletes && !request.squeezes then 1 else 2
  match operands with
  | [] => some (chars "missing operand")
  | [only] =>
    if least = 1 then none
    else some (chars "missing operand after " ++ quotedText only ++ chars "\nTwo strings must be given when "
      ++ chars (if request.squeezes then "both deleting and squeezing repeats." else "translating."))
  | operands =>
    operands[most]?.map fun extra =>
      chars "extra operand " ++ quotedText extra ++ if operands.length = 2 then
        chars "\nOnly one string may be given when deleting without squeezing repeats." else []

def run (situation : Situation) (request : Request) (operands : List Chars) :
    Except Refusal Ran :=
  match request.operandFault? operands with
  | some text => .error ⟨text, true⟩
  | none =>
    let read (text : Chars) : Except Chars (List Element) × List Chars :=
      let (marks, warnings) := marks text
      (elements (marks.length + 1) marks, warnings)
    let (first, warnings) := read (operands.headD [])
    let second := operands[1]?.map read
    let warnings := warnings ++ if first.toBool then (second.map (·.2)).getD [] else []
    let output : Except Chars Chars := do
      let first ← first
      let second ← second.mapM (·.1)
      request.output first second situation.input
    let complaints := warnings.flatMap situation.complaint
    match output with
    | .ok output => .ok { output, complaints }
    | .error text => .ok { complaints := complaints ++ situation.complaint text, code := 1
                           unread := situation.input }

end Translate

/-- Replaces, deletes or squeezes characters. -/
def tr : Program :=
  withRequest { letters := "AcCdst", stops := true, words := [("complement", 'c'),
    ("delete", 'd'), ("squeeze-repeats", 's'), ("truncate-set1", 't')] } 1 {} Translate.step
    Translate.run

end LiveCompile.Shell
