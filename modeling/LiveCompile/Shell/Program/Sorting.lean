import LiveCompile.Shell.Ordering
import LiveCompile.Shell.Program.Options
import LiveCompile.Shell.Program.Quantity

/-! Lines in order: `sort`. -/

namespace LiveCompile.Shell

namespace Sorting

/-- Which characters do not count. -/
inductive Ignored where
  | nothing
  | unprintable
  /-- all but letters, digits and blanks -/
  | punctuation
  deriving DecidableEq, Repr

/-- What texts are taken for. -/
inductive Reading where
  | number
  | floating
  | size
  | month
  | version
  | random
  deriving DecidableEq, Repr

/-- How texts are compared. -/
structure Manner where
  skipsStart : Bool := false
  skipsEnd : Bool := false
  ignored : Ignored := .nothing
  folds : Bool := false
  kinds : List Reading := []
  reverses : Bool := false

/-- Which blanks a letter may skip. -/
structure Skipping where
  atStart : Bool
  atEnd : Bool

namespace Manner

/-- The manner after a letter, if it is one for comparing. -/
def add? (manner : Manner) (skipping : Skipping) (letter : Char) : Option Manner :=
  let kind (kind : Reading) : Option Manner :=
    some { manner with kinds := if manner.kinds.contains kind then manner.kinds
      else kind :: manner.kinds }
  match letter with
  | 'b' => some { manner with
      skipsStart := manner.skipsStart || skipping.atStart
      skipsEnd := manner.skipsEnd || skipping.atEnd }
  | 'd' => some { manner with ignored := .punctuation }
  | 'i' => some { manner with
      ignored := if manner.ignored = .nothing then .unprintable else manner.ignored }
  | 'f' => some { manner with folds := true }
  | 'r' => some { manner with reverses := true }
  | 'n' => kind .number
  | 'g' => kind .floating
  | 'h' => kind .size
  | 'M' => kind .month
  | 'V' => kind .version
  | 'R' => kind .random
  | _ => none

/-- The manner after the letters at the start of a text, and what follows them. -/
def addAll (manner : Manner) (skipping : Skipping) : Chars → Manner × Chars
  | [] => (manner, [])
  | letter :: rest =>
    match manner.add? skipping letter with
    | some manner => addAll manner skipping rest
    | none => (manner, letter :: rest)

/-- Whether nothing but the direction is asked for. -/
def isPlain (manner : Manner) : Bool :=
  !manner.skipsStart && !manner.skipsEnd && manner.ignored = .nothing && !manner.folds
    && manner.kinds.isEmpty

/-- Options that do not go together, in the order of their letters. -/
def conflict? (manner : Manner) : Option Chars :=
  let has (kind : Reading) : Bool := manner.kinds.contains kind
  let single := [has .number, has .floating, has .size, has .month,
    has .version || has .random || manner.ignored ≠ .nothing]
  if single.count true ≤ 1 then none
  else
    let letters : List (Bool × Char) := [(manner.ignored = .punctuation, 'd'), (manner.folds, 'f'), (has .floating, 'g'),
      (has .size, 'h'), (manner.ignored = .unprintable, 'i'), (has .month, 'M'),
      (has .number, 'n'), (has .random, 'R'), (has .version, 'V')]
    some (letters.filterMap fun (isGiven, letter) => if isGiven then some letter else none)

def counts (manner : Manner) (c : Char) : Bool :=
  match manner.ignored with
  | .nothing => true
  | .unprintable => isPrintable c
  | .punctuation => isGap c || c.isAlphanum

/-- The order of two texts, not reversed. -/
def compare (manner : Manner) (a b : Chars) : Ordering :=
  let shown (text : Chars) : Chars :=
    let text := text.filter manner.counts
    if manner.folds then text.map Char.toUpper else text
  let a := shown a
  let b := shown b
  match manner.kinds with
  | .number :: _ => Numeral.compareDecimals a b
  | .floating :: _ => Numeral.compareFloatings a b
  | .size :: _ => Numeral.compareSizes a b
  | .month :: _ => Ord.compare (Month.ofText a) (Month.ofText b)
  | .version :: _ => Version.compare a b
  | _ => compareTexts a b

end Manner

/-- A part of lines by which they are compared: from a character of a field on, up to one of a
field, each counted from zero. -/
structure Key where
  /-- the fields before the start, or nothing for the start of the line -/
  field : Option Nat := none
  character : Nat := 0
  /-- the fields before the end, or nothing for the end of the line -/
  lastField : Option Nat := none
  /-- the characters of the last field, or zero for all of them -/
  lastCharacter : Nat := 0
  manner : Manner := {}

namespace Key

/-- A number at the start of a text, and what follows it. -/
def number (what : String) (text : Chars) : Except Refusal (Nat × Chars) :=
  let bare := text.dropWhile fun c => c = ' ' || c = '\t'
  let bare := if bare.head? = some '+' then bare.drop 1 else bare
  match natural? (bare.takeWhile Char.isDigit) with
  | some n => .ok (n, bare.dropWhile Char.isDigit)
  | none =>
    .error ⟨chars (what ++ ": invalid count at start of ") ++ quotedText text, false⟩

/-- A key such as `2.1,3n`. -/
def ofText (text : Chars) : Except Refusal Key := do
  let bad (what : String) : Except Refusal Unit :=
    .error ⟨chars (what ++ ": invalid field specification ") ++ quotedText text, false⟩
  let (field, rest) ← number "invalid number at field start" text
  if field = 0 then bad "field number is zero"
  let (character, rest) ← match rest with
    | '.' :: rest => do
      let (character, rest) ← number "invalid number after '.'" rest
      if character = 0 then bad "character offset is zero"
      pure (character - 1, rest)
    | rest => pure (0, rest)
  let (manner, rest) := Manner.addAll {} ⟨true, false⟩ rest
  let start : Key :=
    { field := if field = 1 && character = 0 then none else some (field - 1), character, manner }
  match rest with
  | ',' :: rest =>
    let (last, rest) ← number "invalid number after ','" rest
    if last = 0 then bad "field number is zero"
    let (lastCharacter, rest) ← match rest with
      | '.' :: rest => number "invalid number after '.'" rest
      | rest => pure (0, rest)
    let (manner, rest) := manner.addAll ⟨false, true⟩ rest
    if !rest.isEmpty then bad "stray character in field spec"
    return { start with lastField := some (last - 1), lastCharacter, manner }
  | rest =>
    if !rest.isEmpty then bad "stray character in field spec"
    return start

/-- A line after so many fields; each field between blanks has those before it. -/
def after (separator : Option Char) : Nat → Chars → Chars
  | 0, line => line
  | count + 1, line =>
    match separator with
    | some separator => after (some separator) count ((line.dropWhile (· ≠ separator)).drop 1)
    | none => after none count ((line.dropWhile isGap).dropWhile (!isGap ·))

/-- The part of a line that a key names. -/
def partOf (key : Key) (separator : Option Char) (line : Chars) : Chars :=
  let start := match key.field with
    | none => line
    | some count => after separator count line
  let start := if key.manner.skipsStart then start.dropWhile isGap else start
  let start := start.drop key.character
  let rest := match key.lastField with
    | none => []
    | some count =>
      if key.lastCharacter = 0 then
        match separator with
        | some separator => (after (some separator) count line).dropWhile (· ≠ separator)
        | none => after none (count + 1) line
      else
        let last := after separator count line
        (if key.manner.skipsEnd then last.dropWhile isGap else last).drop key.lastCharacter
  start.take (start.length - rest.length)

def compare (key : Key) (separator : Option Char) (a b : Chars) : Ordering :=
  let order := key.manner.compare (key.partOf separator a) (key.partOf separator b)
  if key.manner.reverses then order.swap else order

end Key

/-- What is asked for. -/
structure Request where
  manner : Manner := {}
  keys : List Key := []
  separator : Option Char := none
  isUnique : Bool := false
  isStable : Bool := false
  merges : Bool := false
  /-- the order is checked; the letter tells whether a complaint is wanted -/
  checks : Option Char := none
  target : Option Chars := none
  ending : Char := '\n'

/-- Options that have no letter. -/
def checkOption : Char := '\x01'

def kindOption : Char := '\x02'

def restOption : Char := '\x03'

def refused {α : Type} (text : Chars) : Except Refusal α := .error ⟨text, false⟩

def incompatible {α : Type} (letters : Chars) : Except Refusal α :=
  refused (chars "options '-" ++ letters ++ chars "' are incompatible")

namespace Request

def check (request : Request) (letter : Char) : Except Refusal Request :=
  if request.checks.all (· = letter) then .ok { request with checks := some letter }
  else incompatible (chars "cC")

def separated (request : Request) (text : Chars) : Except Refusal Request := do
  let separator ← match text with
    | [] => refused (chars "empty tab")
    | [c] => pure c
    | ['\\', '0'] => pure '\x00'
    | text => refused (chars "multi-character tab " ++ quotedText text)
  if request.separator.any (· ≠ separator) then refused (chars "incompatible tabs")
  else return { request with separator := some separator }

def step (request : Request) (option : Char × Chars) : Except Refusal Request := do
  let (letter, value) := option
  let named (what : String) (choices : List (List String)) : Except Refusal String :=
    (choice what choices value).mapError fun text => ⟨text, true⟩
  match request.manner.add? ⟨true, true⟩ letter with
  | some manner => return { request with manner }
  | none =>
    match letter with
    | 'c' | 'C' => request.check letter
    | 'k' => return { request with keys := request.keys ++ [← Key.ofText value] }
    | 'm' => return { request with merges := true }
    | 'o' =>
      if request.target.any (· ≠ value) then refused (chars "multiple output files specified")
      else return { request with target := some value }
    | 's' => return { request with isStable := true }
    | 't' => request.separated value
    | 'u' => return { request with isUnique := true }
    | 'z' => return { request with ending := '\x00' }
    | letter =>
      if letter = checkOption then
        if value.isEmpty then request.check 'c'
        else
          let word ← named "--check" [["quiet", "silent"], ["diagnose-first"]]
          request.check (if word = "quiet" then 'C' else 'c')
      else if letter = kindOption then
        let word ← named "--sort" [["general-numeric"], ["human-numeric"], ["month"], ["numeric"],
          ["random"], ["version"]]
        let letter := match word with
          | "general-numeric" => 'g'
          | "human-numeric" => 'h'
          | "month" => 'M'
          | "numeric" => 'n'
          | "random" => 'R'
          | _ => 'V'
        return { request with manner := (request.manner.add? ⟨true, true⟩ letter).getD {} }
      else return request

/-- The keys in full: those without a manner of their own have that of the options. -/
def allKeys (request : Request) : List Key :=
  if request.keys.isEmpty then
    if request.manner.isPlain then [] else [{ manner := request.manner }]
  else request.keys.map fun key =>
    if key.manner.isPlain && !key.manner.reverses then { key with manner := request.manner } else key

/-- The order of two lines: by the keys, and if these are the same by all octets. -/
def compare (request : Request) (keys : List Key) (a b : Chars) : Ordering :=
  let byKeys := keys.foldl (fun order key =>
    order.then (key.compare request.separator a b)) .eq
  if !keys.isEmpty && (byKeys ≠ .eq || request.isUnique || request.isStable) then byKeys
  else
    let order := compareTexts a b
    if request.manner.reverses then order.swap else order

/-- Lines without those that are equal to the line before them. -/
def distinct (order : Chars → Chars → Ordering) (lines : List Chars) : List Chars :=
  (lines.foldl (fun (kept : List Chars) line =>
    match kept with
    | last :: _ => if order last line = .eq then kept else line :: kept
    | [] => [line]) []).reverse

def linesOf (request : Request) (text : Chars) : List Chars :=
  (piecesEndedBy request.ending text).map (barePiece request.ending)

/-- The first line that is not in its place, with its number. -/
def disorder? (request : Request) (order : Chars → Chars → Ordering) :
    Nat → List Chars → Option (Nat × Chars)
  | n, a :: b :: rest =>
    let isGreater := order a b = .gt || (request.isUnique && order a b = .eq)
    if isGreater then some (n + 1, b) else disorder? request order (n + 1) (b :: rest)
  | _, _ => none

end Request

def run (situation : Situation) (request : Request) (operands : List Chars) :
    Except Refusal Ran := do
  let keys := request.allKeys
  if let some letters := keys.findSome? (·.manner.conflict?) then incompatible letters
  match request.checks, operands with
  | some letter, _ :: extra :: _ =>
    refused (chars "extra operand " ++ quotedName extra ++ chars " not allowed with -" ++ [letter])
  | some letter, _ => if request.target.isSome then incompatible [letter, 'o']
  | none, _ => pure ()
  let failure (what : String) (name : Chars) (error : FileError) : Except Refusal Unit :=
    refused (chars what ++ shownName name ++ chars ": " ++ cause error)
  let contents := situation.contents operands
  contents.forM fun
    | (name, .error error) =>
      if error = .isDirectory then pure () else failure "cannot read: " name error
    | _ => pure ()
  if let some target := request.target then
    if let .error error := situation.into target {} then failure "open failed: " target error
  contents.forM fun
    | (name, .error error) => failure "read failed: " name error
    | _ => pure ()
  let texts := contents.filterMap (·.2.toOption)
  let order := request.compare keys
  let unread := situation.unreadAfter operands
  match request.checks with
  | some letter =>
    match request.disorder? order 1 (request.linesOf texts.flatten) with
    | none => return { unread }
    | some (n, line) =>
      let complaint := situation.label ++ chars ": " ++ operands.headD ['-'] ++ ':' :: decimal n
        ++ chars ": disorder: " ++ line ++ [request.ending]
      return { complaints := if letter = 'c' then complaint else [], code := 1, unread }
  | none =>
    let inOrder (a b : Chars) : Bool := (order a b).isLE
    let lines := texts.map request.linesOf
    let sorted := if request.merges then lines.foldl (List.merge · · inOrder) []
      else lines.flatten.mergeSort inOrder
    let sorted := if request.isUnique then Request.distinct order sorted else sorted
    let ran : Ran := { output := sorted.flatMap (· ++ [request.ending]), unread }
    match request.target with
    | none => return ran
    | some target => (situation.into target ran).mapError fun error => ⟨cause error, false⟩

end Sorting

/-- Puts the lines of all operands in order. -/
def sort : Program :=
  withRequest { letters := "bcCdfghik:mMno:rRsS:t:T:uVy:z\x01::\x02:\x03:", words :=
    [("ignore-leading-blanks", 'b'), ("check", Sorting.checkOption), ("dictionary-order", 'd'),
      ("ignore-case", 'f'), ("general-numeric-sort", 'g'), ("ignore-nonprinting", 'i'),
      ("key", 'k'), ("merge", 'm'), ("month-sort", 'M'), ("numeric-sort", 'n'),
      ("human-numeric-sort", 'h'), ("version-sort", 'V'), ("random-sort", 'R'),
      ("random-source", Sorting.restOption), ("sort", Sorting.kindOption), ("output", 'o'),
      ("reverse", 'r'), ("stable", 's'), ("batch-size", Sorting.restOption),
      ("buffer-size", 'S'), ("field-separator", 't'), ("temporary-directory", 'T'),
      ("unique", 'u'), ("zero-terminated", 'z'), ("parallel", Sorting.restOption)] } 2 {}
    Sorting.Request.step Sorting.run

end LiveCompile.Shell
