import LiveCompile.Shell.Program.Options
import LiveCompile.Shell.Program.Quantity

/-! Parts of lines: `cut` chooses columns or fields, `rev` turns lines round. -/

namespace LiveCompile.Shell

namespace Cut

/-- Options that have no letter. -/
def between : Char := '\x01'

def complement : Char := '\x02'

/-- Positions from a first one on, up to a last one if there is one. -/
structure Range where
  first : Nat
  last : Option Nat
  deriving DecidableEq, Repr

def Range.has (range : Range) (n : Nat) : Bool := range.first ≤ n && range.last.all (n ≤ ·)

/-- How complaints name positions. -/
structure Wording where
  range : String
  zero : String
  tooGreat : String
  invalid : String

def fieldWording : Wording where
  range := "invalid field range"
  zero := "fields are numbered from 1"
  tooGreat := "field number "
  invalid := "invalid field value "

def columnWording : Wording where
  range := "invalid byte or character range"
  zero := "byte/character positions are numbered from 1"
  tooGreat := "byte/character offset "
  invalid := "invalid byte/character position "

/-- No position is greater. -/
def greatest : Nat := 9223372036854775807

/-- A number at the start of a text, which may be missing, and what follows it. -/
def number (wording : Wording) (text : Chars) : Except Refusal (Option Nat × Chars) :=
  let digits := text.takeWhile Char.isDigit
  match natural? digits with
  | none => .ok (none, text)
  | some n =>
    if greatest < n then
      .error ⟨chars wording.tooGreat ++ quotedText digits ++ chars " is too large", true⟩
    else .ok (some n, text.dropWhile Char.isDigit)

def endsPart (text : Chars) : Bool := text.head?.all fun c => c = ',' || c = ' ' || c = '\t'

/-- One range such as `2`, `2-`, `-2` or `2-4`, and what follows it. -/
def range (wording : Wording) (text : Chars) : Except Refusal (Range × Chars) := do
  let (first, rest) ← number wording text
  match rest with
  | '-' :: rest =>
    if first = some 0 then .error ⟨chars wording.zero, true⟩
    let (last, rest) ← number wording rest
    if rest.head? = some '-' then .error ⟨chars wording.range, true⟩
    else if !endsPart rest then .error ⟨chars wording.invalid ++ quotedText rest, true⟩
    else
      match first, last with
      | none, none => .error ⟨chars "invalid range with no endpoint: -", true⟩
      | first, none => .ok (⟨first.getD 1, none⟩, rest)
      | first, some last =>
        if last < first.getD 1 then .error ⟨chars "invalid decreasing range", true⟩
        else .ok (⟨first.getD 1, some last⟩, rest)
  | rest =>
    if !endsPart rest then .error ⟨chars wording.invalid ++ quotedText rest, true⟩
    else if first.getD 0 = 0 then .error ⟨chars wording.zero, true⟩
    else .ok (⟨first.getD 0, first⟩, rest)

/-- The ranges of a list. The first argument bounds their number. -/
def ranges (wording : Wording) : Nat → Chars → Except Refusal (List Range)
  | 0, _ => .ok []
  | count + 1, text => do
    let (range, rest) ← range wording text
    match rest with
    | [] => return [range]
    | _ :: rest => return range :: (← ranges wording count rest)

/-- Ranges in order, of which those that share a position are one. -/
def merged (ranges : List Range) : List Range :=
  let join (done : List Range) (next : Range) : List Range :=
    match done with
    | [] => [next]
    | before :: done =>
      match before.last, next.last with
      | none, _ => before :: done
      | some last, other =>
        if next.first ≤ last then { before with last := other.map (max last) } :: done
        else next :: before :: done
  ((ranges.mergeSort fun a b => a.first ≤ b.first).foldl join []).reverse

/-- The positions, from one on, that are in none of the ranges. -/
def outside (from_ : Nat) : List Range → List Range
  | [] => [⟨from_, none⟩]
  | range :: rest =>
    (if from_ < range.first then [⟨from_, some (range.first - 1)⟩] else [])
      ++ match range.last with
        | none => []
        | some last => outside (last + 1) rest

/-- What is asked for. -/
structure Request where
  ranges : List Range
  delimiter : Char := '\t'
  /-- what stands between chosen parts -/
  between : Option Chars := none
  /-- lines without a delimiter are left out -/
  suppresses : Bool := false
  ending : Char := '\n'

def Request.chosen (request : Request) {α : Type} (items : List α) : List α :=
  (items.zipIdx 1).filterMap fun (item, n) =>
    if request.ranges.any (·.has n) then some item else none

/-- The chosen columns of a line, with a text between ranges if one is given. -/
def Request.columns (request : Request) (line : Chars) : Chars :=
  let parts := request.ranges.filterMap fun range =>
    match (line.zipIdx 1).filter fun (_, n) => range.has n with
    | [] => none
    | chosen => some (chosen.map (·.1))
  (request.between.getD []).intercalate parts

/-- The chosen fields of a line, if the line is shown. -/
def Request.fields? (request : Request) (line : Chars) : Option Chars :=
  if line.contains request.delimiter then
    let between := request.between.getD [request.delimiter]
    some (between.intercalate (request.chosen (piecesBetween request.delimiter line)))
  else if request.suppresses then none
  else some line

/-- The chosen fields of all lines, or of a text in which each line is a field. -/
def Request.fields (request : Request) (text : Chars) : List Chars :=
  let bare := barePiece request.ending text
  if request.delimiter ≠ request.ending then
    (piecesEndedBy request.ending text).filterMap fun line =>
      request.fields? (barePiece request.ending line)
  else if text.isEmpty then []
  else if bare.contains request.ending || bare = text then (request.fields? bare).toList
  else if request.ranges.any (·.has 1) then [bare]
  else if request.suppresses then []
  else [[]]

/-- What is asked for while options are read. -/
structure Asked where
  /-- the letter of the option that gives a list, and the list -/
  list? : Option (Char × Chars) := none
  delimiter? : Option Chars := none
  between? : Option Chars := none
  suppresses : Bool := false
  ending : Char := '\n'
  inverts : Bool := false

def step (asked : Asked) (option : Char × Chars) : Except Refusal Asked :=
  let (letter, value) := option
  match letter with
  | 'd' =>
    if 1 < value.length then .error ⟨chars "the delimiter must be a single character", true⟩
    else .ok { asked with delimiter? := some value }
  | 's' => .ok { asked with suppresses := true }
  | 'z' => .ok { asked with ending := '\x00' }
  | 'n' => .ok asked
  | letter =>
    if letter = between then
      .ok { asked with between? := some (if value.isEmpty then ['\x00'] else value) }
    else if letter = complement then .ok { asked with inverts := true }
    else if asked.list?.isSome then .error ⟨chars "only one list may be specified", true⟩
    else .ok { asked with list? := some option }

/-- Whether columns and not fields are chosen, and how. -/
def Asked.request (asked : Asked) : Except Refusal (Bool × Request) := do
  match asked.list? with
  | none =>
    .error ⟨chars "you must specify a list of bytes, characters, or fields", true⟩
  | some (letter, list) =>
    let isColumns := letter ≠ 'f'
    if isColumns && asked.delimiter?.isSome then
      .error ⟨chars "an input delimiter may be specified only when operating on fields", true⟩
    if isColumns && asked.suppresses then
      .error ⟨chars "suppressing non-delimited lines makes sense\n\tonly when operating on fields",
        true⟩
    let ranges ← ranges (if isColumns then columnWording else fieldWording) (list.length + 1) list
    let ranges := merged ranges
    return (isColumns, { ranges := if asked.inverts then outside 1 ranges else ranges
                         delimiter := (asked.delimiter?.getD ['\t']).headD '\x00'
                         between := asked.between?, suppresses := asked.suppresses
                         ending := asked.ending })

end Cut

/-- The chosen columns or fields of each line. -/
def cut : Program :=
  withRequest { letters := "b:c:d:f:nsz\x01:\x02", words := [("bytes", 'b'), ("characters", 'c'),
    ("fields", 'f'), ("delimiter", 'd'), ("only-delimited", 's'), ("output-delimiter", Cut.between),
    ("complement", Cut.complement), ("zero-terminated", 'z')] } 1 {} Cut.step fun situation asked operands => do
  let (isColumns, request) ← asked.request
  return situation.filter operands shownName fun text =>
    if isColumns then
      (piecesEndedBy request.ending text).flatMap fun line =>
        request.columns (barePiece request.ending line) ++ [request.ending]
    else (request.fields text).flatMap (· ++ [request.ending])

/-- Turns each line round. -/
def rev : Program := withOptions { letters := "" } 1 fun situation options =>
  situation.filter options.operands (chars "cannot open " ++ ·) fun text =>
    (linesOf text).flatMap fun line =>
      (bareLine line).reverse ++ if line.getLast? = some '\n' then ['\n'] else []

end LiveCompile.Shell
