import LiveCompile.Shell.Ordering
import LiveCompile.Shell.Pattern
import LiveCompile.Shell.Program.Options
import LiveCompile.Shell.Program.Quantity

/-! Lines that are the same as the line before them: `uniq`. -/

namespace LiveCompile.Shell

/-- A number, filled up on its left to a width. -/
def rightAligned (width : Nat) (text : Chars) : Chars :=
  List.replicate (width - text.length) ' ' ++ text

/-- Equal neighbours together. -/
def runsBy {α : Type} (same : α → α → Bool) : List α → List (List α)
  | [] => []
  | item :: rest =>
    match runsBy same rest with
    | (other :: more) :: runs =>
      if same item other then (item :: other :: more) :: runs
      else [item] :: (other :: more) :: runs
    | runs => [item] :: runs

namespace Uniq

/-- The option for groups, which has no letter. -/
def grouping : Char := '\x01'

/-- What of a line is compared. -/
structure Part where
  fields : Nat := 0
  octets : Nat := 0
  greatest : Option Nat := none
  folds : Bool := false

/-- A line after so many fields, each with the gap before it. -/
def afterFields : Nat → Chars → Chars
  | 0, line => line
  | count + 1, line => afterFields count ((line.dropWhile isGap).dropWhile (!isGap ·))

def Part.of (part : Part) (line : Chars) : Chars :=
  let rest := (afterFields part.fields line).drop part.octets
  let rest := rest.take (part.greatest.getD rest.length)
  if part.folds then rest.map Char.toLower else rest

/-- Where groups get an empty line. -/
inductive Parting where
  | nowhere
  | before
  | between
  | after
  | around
  deriving DecidableEq, Repr

def Parting.ofWord : String → Parting
  | "prepend" => .before
  | "append" => .after
  | "separate" => .between
  | "both" => .around
  | _ => .nowhere

/-- What is asked for. -/
structure Request where
  part : Part := {}
  /-- the fields to skip are given in the old way, by digits that are options -/
  isOld : Bool := false
  /-- lines that stand alone are shown -/
  alone : Bool := true
  /-- the first or last line of several is shown -/
  one : Bool := true
  /-- the other lines of several are shown -/
  others : Bool := false
  parting : Parting := .nowhere
  /-- all lines are shown in their groups -/
  groups : Option Parting := none
  counts : Bool := false
  ending : Char := '\n'

namespace Request

def optionOf (what : String) (words : List String) (word : Chars) (usual : Parting) :
    Except Refusal Parting :=
  if word.isEmpty then .ok usual
  else
    match choice what (words.map ([·])) word with
    | .ok word => .ok (.ofWord word)
    | .error text => .error ⟨text, true⟩

def step (request : Request) (option : Char × Chars) : Except Refusal Request := do
  let (letter, value) := option
  let part := request.part
  let size (what : String) : Except Refusal Nat :=
    match quantity? "" value with
    | some (size, _) => .ok size
    | none => .error ⟨value ++ chars (": invalid number of " ++ what), false⟩
  match letter with
  | 'c' => return { request with counts := true }
  | 'd' => return { request with alone := false }
  | 'u' => return { request with one := false }
  | 'i' => return { request with part := { part with folds := true } }
  | 'z' => return { request with ending := '\x00' }
  | 'f' =>
    let fields ← size "fields to skip"
    return { request with part := { part with fields }, isOld := false }
  | 's' => return { request with part := { part with octets := ← size "bytes to skip" } }
  | 'w' => return { request with part := { part with greatest := ← size "bytes to compare" } }
  | 'D' =>
    let words := ["none", "prepend", "separate"]
    let parting ← optionOf "--all-repeated" words value .nowhere
    return { request with alone := false, others := true, parting }
  | digit =>
    if digit = grouping then
      let words := ["prepend", "append", "separate", "both"]
      return { request with groups := ← optionOf "--group" words value .between }
    else
      let before := if request.isOld then part.fields else 0
      let fields := before * 10 + (digit.toNat - '0'.toNat)
      return { request with part := { part with fields }, isOld := true }

end Request

/-- A line as it is shown, with the number of lines like it. -/
def Request.line (request : Request) (count : Nat) (line : Chars) : Chars :=
  (if request.counts then rightAligned 7 (decimal count) ++ [' '] else [])
    ++ line ++ [request.ending]

/-- The lines that are shown of several that are the same. -/
def Request.run (request : Request) (run : List Chars) : Chars :=
  match run with
  | [] => []
  | [only] => if request.alone then request.line 1 only else []
  | first :: _ =>
    if request.others then
      run.dropLast.flatMap (request.line run.length)
        ++ if request.one then request.line run.length (run.getLastD first) else []
    else if request.one then request.line run.length first
    else []

/-- The runs with their lines between them; `isFirst` tells that no run of several lines has
been before. -/
def Request.parted (request : Request) (isFirst : Bool) : List (List Chars) → Chars
  | [] => []
  | run :: rest =>
    let several := run.length > 1
    let isParted := several
      && (request.parting = .before || (request.parting = .between && !isFirst))
    (if isParted then [request.ending] else []) ++ request.run run
      ++ request.parted (isFirst && !several) rest

/-- All lines in their groups. -/
def Request.wholeGroups (request : Request) (parting : Parting) (runs : List (List Chars)) :
    Chars :=
  let group (run : List Chars) : Chars := run.flatMap fun line => line ++ [request.ending]
  let gap : Chars := [request.ending]
  let text := gap.intercalate (runs.map group)
  if runs.isEmpty then []
  else
    (if parting = .before || parting = .around then gap else []) ++ text
      ++ (if parting = .after || parting = .around then gap else [])

def Request.output (request : Request) (text : Chars) : Chars :=
  let lines := (piecesEndedBy request.ending text).map (barePiece request.ending)
  let runs := runsBy (fun a b => request.part.of a = request.part.of b) lines
  match request.groups with
  | some parting => request.wholeGroups parting runs
  | none => request.parted true runs

end Uniq

/-- Shows one line of several that are the same. -/
def uniq : Program :=
  withRequest { letters := "0123456789D::cdf:is:uw:z\x01::", words := [("count", 'c'),
    ("repeated", 'd'), ("all-repeated", 'D'), ("group", Uniq.grouping), ("ignore-case", 'i'),
    ("unique", 'u'), ("skip-fields", 'f'), ("skip-chars", 's'), ("check-chars", 'w'),
    ("zero-terminated", 'z')] } 1 {} Uniq.Request.step fun situation request operands => do
  if let _ :: _ :: extra :: _ := operands then
    .error ⟨chars "extra operand " ++ quotedText extra, true⟩
  let chooses := request.counts || !request.alone || !request.one
  if request.groups.isSome && chooses then
    .error ⟨chars "--group is mutually exclusive with -c/-d/-D/-u", true⟩
  if request.counts && request.others then
    .error ⟨chars "printing all duplicated lines and repeat counts is meaningless", true⟩
  let ran := situation.filter (operands.take 1) shownName request.output
  match operands[1]? with
  | none => return ran
  | some target =>
    if ran.code ≠ 0 then return ran
    else
      (situation.into target ran).mapError fun error =>
        ⟨shownName target ++ chars ": " ++ cause error, false⟩

end LiveCompile.Shell
