import LiveCompile.Toml.Number
import LiveCompile.Toml.Value

/-! The statements of a TOML document: table headers and assignments to keys, each on a
line of its own. -/

namespace LiveCompile.Toml

inductive Statement where
  /-- the following assignments are in the table of this name -/
  | header (path : List String)
  /-- the following assignments are in one more table of this name -/
  | element (path : List String)
  | assignment (path : List String) (value : Value)
  deriving Inhabited, Repr

/-- How deep values and how long keys may be. -/
def depthLimit : Nat := 80

def isBareChar (c : Char) : Bool := c.isAlphanum || c = '_' || c = '-'

def simpleKey? (input : List Char) : Option (String × List Char) :=
  match input with
  | '"' :: _ => lineString? input
  | '\'' :: _ => lineString? input
  | _ =>
    let bare := input.takeWhile isBareChar
    if bare.isEmpty then none else some (String.ofList bare, input.dropWhile isBareChar)

/-- The parts of a key after the first one. The first argument bounds their number. -/
def keyParts? : Nat → List Char → Option (List String × List Char)
  | 0, _ => none
  | parts + 1, input => do
    let (part, rest) ← simpleKey? (skipBlanks input)
    match skipBlanks rest with
    | '.' :: rest =>
      let (more, rest) ← keyParts? parts rest
      return (part :: more, rest)
    | rest => return ([part], rest)

/-- A key: parts with dots between them, and blanks around everything. -/
def key? (input : List Char) : Option (List String × List Char) := keyParts? (depthLimit - 1) input

/-- Adds an entry under a key to a table, going through tables on the way. A table on the
way that is not there is made with origin `fresh`; `enter` tells whether one that is there
may be extended. -/
def descend (fresh : Origin) (closed : Bool) (change : Origin → Entries → Option Entries) :
    List String → Origin → Entries → Option Entries
  | [], origin, entries => change origin entries
  | key :: path, _, entries => do
    let dotted := fresh.dotted
    match entries.get? key, closed with
    | none, true =>
      return entries.put key (.inlineTable fresh (← descend fresh closed change path fresh []))
    | none, false =>
      return entries.put key (.table fresh (← descend fresh closed change path fresh []))
    | some (.inlineTable origin inner), true =>
      if dotted && !origin.implicit then none
      else
        return entries.put key
          (.inlineTable origin (← descend fresh closed change path origin inner))
    | some (.table origin inner), false =>
      if dotted && !origin.implicit then none
      else return entries.put key (.table origin (← descend fresh closed change path origin inner))
    | some (.tables elements), false =>
      match elements.getLast? with
      | none => none
      | some last => do
        let last ← descend fresh closed change path ⟨false, false⟩ last
        return entries.put key (.tables (elements.dropLast ++ [last]))
    | some _, _ => none

/-- Assigns a value to a dotted key. What stands before the last dot must be a table that
was made by dotted keys. -/
def assign (closed : Bool) (path : List String) (value : Value) (entries : Entries) :
    Option Entries := do
  let key ← path.getLast?
  let change (origin : Origin) (inner : Entries) : Option Entries :=
    if origin.dotted = path.dropLast.isEmpty ∨ (inner.get? key).isSome then none
    else some (inner.put key value)
  descend ⟨true, true⟩ closed change path.dropLast ⟨false, false⟩ entries

/-- The value of a word or number. -/
def plainValue? (input : List Char) : Option (Value × List Char) :=
  match after? "true" input, after? "false" input with
  | some rest, _ => some (.boolean true, rest)
  | none, some rest => some (.boolean false, rest)
  | none, none =>
    match moment? input, float? input with
    | some rest, _ => some (.moment, rest)
    | none, some rest => some (.float, rest)
    | none, none => (integer? input).map fun (value, rest) => (.integer value, rest)

mutual

/-- A value at the start of the input. The first argument bounds the calls, the second
how deep it may go. -/
def value? : Nat → Nat → List Char → Option (Value × List Char)
  | 0, _, _ => none
  | _ + 1, _, [] => none
  | steps + 1, depth, c :: rest =>
    if c = '"' || c = '\'' then (string? (c :: rest)).map fun (text, rest) => (.text text, rest)
    else if c = '[' then do
      let depth ← if depth > 1 then some (depth - 1) else none
      let (items, rest) ← items? steps depth rest
      return (.array items, rest)
    else if c = '{' then do
      let depth ← if depth > 1 then some (depth - 1) else none
      let (entries, rest) ← match skipBlanks rest with
        | '}' :: rest => some ([], rest)
        | rest => inlineEntries? steps depth [] rest
      return (.inlineTable ⟨false, false⟩ entries, rest)
    else plainValue? (c :: rest)

/-- Items up to the closing bracket, after a last comma too. -/
def items? : Nat → Nat → List Char → Option (List Value × List Char)
  | 0, _, _ => none
  | steps + 1, depth, input =>
    match skipSpace input with
    | ']' :: rest => some ([], rest)
    | input => do
      let (item, rest) ← value? steps depth input
      match skipSpace rest with
      | ']' :: rest => return ([item], rest)
      | ',' :: rest =>
        let (items, rest) ← items? steps depth rest
        return (item :: items, rest)
      | _ => none

/-- Entries up to the closing brace. -/
def inlineEntries? : Nat → Nat → Entries → List Char → Option (Entries × List Char)
  | 0, _, _, _ => none
  | steps + 1, depth, entries, input => do
    let (path, rest) ← key? input
    let rest ← expect? '=' rest
    let (value, rest) ← value? steps depth (skipBlanks rest)
    let entries ← assign true path value entries
    match skipBlanks rest with
    | '}' :: rest => return (entries, rest)
    | ',' :: rest => inlineEntries? steps depth entries rest
    | _ => none

end

/-- The rest of the line after a table header's name and brackets. -/
def header? (input : List Char) : Option (Statement × List Char) :=
  match input with
  | '[' :: rest => do
    let (path, rest) ← key? rest
    return (.element path, ← restOfLine? (← after? "]]" rest))
  | _ => do
    let (path, rest) ← key? input
    return (.header path, ← restOfLine? (← expect? ']' rest))

def assignment? (input : List Char) : Option (Statement × List Char) := do
  let (path, rest) ← key? input
  let rest := skipBlanks (← expect? '=' rest)
  let (value, rest) ← value? (2 * rest.length + 2) depthLimit rest
  return (.assignment path value, ← restOfLine? rest)

/-- The statements of a document. The first argument bounds the number of lines. -/
def statementsWithin? : Nat → List Char → Option (List Statement)
  | 0, _ => none
  | lines + 1, input =>
    match skipBlanks input with
    | [] => some []
    | '#' :: rest => do statementsWithin? lines (← restOfLine? ('#' :: rest))
    | '[' :: rest => do
      let (statement, rest) ← header? rest
      return statement :: (← statementsWithin? lines rest)
    | c :: rest =>
      match lineEnd? (c :: rest) with
      | some rest => statementsWithin? lines rest
      | none => do
        let (statement, rest) ← assignment? (c :: rest)
        return statement :: (← statementsWithin? lines rest)

/-- The statements of a text, which may start with a byte order mark. -/
def statements? (text : String) : Option (List Statement) :=
  let input := match text.toList with
    | '\uFEFF' :: rest => rest
    | input => input
  statementsWithin? (input.length + 1) input

end LiveCompile.Toml
