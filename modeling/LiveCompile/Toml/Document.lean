import LiveCompile.Toml.Statement

/-! A TOML document as one table, built statement by statement, and the reading of typed
records out of it. -/

namespace LiveCompile.Toml

/-- A document under construction: the finished tables, and the table that assignments go
to with its name. -/
structure Construction where
  root : Entries := []
  path : List String := []
  isElement : Bool := false
  current : Entries := []

namespace Construction

/-- Tables on the way to a table are made by its header. -/
def onTheWay : Origin := ⟨true, false⟩

/-- Puts the current table at its place. -/
def finish (state : Construction) : Option Entries :=
  match state.path.getLast? with
  | none => some state.current
  | some key =>
    let change (_ : Origin) (inner : Entries) : Option Entries :=
      match inner.get? key, state.isElement with
      | none, true => some (inner.put key (.tables [state.current]))
      | some (.tables elements), true =>
        some (inner.put key (.tables (elements ++ [state.current])))
      | none, false => some (inner.put key (.table ⟨false, false⟩ state.current))
      | some (.table origin _), false =>
        if origin.implicit then some (inner.put key (.table ⟨false, false⟩ state.current)) else none
      | _, _ => none
    descend onTheWay false change state.path.dropLast ⟨false, false⟩ state.root

/-- The entries that a table of this name already has: those it got as part of the names
of other tables. Nothing if the name is taken. -/
def inherited? (root : Entries) (path : List String) : Option (Entries × Entries) := do
  let key ← path.getLast?
  let found (inner : Entries) : Option Entries :=
    match inner.get? key with
    | none => some []
    | some (.table origin entries) =>
      if origin.implicit && !origin.dotted then some entries else none
    | some _ => none
  let rec look : List String → Entries → Option Entries
    | [], entries => found entries
    | part :: rest, entries =>
      match entries.get? part with
      | some (.table _ inner) => look rest inner
      | some (.tables elements) => elements.getLast?.bind (look rest)
      | _ => some []
  let entries ← look path.dropLast root
  let root ← descend onTheWay false (fun _ inner => some (inner.erase key)) path.dropLast
    ⟨false, false⟩ root
  return (entries, root)

/-- Starts one more table of a name; the name must be free or that of such tables. -/
def startElement? (root : Entries) (path : List String) : Option Entries := do
  let key ← path.getLast?
  let change (_ : Origin) (inner : Entries) : Option Entries :=
    match inner.get? key with
    | none => some inner
    | some (.tables _) => some inner
    | some _ => none
  descend onTheWay false change path.dropLast ⟨false, false⟩ root

def add (state : Construction) : Statement → Option Construction
  | .assignment path value => do
    return { state with current := ← assign false path value state.current }
  | .header path => do
    let (entries, root) ← inherited? (← state.finish) path
    return ⟨root, path, false, entries⟩
  | .element path => do
    let root ← startElement? (← state.finish) path
    return ⟨root, path, true, []⟩

end Construction

/-- The table that a text describes. -/
def read? (text : String) : Option Entries := do
  let state ← (← statements? text).foldlM Construction.add {}
  state.finish

namespace Value

def text? : Value → Option String
  | text content => some content
  | _ => none

def natural? : Value → Option Nat
  | integer (.ofNat n) => some n
  | _ => none

def list? {α : Type} (read : Value → Option α) : Value → Option (List α)
  | array items => items.mapM read
  | _ => none

/-- The entries of a record with the given fields: those of a table, or the items of an
array in the order of the fields, of which the first `least` must be there. A moment has no
field of a record. -/
def record? (names : List String) (least : Nat) (value : Value) : Option Entries :=
  let listed (items : List Value) : Option Entries :=
    if least ≤ items.length then some (names.zip items) else none
  match value with
  | table _ entries => some entries
  | inlineTable _ entries => some entries
  | array items => listed items
  | tables elements => listed (elements.map (table ⟨false, false⟩))
  | moment => some []
  | _ => none

end Value

namespace Entries

variable {α : Type}

def field? (entries : Entries) (name : String) (read : Value → Option α) : Option α := do
  read (← entries.get? name)

/-- A field that has a value of its own when it is absent. -/
def fieldOr? (entries : Entries) (name : String) (absent : α) (read : Value → Option α) :
    Option α :=
  match entries.get? name with
  | none => some absent
  | some value => read value

end Entries

end LiveCompile.Toml
