import Std.Data.HashMap
import LiveCompile.Shell.Awk.Value

/-! Arrays of programs. The order in which a loop meets their keys follows from how keys are kept:
in buckets that hold the key that was used last first, those that are integers also in buckets
of their own. Texts of integers are put into buckets no sooner than a text is looked for. -/

namespace LiveCompile.Shell.Awk

/-- A key. A number that is an integer is looked for as one. -/
inductive Key where
  | integer (value : Int)
  | text (content : Chars)

def integerText (value : Int) : Chars :=
  if value < 0 then '-' :: decimal value.natAbs else decimal value.natAbs

def Key.toText : Key → Chars
  | .integer value => integerText value
  | .text content => content

/-- The hash of texts, whatever other instances are in scope. -/
instance : Hashable Chars := @instHashableList Char instHashableChar

structure Table where
  values : Std.HashMap Chars Value := {}
  size : Nat := 0
  /-- the number of buckets, a power of two -/
  buckets : Nat := 64
  /-- no buckets if no text was looked for -/
  texts : Array (List Chars) := #[]
  /-- no buckets if there was no integer -/
  integers : Array (List Int) := #[]
  /-- the keys are the integers from one on, in no buckets -/
  isRow : Bool := false
  deriving Inhabited

namespace Table

/-- The hash of a text. -/
def hashOf (content : Chars) : Nat :=
  content.foldl (fun hash c => ((hash ^^^ c.toNat) * 16777619) % 4294967296) 2166136261

def textBucket (table : Table) (content : Chars) : Nat := hashOf content % table.buckets

def integerBucket (table : Table) (value : Int) : Nat := (value % (table.buckets : Int)).toNat

/-- Puts a text at the front of its bucket. -/
def linkText (table : Table) (content : Chars) : Table :=
  let texts :=
    if table.texts.isEmpty then Array.replicate table.buckets [] else table.texts
  { table with
    texts := texts.modify (table.textBucket content) fun bucket =>
      content :: bucket.filter (· ≠ content) }

/-- Puts an integer at the front of its bucket. -/
def linkInteger (table : Table) (value : Int) : Table :=
  let integers :=
    if table.integers.isEmpty then Array.replicate table.buckets [] else table.integers
  { table with
    integers := integers.modify (table.integerBucket value) fun bucket =>
      value :: bucket.filter (· ≠ value) }

/-- Buckets twice as many: each is split in two, and what stays in one keeps its order. -/
def parted {α : Type} (count : Nat) (bucketOf : α → Nat) (buckets : Array (List α)) :
    Array (List α) :=
  buckets.map (fun bucket => bucket.filter (bucketOf · < count))
    ++ buckets.map (fun bucket => bucket.filter (count ≤ bucketOf ·))

/-- How many keys there may be for each bucket. -/
def keysPerBucket : Nat := 12

/-- Room for one more key; the number of buckets is doubled if there are too many keys for it. -/
def grown (table : Table) : Table :=
  let size := table.size + 1
  if size ≤ keysPerBucket * table.buckets then { table with size }
  else
    let larger := { table with size, buckets := 2 * table.buckets }
    { larger with
      texts := parted table.buckets larger.textBucket table.texts
      integers := parted table.buckets larger.integerBucket table.integers }

/-- The number of buckets for so many keys. The first argument bounds the number of steps. -/
def bucketsFor (size : Nat) : Nat → Nat → Nat
  | 0, buckets => buckets
  | steps + 1, buckets =>
    if size ≤ keysPerBucket * buckets then buckets else bucketsFor size steps (2 * buckets)

/-- The table with the integers of a row in their buckets. -/
def unrowed (table : Table) : Table :=
  if table.isRow then
    let empty := { table with isRow := false, buckets := bucketsFor table.size table.size 64 }
    (List.range table.size).foldl (fun table index => table.linkInteger (Int.ofNat (index + 1))) empty
  else table

/-- The table with the texts of all integers in their buckets. -/
def withTexts (table : Table) : Table :=
  let table := table.unrowed
  if table.texts.isEmpty then
    let empty := { table with texts := Array.replicate table.buckets [] }
    (table.integers.toList.flatten.map integerText).foldl linkText empty
  else table

/-- Looks for a text, and puts it there if it is to be made. -/
def findText (table : Table) (content : Chars) (creates : Bool) : Table × Bool :=
  let table := table.withTexts
  if table.values.contains content then (table.linkText content, true)
  else if creates then
    let table := table.grown
    ({ table with values := table.values.insert content .unset }.linkText content, true)
  else (table, false)

def findInteger (table : Table) (value : Int) (creates : Bool) : Table × Bool :=
  if table.isRow && 1 ≤ value && value ≤ table.size then (table, true)
  else
    let table := table.unrowed
    let content := integerText value
    if (table.integers.getD (table.integerBucket value) []).contains value then
      (table.linkInteger value, true)
    else if !table.texts.isEmpty then
      let (table, found) := table.findText content creates
      (if found then table.linkInteger value else table, found)
    else if creates then
      let table := table.grown
      ({ table with values := table.values.insert content .unset }.linkInteger value, true)
    else (table, false)

/-- Looks for a key, and puts it there if it is to be made. -/
def find (table : Table) (key : Key) (creates : Bool) : Table × Bool :=
  if table.size = 0 && !creates then (table, false)
  else
    match key with
    | .integer value => table.findInteger value creates
    | .text content => table.findText content creates

def value (table : Table) (key : Key) : Value := table.values.getD key.toText .unset

/-- The table with a value for a key that is there. -/
def put (table : Table) (key : Key) (value : Value) : Table :=
  { table with values := table.values.insert key.toText value }

def delete (table : Table) (key : Key) : Table :=
  let isOutside := match key with
    | .integer value => table.isRow && !(1 ≤ value && value ≤ table.size)
    | .text _ => false
  if isOutside then table
  else
    let (table, found) := table.unrowed.find key false
    if !found then table
    else if table.size = 1 then {}
    else
      let content := key.toText
      let isOther (value : Int) : Bool := integerText value ≠ content
      { table with
        size := table.size - 1
        values := table.values.erase content
        texts := table.texts.modify (table.textBucket content) (·.filter (· ≠ content))
        integers := match integer? content with
          | some value => table.integers.modify (table.integerBucket value) (·.filter isOther)
          | none => table.integers }

/-- The keys in the order of a loop. -/
def keys (table : Table) : Table × List Chars :=
  let table := if table.size = 0 then table else table.withTexts
  (table, table.texts.toList.flatten)

/-- The table whose keys are the integers from one on. -/
def ofRow (values : List Value) : Table :=
  if values.isEmpty then {}
  else
    let numbered := (List.range values.length).zip values
    { values := numbered.foldl (fun values (index, value) =>
        values.insert (decimal (index + 1)) value) {}
      size := values.length, isRow := true }

end Table

end LiveCompile.Shell.Awk
