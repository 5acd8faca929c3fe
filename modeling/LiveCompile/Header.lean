import LiveCompile.Json.Record
import LiveCompile.Chunk.World

/-! What a compiler says about one of its runs. Every part may be missing. -/

namespace LiveCompile

/-- Sizes of the parts of a world. -/
structure WorldCounts where
  entities : Nat := 0
  locations : Nat := 0
  exits : Nat := 0
  properties : Nat := 0
  rules : Nat := 0
  deriving DecidableEq, Repr, Inhabited

/-- The duration of one phase of a compile, in milliseconds. -/
structure PhaseTiming where
  phase : String
  duration : Binary64
  deriving DecidableEq, Repr, Inhabited

/-- Times are in milliseconds; the time of the run counts from 1970. -/
structure Header where
  compileId : String := ""
  timestamp : Option Int := none
  duration : Binary64 := Binary64.zero
  phaseTimings : List PhaseTiming := []
  worldCounts : WorldCounts := {}
  inputFileCount : Nat := 0
  deriving DecidableEq, Repr, Inhabited

/-- The greatest count. -/
def maxCount : Nat := Nat.pow 2 64 - 1

/-- The time stamps that are a date of the proleptic Gregorian calendar with a year of at
most six digits, in milliseconds: the first and the last of them. -/
def firstTimestamp : Int := -8334601228800000

def lastTimestamp : Int := 8210266876799999

def timestamp? (document : Document) : Option Int := do
  let time ← document.int?
  if firstTimestamp ≤ time ∧ time ≤ lastTimestamp then some time else none

namespace WorldCounts

def fieldNames : List String := ["entities", "locations", "exits", "properties", "rules"]

def ofDocument? (document : Document) : Option WorldCounts := do
  let fields ← document.recordMembers? fieldNames
  let count (name : String) := Document.fieldOr? fields name 0 (Document.natUpTo? maxCount)
  return {
    entities := ← count "entities"
    locations := ← count "locations"
    exits := ← count "exits"
    properties := ← count "properties"
    rules := ← count "rules" }

def toJson (counts : WorldCounts) : Json := .object
  [("entities", Json.nat counts.entities), ("locations", Json.nat counts.locations),
    ("exits", Json.nat counts.exits), ("properties", Json.nat counts.properties),
    ("rules", Json.nat counts.rules)]

/-- The sizes of a world's parts; exits of locations count as exits. -/
def ofWorld (world : World) : WorldCounts where
  entities := world.entities.length
  locations := world.locations.length
  exits := world.exitCount
  properties := world.properties.length
  rules := world.rules.length

end WorldCounts

namespace PhaseTiming

def ofDocument? (document : Document) : Option PhaseTiming := do
  let fields ← document.recordMembers? ["phase", "durationMs"]
  return {
    phase := ← Document.fieldOr? fields "phase" "" Document.string?
    duration := ← Document.fieldOr? fields "durationMs" Binary64.zero Document.float? }

def toJson (timing : PhaseTiming) : Json := .object
  [("phase", .string timing.phase), ("durationMs", Json.float timing.duration)]

end PhaseTiming

namespace Header

def fieldNames : List String :=
  ["compileId", "timestamp", "durationMs", "phaseTimings", "worldCounts", "inputFileCount"]

/-- An id is a text, or a number that stands for its text. -/
def compileId? : Document → Option String
  | .string _ value => some value
  | .number _ value => some value.text
  | _ => none

def ofDocument? (document : Document) : Option Header := do
  let fields ← document.recordMembers? fieldNames
  return {
    compileId := ← Document.fieldOr? fields "compileId" "" compileId?
    timestamp := ← Document.fieldOr? fields "timestamp" none (Document.nullable? timestamp?)
    duration := ← Document.fieldOr? fields "durationMs" Binary64.zero Document.float?
    phaseTimings := ← Document.fieldOr? fields "phaseTimings" []
      (Document.list? PhaseTiming.ofDocument?)
    worldCounts := ← Document.fieldOr? fields "worldCounts" {} WorldCounts.ofDocument?
    inputFileCount := ← Document.fieldOr? fields "inputFileCount" 0
      (Document.natUpTo? maxCount) }

def toJson (header : Header) : Json := .object
  [("compileId", .string header.compileId),
    ("timestamp", Json.ofOption (fun time => .number (.int time)) header.timestamp),
    ("durationMs", Json.float header.duration),
    ("phaseTimings", .array (header.phaseTimings.map PhaseTiming.toJson)),
    ("worldCounts", header.worldCounts.toJson),
    ("inputFileCount", Json.nat header.inputFileCount)]

end Header

end LiveCompile
