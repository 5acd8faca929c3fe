import LiveCompile.Proofs.DetachedReading
import LiveCompile.Proofs.RecordReread

/-! A header whose counts have 64 bits and whose time is a date is read back as it was written, and
every header that was read is of that kind. -/

namespace LiveCompile

open Document

/-! Values as they are written -/

theorem natUpTo?_le {bound n : Nat} {document : Document} (read : natUpTo? bound document = some n) :
    n ≤ bound := by
  obtain ⟨number, _, fits⟩ := Option.bind_eq_some_iff.mp read
  unfold Number.natUpTo? at fits
  split at fits
  case h_1 =>
    split at fits
    case isTrue small =>
      cases fits
      exact small
    case isFalse => cases fits
  case h_2 => cases fits

theorem field?_eq_some {α : Type} {fields : Fields Document} {name : String}
    {read : Document → Option α} {value : α} (found : field? fields name read = some value) :
    ∃ document, read document = some value := by
  obtain ⟨held, _, found⟩ := Option.bind_eq_some_iff.mp found
  obtain ⟨document, _, read⟩ := Option.bind_eq_some_iff.mp found
  exact ⟨document, read⟩

theorem returns_nat {bound n : Nat} (fits : n ≤ bound) : Returns (natUpTo? bound) Json.nat n := by
  simp [Returns, natUpTo?, number?, Json.nat, ofJson, Number.natUpTo?, fits]

private theorem legible_nat {n : Nat} (fits : n ≤ maxCount) : (Json.nat n).Legible := by
  have small : n ≤ 18446744073709551615 := fits
  refine .number (Number.rereads_int ?_ ?_) <;> omega

theorem readable_nat {n depth : Nat} (fits : n ≤ maxCount) : (Json.nat n).Readable depth :=
  ⟨legible_nat fits, .number _⟩

/-- A time stamp that a date has. -/
def IsDate (time : Int) : Prop := firstTimestamp ≤ time ∧ time ≤ lastTimestamp

theorem isDate_of_read {document : Document} {time : Int} (read : timestamp? document = some time) :
    IsDate time := by
  obtain ⟨found, _, inside⟩ := Option.bind_eq_some_iff.mp read
  split at inside
  case isTrue bounds =>
    cases inside
    exact bounds
  case isFalse => cases inside

def timestampJson (time : Int) : Json := .number (.int time)

theorem returns_timestamp {time : Int} (date : IsDate time) :
    Returns timestamp? timestampJson time := by
  show (if firstTimestamp ≤ time ∧ time ≤ lastTimestamp then some time else none) = some time
  exact if_pos date

theorem legible_timestamp {time : Int} (date : IsDate time) : (timestampJson time).Legible := by
  obtain ⟨least, greatest⟩ := date
  simp only [firstTimestamp, lastTimestamp] at least greatest
  exact .number (Number.rereads_int (by omega) (by omega))

namespace WorldCounts

/-- Counts of 64 bits. -/
structure Fits (counts : WorldCounts) : Prop where
  entities : counts.entities ≤ maxCount
  locations : counts.locations ≤ maxCount
  exits : counts.exits ≤ maxCount
  properties : counts.properties ≤ maxCount
  rules : counts.rules ≤ maxCount

private theorem count_le {fields : Fields Document} {name : String} {n : Nat}
    (found : fieldOr? fields name 0 (natUpTo? maxCount) = some n) : n ≤ maxCount := by
  rcases fieldOr?_eq_some found with rfl | ⟨document, read⟩
  · exact Nat.zero_le _
  · exact natUpTo?_le read

private theorem fits_of_read {document : Document} {counts : WorldCounts}
    (read : ofDocument? document = some counts) : counts.Fits := by
  simp only [ofDocument?, Option.bind_eq_bind, Option.bind_eq_some_iff, Option.pure_def,
    Option.some.injEq] at read
  obtain ⟨fields, _, entities, first, locations, second, exits, third, properties, fourth, rules,
    fifth, rfl⟩ := read
  exact ⟨count_le first, count_le second, count_le third, count_le fourth, count_le fifth⟩

private theorem returns {counts : WorldCounts} (fits : counts.Fits) :
    Returns ofDocument? toJson counts := by
  have entities := returns_nat fits.entities
  have locations := returns_nat fits.locations
  have exits := returns_nat fits.exits
  have properties := returns_nat fits.properties
  have rules := returns_nat fits.rules
  show (do
    let entities ← natUpTo? maxCount (ofJson (Json.nat counts.entities))
    let locations ← natUpTo? maxCount (ofJson (Json.nat counts.locations))
    let exits ← natUpTo? maxCount (ofJson (Json.nat counts.exits))
    let properties ← natUpTo? maxCount (ofJson (Json.nat counts.properties))
    let rules ← natUpTo? maxCount (ofJson (Json.nat counts.rules))
    return (⟨entities, locations, exits, properties, rules⟩ : WorldCounts)) = _
  rw [entities, locations, exits, properties, rules]
  rfl

private theorem legible {counts : WorldCounts} (fits : counts.Fits) : counts.toJson.Legible := by
  apply Json.Legible.object
  simp only [List.forall_mem_cons]
  exact ⟨legible_nat fits.entities, legible_nat fits.locations, legible_nat fits.exits,
    legible_nat fits.properties, legible_nat fits.rules, List.forall_mem_nil _⟩

private theorem nested (counts : WorldCounts) (depth : Nat) : counts.toJson.Nested (depth + 1) := by
  apply Json.Nested.object
  simp only [List.forall_mem_cons]
  exact ⟨.number _, .number _, .number _, .number _, .number _, List.forall_mem_nil _⟩

end WorldCounts

namespace PhaseTiming

private theorem returns (timing : PhaseTiming) : Returns ofDocument? toJson timing := rfl

private theorem legible {timing : PhaseTiming} (rereads : (Number.float timing.duration).Rereads) :
    timing.toJson.Legible := by
  apply Json.Legible.object
  simp only [List.forall_mem_cons]
  exact ⟨.string _, .number rereads, List.forall_mem_nil _⟩

private theorem nested (timing : PhaseTiming) (depth : Nat) : timing.toJson.Nested (depth + 1) := by
  apply Json.Nested.object
  simp only [List.forall_mem_cons]
  exact ⟨.string _, .number _, List.forall_mem_nil _⟩

end PhaseTiming

namespace Header

/-- A header whose time is a date and whose counts have 64 bits. -/
structure Fits (header : Header) : Prop where
  timestamp : ∀ time ∈ header.timestamp, IsDate time
  worldCounts : header.worldCounts.Fits
  inputFileCount : header.inputFileCount ≤ maxCount

def durations (header : Header) : List Binary64 :=
  header.duration :: header.phaseTimings.map (·.duration)

def timestampOrNull : Option Int → Json := Json.ofOption timestampJson

theorem fits_default : ({} : Header).Fits := by
  refine ⟨fun time there => ?_, ?_, Nat.zero_le _⟩
  · cases there
  · constructor <;> exact Nat.zero_le _

theorem fits_of_read {document : Document} {header : Header}
    (read : ofDocument? document = some header) : header.Fits := by
  simp only [ofDocument?, Option.bind_eq_bind, Option.bind_eq_some_iff, Option.pure_def,
    Option.some.injEq] at read
  obtain ⟨fields, _, compileId, _, timestamp, timed, duration, _, timings, _, counts, counted,
    inputs, input, rfl⟩ := read
  refine ⟨fun time there => ?_, ?_, WorldCounts.count_le input⟩
  · cases Option.mem_def.mp there
    rcases fieldOr?_eq_some timed with absent | ⟨document, read⟩
    · cases absent
    · unfold nullable? at read
      split at read
      case h_1 => cases read
      case h_2 =>
        obtain ⟨inner, read, same⟩ := Option.map_eq_some_iff.mp read
        cases same
        exact isDate_of_read read
  · rcases fieldOr?_eq_some counted with rfl | ⟨document, read⟩
    · constructor <;> exact Nat.zero_le _
    · exact WorldCounts.fits_of_read read

private theorem returns_timestampOrNull {timestamp : Option Int}
    (dates : ∀ time ∈ timestamp, IsDate time) :
    Returns (nullable? timestamp?) timestampOrNull timestamp := by
  cases timestamp with
  | none => rfl
  | some time => exact congrArg (Option.map some) (returns_timestamp (dates time rfl))

private theorem returns_timings (timings : List PhaseTiming) :
    Returns (list? PhaseTiming.ofDocument?) (fun timings => .array (timings.map PhaseTiming.toJson))
      timings :=
  mapM_returns fun timing _ => timing.returns

theorem returns {header : Header} (fits : header.Fits) : Returns ofDocument? toJson header := by
  have timestamp := returns_timestampOrNull fits.timestamp
  have timings := returns_timings header.phaseTimings
  have counts := WorldCounts.returns fits.worldCounts
  have inputs := returns_nat fits.inputFileCount
  show (do
    let timestamp ← nullable? timestamp? (ofJson (timestampOrNull header.timestamp))
    let timings ← list? PhaseTiming.ofDocument?
      (ofJson (.array (header.phaseTimings.map PhaseTiming.toJson)))
    let counts ← WorldCounts.ofDocument? (ofJson header.worldCounts.toJson)
    let inputs ← natUpTo? maxCount (ofJson (Json.nat header.inputFileCount))
    return (⟨header.compileId, timestamp, header.duration, timings, counts, inputs⟩ : Header)) = _
  rw [timestamp, timings, counts, inputs]
  rfl

theorem legible {header : Header} (fits : header.Fits)
    (rereads : ∀ duration ∈ header.durations, (Number.float duration).Rereads) :
    header.toJson.Legible := by
  obtain ⟨own, phases⟩ := List.forall_mem_cons.mp rereads
  have timestamp : (timestampOrNull header.timestamp).Legible := by
    cases found : header.timestamp with
    | none => exact .null
    | some time => exact legible_timestamp (fits.timestamp time found)
  have timings : (Json.array (header.phaseTimings.map PhaseTiming.toJson)).Legible := by
    refine .array fun item inside => ?_
    obtain ⟨timing, there, rfl⟩ := List.mem_map.mp inside
    exact PhaseTiming.legible (phases _ (List.mem_map_of_mem there))
  apply Json.Legible.object
  simp only [List.forall_mem_cons]
  exact ⟨.string _, timestamp, .number own, timings, WorldCounts.legible fits.worldCounts,
    legible_nat fits.inputFileCount, List.forall_mem_nil _⟩

theorem nested (header : Header) (depth : Nat) : header.toJson.Nested (depth + 3) := by
  have timestamp : (timestampOrNull header.timestamp).Nested (depth + 2) := by
    cases header.timestamp with
    | none => exact .null
    | some time => exact .number _
  have timings : (Json.array (header.phaseTimings.map PhaseTiming.toJson)).Nested (depth + 2) := by
    refine .array fun item inside => ?_
    obtain ⟨timing, there, rfl⟩ := List.mem_map.mp inside
    exact timing.nested depth
  apply Json.Nested.object
  simp only [List.forall_mem_cons]
  exact ⟨.string _, timestamp, .number _, timings, header.worldCounts.nested (depth + 1), .number _,
    List.forall_mem_nil _⟩

end Header

end LiveCompile
