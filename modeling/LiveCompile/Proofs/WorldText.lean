import LiveCompile.Proofs.DetachedReading
import LiveCompile.Proofs.ExitRecords

/-! The normal form of a world as a text. Normalization makes up no numbers, but a record or an exit
that was no object comes to stand in one. So the normal form is one level deeper than the payload at
most, and is read from its text where that level was left. -/

namespace LiveCompile

open Document

namespace World

section
variable {depth : Nat} {value : Json} {fields : Fields Json}

private theorem readable_recordOfObject (key : String)
    (readable : Json.Readable depth (.object fields)) :
    (recordOfMember key (.object fields)).Readable depth := by
  obtain ⟨inner, rfl, each⟩ := readable.of_object
  refine Json.Readable.object_iff.mpr fun entry member => ?_
  rcases List.mem_cons.mp member with rfl | inside
  · exact .string key
  · exact each entry (List.mem_filter.mp inside).1

private theorem readable_recordOfMember (key : String) (readable : value.Readable depth) :
    (recordOfMember key value).Readable (depth + 1) := by
  cases value with
  | object fields => exact (readable_recordOfObject key readable).mono (Nat.le_succ depth)
  | null => simp [recordOfMember]
  | _ => exact .pair "id" key "value" readable

private theorem readable_recordOfExit (direction : String) (readable : value.Readable depth) :
    (recordOfExit direction value).Readable (depth + 1) := by
  cases value with
  | object fields =>
    obtain ⟨inner, rfl, each⟩ := readable.of_object
    rw [recordOfExit_object]
    refine Json.Readable.mono (Json.Readable.object_iff.mpr fun entry member => ?_) (Nat.le_succ _)
    rcases List.mem_cons.mp member with rfl | inside
    · exact .string direction
    rcases List.mem_append.mp inside with own | beside
    · cases held : target? fields with
      | none =>
        rw [held] at own
        cases own
      | some target =>
        rw [held] at own
        obtain rfl := List.mem_singleton.mp own
        obtain ⟨name, given⟩ := mem_of_target? held
        exact each (name, target) given
    · rw [exitTarget_others] at beside
      exact each entry (Fields.mem_of_takeOut beside)
  | _ => exact .pair "direction" direction "target" readable

/-- A change of values that takes one more level. -/
def Deepens (change : String → Json → Json) : Prop :=
  ∀ {depth value} name, value.Readable depth → (change name value).Readable (depth + 1)

variable {change : String → Json → Json}

private theorem readable_memberRecords (readable : value.Readable depth) (deepens : Deepens change) :
    (memberRecords change value).Readable (depth + 1) := by
  cases value with
  | object fields =>
    obtain ⟨inner, rfl, each⟩ := readable.of_object
    refine Json.Readable.array_iff.mpr fun item member => ?_
    obtain ⟨entry, inside, rfl⟩ := List.mem_map.mp member
    exact deepens entry.1 (each entry inside)
  | _ => exact readable.mono (Nat.le_succ depth)

private theorem readable_changed
    (readable : Json.Readable depth (.object fields)) (deepens : Deepens change) :
    Json.Readable (depth + 1)
      (.object (fields.map fun entry => (entry.1, change entry.1 entry.2))) := by
  obtain ⟨inner, rfl, each⟩ := readable.of_object
  refine Json.Readable.object_iff.mpr fun entry member => ?_
  obtain ⟨old, inside, rfl⟩ := List.mem_map.mp member
  exact deepens old.1 (each old inside)

private theorem readable_normalLocation (readable : value.Readable depth) :
    (normalLocation value).Readable (depth + 1) := by
  cases value with
  | object fields =>
    let change (name : String) (value : Json) :=
      if name = "exits" then exitsToPairs value else value
    have deepens : Deepens change := by
      intro depth value name inner
      by_cases exits : name = "exits"
      · simpa [change, exits, exitsToPairs] using readable_memberRecords inner readable_recordOfExit
      · simpa [change, exits] using inner.mono (Nat.le_succ depth)
    exact readable_changed readable deepens
  | _ => exact readable.mono (Nat.le_succ depth)

/-- A location that was put into a record has no exits, so it gets one level at most. -/
theorem readable_locationOfMember (key : String) (readable : value.Readable depth) :
    (normalLocation (recordOfMember key value)).Readable (depth + 1) := by
  have record := readable_recordOfMember key readable
  cases value with
  | object fields => exact readable_normalLocation (readable_recordOfObject key readable)
  | _ => exact record

private theorem readable_normalLocations (readable : value.Readable depth) :
    (normalLocations (keyedToRecords value)).Readable (depth + 1) := by
  cases value with
  | object fields =>
    have located := readable_memberRecords readable readable_locationOfMember
    simpa [keyedToRecords, memberRecords, normalLocations, Function.comp_def] using located
  | array locations =>
    obtain ⟨inner, rfl, each⟩ := readable.of_array
    refine Json.Readable.array_iff.mpr fun item member => ?_
    obtain ⟨location, inside, rfl⟩ := List.mem_map.mp member
    exact readable_normalLocation (each location inside)
  | _ => exact readable.mono (Nat.le_succ depth)

private theorem readable_normalMember (name : String) (readable : value.Readable depth) :
    (normalMember name value).Readable (depth + 1) := by
  unfold normalMember
  split
  · exact readable_normalLocations readable
  · split
    · exact readable_memberRecords readable readable_recordOfMember
    · exact readable.mono (Nat.le_succ depth)

/-- The normal form of a payload is one level deeper at most. -/
theorem readable_normalized (readable : value.Readable depth) :
    (normalized value).Readable (depth + 1) := by
  cases value with
  | object fields =>
    rw [normalized_object]
    exact readable_changed readable readable_normalMember
  | _ => exact readable.mono (Nat.le_succ depth)

end

end World

theorem ResolvedWorld.blind : Blind ofDocument? := blind_json.bind _

end LiveCompile
