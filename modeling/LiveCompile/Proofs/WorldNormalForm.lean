import LiveCompile.Proofs.WorldReread
import Mathlib.Data.List.Forall2

/-! The normal form of a world, said without the way to it: no collection is keyed by id, and no
location that stands in an array has exits keyed by direction. These payloads are the ones that
normalization leaves as they are, and all that it gives is among them. It touches nothing but the
three collections, and in a location that was a record already nothing but its exits. -/

namespace LiveCompile

def Json.isObject : Json → Bool
  | .object _ => true
  | _ => false

/-- The same names in the same order, with the same values but for some names. -/
def Fields.SameBut (changed : List String) (fields members : Fields Json) : Prop :=
  List.Forall₂ (fun entry image => image.1 = entry.1 ∧ (entry.1 ∉ changed → image.2 = entry.2))
    fields members

namespace World

/-- What has no exits keyed by direction. -/
def NormalLocation : Json → Prop
  | .object fields => ∀ exits, ("exits", exits) ∈ fields → exits.isObject = false
  | _ => True

/-- A world in normal form, or something that is no world. -/
def NormalForm : Json → Prop
  | .object fields =>
    (∀ name ∈ keyedCollections, ∀ collection, (name, collection) ∈ fields →
        collection.isObject = false) ∧
      ∀ locations, ("locations", .array locations) ∈ fields →
        ∀ location ∈ locations, NormalLocation location
  | _ => True

/-- A location that stood in an array already is a record as it was, but for its exits. -/
def KeptLocation (location record : Json) : Prop :=
  match location with
  | .object fields => ∃ members, record = .object members ∧ Fields.SameBut ["exits"] fields members
  | other => record = other

/-- What becomes of a member of a world. -/
structure Kept (member image : String × Json) : Prop where
  name : image.1 = member.1
  value : member.1 ∉ keyedCollections → image.2 = member.2
  locations : ∀ locations, member = ("locations", .array locations) →
    ∃ records, image.2 = .array records ∧ List.Forall₂ KeptLocation locations records

/-! Collections -/

section
variable (record : String → Json → Json) (collection : Json)

private theorem memberRecords_isObject : (memberRecords record collection).isObject = false := by
  cases collection <;> rfl

private theorem memberRecords_eq_self :
    memberRecords record collection = collection ↔ collection.isObject = false := by
  cases collection <;> simp [memberRecords, Json.isObject]

private theorem memberRecords_twice :
    memberRecords record (memberRecords record collection) = memberRecords record collection :=
  (memberRecords_eq_self ..).mpr (memberRecords_isObject ..)

end

/-! Members -/

private theorem map_eq_self {α : Type} {change : α → α} {items : List α} :
    items.map change = items ↔ ∀ item ∈ items, change item = item := by
  have pointwise := List.map_inj_left (l := items) (f := change) (g := id)
  rwa [List.map_id] at pointwise

section
variable {name : String} {change : Json → Json} {fields : Fields Json}

private theorem updateMember_eq_self :
    updateMember name change fields = fields ↔
      ∀ value, (name, value) ∈ fields → change value = value := by
  refine ⟨fun same value member => ?_, updateMember_fixed⟩
  have fixed := map_eq_self.mp same (name, value) member
  simpa using fixed

private theorem mem_updateMember {value : Json}
    (member : (name, value) ∈ updateMember name change fields) :
    ∃ old, (name, old) ∈ fields ∧ value = change old := by
  obtain ⟨⟨other, old⟩, inside, same⟩ := List.mem_map.mp member
  obtain ⟨rfl, rfl⟩ := Prod.mk.inj same
  exact ⟨old, inside, by simp⟩

private theorem sameBut_updateMember :
    Fields.SameBut [name] fields (updateMember name change fields) := by
  rw [Fields.SameBut, updateMember, List.forall₂_map_right_iff]
  refine List.forall₂_same.mpr fun entry _ => ⟨rfl, fun other => ?_⟩
  exact if_neg (by simpa using other)

end

/-! Locations -/

private theorem normalLocation_eq_self {location : Json} :
    normalLocation location = location ↔ NormalLocation location := by
  cases location with
  | object fields =>
    simp only [normalLocation, Json.object.injEq, updateMember_eq_self, exitsToPairs,
      memberRecords_eq_self, NormalLocation]
  | _ => simp [normalLocation, NormalLocation]

private theorem normalLocation_normal (location : Json) :
    NormalLocation (normalLocation location) := by
  cases location with
  | object fields =>
    intro exits member
    obtain ⟨old, _, rfl⟩ := mem_updateMember member
    exact memberRecords_isObject recordOfExit old
  | _ => trivial

private theorem normalLocation_kept (location : Json) :
    KeptLocation location (normalLocation location) := by
  cases location with
  | object fields => exact ⟨_, rfl, sameBut_updateMember⟩
  | _ => rfl

private theorem normalLocations_eq_self {collection : Json} :
    normalLocations collection = collection ↔
      ∀ locations, collection = .array locations → ∀ location ∈ locations, NormalLocation location := by
  cases collection with
  | array locations =>
    simp only [normalLocations, Json.array.injEq, map_eq_self, normalLocation_eq_self,
      forall_eq']
  | _ => simp [normalLocations]

/-! Worlds -/

/-- What normalization makes of a member of a world: a member is changed by its own name only, so the
passes over the members come together. -/
def normalMember (name : String) (value : Json) : Json :=
  if name = "locations" then normalLocations (keyedToRecords value)
  else if name ∈ keyedCollections then keyedToRecords value
  else value

theorem normalMember_locations :
    normalMember "locations" = fun value => normalLocations (keyedToRecords value) := rfl

theorem normalMember_keyed {name : String} (keyed : name ∈ keyedCollections)
    (unlocated : name ≠ "locations") : normalMember name = keyedToRecords := by
  funext value
  simp [normalMember, unlocated, keyed]

theorem normalMember_other {name : String} (other : name ∉ keyedCollections) :
    normalMember name = id := by
  funext value
  have located : name ≠ "locations" := by
    rintro rfl
    exact other (by simp [keyedCollections])
  simp [normalMember, located, other]

theorem normalized_object (fields : Fields Json) :
    normalized (.object fields) =
      .object (fields.map fun entry => (entry.1, normalMember entry.1 entry.2)) := by
  simp only [normalized, keyedCollections, List.foldl_cons, List.foldl_nil, updateMember,
    List.map_map, Json.object.injEq]
  refine List.map_congr_left fun entry _ => ?_
  obtain ⟨name, value⟩ := entry
  simp only [Function.comp_apply, normalMember, keyedCollections, List.mem_cons, List.not_mem_nil,
    or_false]
  by_cases entities : name = "entities"
  · simp [entities]
  · by_cases locations : name = "locations"
    · simp [locations]
    · by_cases exits : name = "exits" <;> simp [entities, locations, exits]

private theorem normalMember_eq_self {name : String} {value : Json} :
    normalMember name value = value ↔
      (name ∈ keyedCollections → value.isObject = false) ∧
        (name = "locations" → ∀ locations, value = .array locations →
          ∀ location ∈ locations, NormalLocation location) := by
  by_cases located : name = "locations"
  · subst located
    have keyed : "locations" ∈ keyedCollections := by simp [keyedCollections]
    rw [normalMember_locations]
    cases value with
    | object entries => simp [keyedToRecords, memberRecords, normalLocations, keyed, Json.isObject]
    | _ => simp [keyedToRecords, memberRecords, normalLocations_eq_self, Json.isObject]
  · by_cases keyed : name ∈ keyedCollections
    · rw [normalMember_keyed keyed located, keyedToRecords, memberRecords_eq_self]
      simp [keyed, located]
    · simp [normalMember_other keyed, keyed, located]

private theorem normalMember_twice (name : String) (value : Json) :
    normalMember name (normalMember name value) = normalMember name value := by
  rw [normalMember_eq_self]
  by_cases located : name = "locations"
  · subst located
    simp only [normalMember_locations, forall_const]
    have flat : (keyedToRecords value).isObject = false := memberRecords_isObject recordOfMember value
    cases collection : keyedToRecords value with
    | object entries => simp [collection, Json.isObject] at flat
    | array locations =>
      refine ⟨fun _ => rfl, fun records same location member => ?_⟩
      cases same
      obtain ⟨old, _, rfl⟩ := List.mem_map.mp member
      exact normalLocation_normal old
    | _ => exact ⟨fun _ => rfl, nofun⟩
  · refine ⟨fun keyed => ?_, fun same => absurd same located⟩
    rw [normalMember_keyed keyed located]
    exact memberRecords_isObject recordOfMember value

private theorem normalMember_kept (name : String) (value : Json) :
    Kept (name, value) (name, normalMember name value) := by
  refine ⟨rfl, fun other => ?_, fun locations same => ?_⟩
  · simp [normalMember_other other]
  · cases same
    refine ⟨locations.map normalLocation, rfl, ?_⟩
    rw [List.forall₂_map_right_iff]
    exact List.forall₂_same.mpr fun location _ => normalLocation_kept location

private theorem normalized_eq_self {payload : Json} :
    normalized payload = payload ↔ NormalForm payload := by
  cases payload with
  | object fields =>
    rw [normalized_object, Json.object.injEq, map_eq_self]
    constructor
    · intro fixed
      refine ⟨fun name keyed collection member => ?_, fun locations member => ?_⟩
      · have same := congrArg Prod.snd (fixed (name, collection) member)
        exact (normalMember_eq_self.mp same).1 keyed
      · have same := congrArg Prod.snd (fixed ("locations", .array locations) member)
        exact (normalMember_eq_self.mp same).2 rfl locations rfl
    · rintro ⟨unkeyed, located⟩ ⟨name, value⟩ member
      refine Prod.ext rfl (normalMember_eq_self.mpr ⟨fun keyed => unkeyed name keyed value member, ?_⟩)
      rintro rfl locations rfl
      exact located locations member
  | _ => simp [normalized, NormalForm]

theorem normalized_twice (payload : Json) : normalized (normalized payload) = normalized payload := by
  cases payload with
  | object fields =>
    rw [normalized_object, normalized_object, List.map_map]
    exact congrArg Json.object (List.map_congr_left fun entry _ =>
      congrArg (Prod.mk entry.1) (normalMember_twice entry.1 entry.2))
  | _ => rfl

/-- A payload is its own normal form exactly if it is in normal form, so normalizing again changes
nothing. The members of a world keep their names and their order, and their values as well but for the
three collections; a location that was a record already keeps every field but its exits. Collections
that were turned into records, and exits into pairs, are not turned again. -/
theorem normal_form (payload : Json) :
    normalized (normalized payload) = normalized payload ∧
      (normalized payload = payload ↔ NormalForm payload) ∧
      (match payload with
        | .object fields =>
          ∃ members, normalized payload = .object members ∧ List.Forall₂ Kept fields members
        | other => normalized payload = other) ∧
      keyedToRecords (keyedToRecords payload) = keyedToRecords payload ∧
      exitsToPairs (exitsToPairs payload) = exitsToPairs payload := by
  refine ⟨normalized_twice payload, normalized_eq_self, ?_,
    memberRecords_twice recordOfMember payload, memberRecords_twice recordOfExit payload⟩
  cases payload with
  | object fields =>
    refine ⟨_, normalized_object fields, ?_⟩
    rw [List.forall₂_map_right_iff]
    exact List.forall₂_same.mpr fun entry _ => normalMember_kept entry.1 entry.2
  | _ => rfl

end World

end LiveCompile
