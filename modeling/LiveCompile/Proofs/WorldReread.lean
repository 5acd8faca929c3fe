import LiveCompile.Chunk.World
import LiveCompile.Proofs.RecordReread

/-! A world is read back as it was written. What a world writes is in normal form already: its
collections and the exits of its locations are arrays. -/

namespace LiveCompile

open Document

private theorem proper_list {α : Type} {read : Document → Option α} {write : α → Json}
    {name : String} {fields : Fields Document} {values : List α}
    (each : ∀ {document value}, read document = some value → (write value).Proper)
    (found : fieldOr? fields name [] (list? read) = some values) :
    Json.Proper (.array (values.map write)) := by
  refine .array fun item member => ?_
  obtain ⟨value, inside, rfl⟩ := List.mem_map.mp member
  rcases fieldOr?_eq_some found with rfl | ⟨document, read⟩
  · cases inside
  · obtain ⟨_, there⟩ := read_of_list read value inside
    exact each there

namespace Entity

def slots (entity : Entity) : List (String × Option Json) :=
  [("id", some (.string entity.id)), ("name", entity.name.map .string),
    ("location", entity.location.map .string)]

theorem toJson_eq (entity : Entity) :
    entity.toJson = .object (written entity.slots ++ entity.extra) := by
  obtain ⟨id, name, location, extra⟩ := entity
  cases name <;> cases location <;> rfl

private theorem proper {document : Document} {entity : Entity}
    (read : ofDocument? document = some entity) : entity.toJson.Proper := by
  simp only [ofDocument?, Option.bind_eq_bind, Option.bind_eq_some_iff, Option.pure_def,
    Option.some.injEq] at read
  obtain ⟨fields, _, id, _, name, _, location, _, extra, others, rfl⟩ := read
  have layout : Layout (slots ⟨id, name, location, extra⟩) extra :=
    ⟨by simp [slots], extra_of_others? others⟩
  rw [toJson_eq]
  exact layout.proper (by decide) (by simp [Json.Proper.string])

private theorem rereads : Rereads ofDocument? toJson := by
  intro document entity read
  simp only [ofDocument?, Option.bind_eq_bind, Option.bind_eq_some_iff, Option.pure_def,
    Option.some.injEq] at read
  obtain ⟨fields, _, id, identified, name, named, location, located, extra, others, rfl⟩ := read
  have layout : Layout (slots ⟨id, name, location, extra⟩) extra :=
    ⟨by simp [slots], extra_of_others? others⟩
  have id' := layout.always rereads_string identified rfl (by simp [slots])
  have name' := layout.optional rereads_string string_filled named (by simp [slots])
  have location' := layout.optional rereads_string string_filled located (by simp [slots])
  have others' : others? _ ["id", "name", "location"] = _ := layout.others
  rw [Returns, toJson_eq]
  simp only [ofJson, ofFields, ofDocument?, optionalText?, members?, Option.bind_eq_bind,
    Option.bind_some, id', name', location', others']
  rfl

end Entity

namespace LocationExit

def slots (exit : LocationExit) : List (String × Option Json) :=
  [("direction", some (.string exit.direction)), ("target", some (.string exit.target))]

private theorem proper {document : Document} {exit : LocationExit}
    (read : ofDocument? document = some exit) : exit.toJson.Proper := by
  simp only [ofDocument?, Option.bind_eq_bind, Option.bind_eq_some_iff, Option.pure_def,
    Option.some.injEq] at read
  obtain ⟨fields, _, direction, _, target, _, extra, others, rfl⟩ := read
  have layout : Layout (slots ⟨direction, target, extra⟩) extra :=
    ⟨by simp [slots], extra_of_others? others⟩
  exact layout.proper (by decide) (by simp [Json.Proper.string])

private theorem rereads : Rereads ofDocument? toJson := by
  intro document exit read
  simp only [ofDocument?, Option.bind_eq_bind, Option.bind_eq_some_iff, Option.pure_def,
    Option.some.injEq] at read
  obtain ⟨fields, _, direction, directed, target, targeted, extra, others, rfl⟩ := read
  have layout : Layout (slots ⟨direction, target, extra⟩) extra :=
    ⟨by simp [slots], extra_of_others? others⟩
  have direction' := layout.always rereads_string directed rfl (by simp [slots])
  have target' := layout.always rereads_string targeted rfl (by simp [slots])
  have others' : others? _ ["direction", "target"] = _ := layout.others
  have same : toJson ⟨direction, target, extra⟩ =
      .object (written (slots ⟨direction, target, extra⟩) ++ extra) := rfl
  rw [Returns, same]
  simp only [ofJson, ofFields, ofDocument?, members?, Option.bind_eq_bind, Option.bind_some,
    direction', target', others']
  rfl

end LocationExit

namespace Location

def slots (location : Location) : List (String × Option Json) :=
  [("id", some (.string location.id)), ("name", location.name.map .string),
    ("description", location.description.map .string),
    ("exits", some (.array (location.exits.map LocationExit.toJson)))]

theorem toJson_eq (location : Location) :
    location.toJson = .object (written location.slots ++ location.extra) := by
  obtain ⟨id, name, description, exits, extra⟩ := location
  cases name <;> cases description <;> rfl

private theorem proper {document : Document} {location : Location}
    (read : ofDocument? document = some location) : location.toJson.Proper := by
  simp only [ofDocument?, Option.bind_eq_bind, Option.bind_eq_some_iff, Option.pure_def,
    Option.some.injEq] at read
  obtain ⟨fields, _, id, _, name, _, description, _, exits, left, extra, others, rfl⟩ := read
  have layout : Layout (slots ⟨id, name, description, exits, extra⟩) extra :=
    ⟨by simp [slots], extra_of_others? others⟩
  have exits' := proper_list LocationExit.proper left
  rw [toJson_eq]
  exact layout.proper (by decide) (by simp [Json.Proper.string, exits'])

private theorem rereads : Rereads ofDocument? toJson := by
  intro document location read
  simp only [ofDocument?, Option.bind_eq_bind, Option.bind_eq_some_iff, Option.pure_def,
    Option.some.injEq] at read
  obtain ⟨fields, _, id, identified, name, named, description, described, exits, left, extra, others,
    rfl⟩ := read
  have layout : Layout (slots ⟨id, name, description, exits, extra⟩) extra :=
    ⟨by simp [slots], extra_of_others? others⟩
  have id' := layout.always rereads_string identified rfl (by simp [slots])
  have name' := layout.optional rereads_string string_filled named (by simp [slots])
  have description' := layout.optional rereads_string string_filled described (by simp [slots])
  have exits' := layout.always (rereads_list LocationExit.rereads) left rfl (by simp [slots])
  have others' : others? _ ["id", "name", "description", "exits"] = _ := layout.others
  rw [Returns, toJson_eq]
  simp only [ofJson, ofFields, ofDocument?, optionalText?, members?, Option.bind_eq_bind,
    Option.bind_some, id', name', description', exits', others']
  rfl

end Location

namespace Exit

def slots (exit : Exit) : List (String × Option Json) :=
  [("id", some (.string exit.id)), ("from", exit.origin.map .string),
    ("to", exit.destination.map .string)]

theorem toJson_eq (exit : Exit) : exit.toJson = .object (written exit.slots ++ exit.extra) := by
  obtain ⟨id, origin, destination, extra⟩ := exit
  cases origin <;> cases destination <;> rfl

private theorem proper {document : Document} {exit : Exit}
    (read : ofDocument? document = some exit) : exit.toJson.Proper := by
  simp only [ofDocument?, Option.bind_eq_bind, Option.bind_eq_some_iff, Option.pure_def,
    Option.some.injEq] at read
  obtain ⟨fields, _, id, _, origin, _, destination, _, extra, others, rfl⟩ := read
  have layout : Layout (slots ⟨id, origin, destination, extra⟩) extra :=
    ⟨by simp [slots], extra_of_others? others⟩
  rw [toJson_eq]
  exact layout.proper (by decide) (by simp [Json.Proper.string])

private theorem rereads : Rereads ofDocument? toJson := by
  intro document exit read
  simp only [ofDocument?, Option.bind_eq_bind, Option.bind_eq_some_iff, Option.pure_def,
    Option.some.injEq] at read
  obtain ⟨fields, _, id, identified, origin, from', destination, to', extra, others, rfl⟩ := read
  have layout : Layout (slots ⟨id, origin, destination, extra⟩) extra :=
    ⟨by simp [slots], extra_of_others? others⟩
  have id' := layout.always rereads_string identified rfl (by simp [slots])
  have origin' := layout.optional rereads_string string_filled from' (by simp [slots])
  have destination' := layout.optional rereads_string string_filled to' (by simp [slots])
  have others' : others? _ ["id", "from", "to"] = _ := layout.others
  rw [Returns, toJson_eq]
  simp only [ofJson, ofFields, ofDocument?, optionalText?, members?, Option.bind_eq_bind,
    Option.bind_some, id', origin', destination', others']
  rfl

end Exit

namespace World

def slots (world : World) : List (String × Option Json) :=
  [("entities", some (.array (world.entities.map Entity.toJson))),
    ("locations", some (.array (world.locations.map Location.toJson))),
    ("exits", some (.array (world.exits.map Exit.toJson))),
    ("properties", some (.array world.properties)), ("rules", some (.array world.rules)),
    ("start", world.start.map .string)]

theorem toJson_eq (world : World) : world.toJson = .object (written world.slots ++ world.extra) := by
  obtain ⟨entities, locations, exits, properties, rules, start, extra⟩ := world
  cases start <;> rfl

theorem proper {document : Document} {world : World} (read : ofDocument? document = some world) :
    world.toJson.Proper := by
  simp only [ofDocument?, Option.bind_eq_bind, Option.bind_eq_some_iff, Option.pure_def,
    Option.some.injEq] at read
  obtain ⟨fields, _, entities, first, locations, second, exits, third, properties, fourth, rules,
    fifth, start, _, extra, others, rfl⟩ := read
  have layout : Layout (slots ⟨entities, locations, exits, properties, rules, start, extra⟩) extra :=
    ⟨by simp [slots], extra_of_others? others⟩
  have entities' := proper_list Entity.proper first
  have locations' := proper_list Location.proper second
  have exits' := proper_list Exit.proper third
  have properties' : Json.Proper (.array (properties.map id)) := proper_list proper_of_json? fourth
  have rules' : Json.Proper (.array (rules.map id)) := proper_list proper_of_json? fifth
  rw [List.map_id] at properties' rules'
  rw [toJson_eq]
  exact layout.proper (by decide)
    (by simp [Json.Proper.string, entities', locations', exits', properties', rules'])

theorem rereads : Rereads ofDocument? toJson := by
  intro document world read
  simp only [ofDocument?, Option.bind_eq_bind, Option.bind_eq_some_iff, Option.pure_def,
    Option.some.injEq] at read
  obtain ⟨fields, _, entities, first, locations, second, exits, third, properties, fourth, rules,
    fifth, start, sixth, extra, others, rfl⟩ := read
  have layout : Layout (slots ⟨entities, locations, exits, properties, rules, start, extra⟩) extra :=
    ⟨by simp [slots], extra_of_others? others⟩
  have entities' := layout.always (rereads_list Entity.rereads) first rfl (by simp [slots])
  have locations' := layout.always (rereads_list Location.rereads) second rfl (by simp [slots])
  have exits' := layout.always (rereads_list Exit.rereads) third rfl (by simp [slots])
  have properties' := layout.always (rereads_list rereads_json) fourth rfl (by simp [slots])
  have rules' := layout.always (rereads_list rereads_json) fifth rfl (by simp [slots])
  have start' := layout.optional rereads_string string_filled sixth (by simp [slots])
  have others' : others? _ fieldNames = _ := layout.others
  rw [Returns, toJson_eq]
  simp only [ofJson, ofFields, ofDocument?, optionalText?, members?, Option.bind_eq_bind,
    Option.bind_some, entities', locations', exits', properties', rules', start', others']
  rfl

theorem updateMember_fixed {name : String} {change : Json → Json} {fields : Fields Json}
    (fixed : ∀ value, (name, value) ∈ fields → change value = value) :
    updateMember name change fields = fields := by
  unfold updateMember
  refine List.map_congr_left (fun entry member => ?_) |>.trans (List.map_id _)
  obtain ⟨other, value⟩ := entry
  by_cases same : other = name
  · subst same
    simp [fixed value member]
  · simp [same]

private theorem held_by_slot {slots : List (String × Option Json)} {extra : Fields Json}
    {name : String} {value : Json} (apart : ∀ other ∈ Fields.names extra, other ∉ slots.map (·.1))
    (known : name ∈ slots.map (·.1)) (member : (name, value) ∈ written slots ++ extra) :
    (name, some value) ∈ slots := by
  rcases List.mem_append.mp member with own | beside
  · obtain ⟨⟨other, held⟩, inside, same⟩ := List.mem_filterMap.mp own
    obtain ⟨inner, rfl, same⟩ := Option.map_eq_some_iff.mp same
    cases same
    exact inside
  · exact absurd known (apart _ (Fields.mem_names beside))

private theorem normalLocation_toJson {document : Document} {location : Location}
    (read : Location.ofDocument? document = some location) :
    normalLocation location.toJson = location.toJson := by
  simp only [Location.ofDocument?, Option.bind_eq_bind, Option.bind_eq_some_iff, Option.pure_def,
    Option.some.injEq] at read
  obtain ⟨fields, _, id, _, name, _, description, _, exits, _, extra, others, rfl⟩ := read
  rw [Location.toJson_eq, normalLocation, updateMember_fixed]
  intro value member
  have held := held_by_slot (extra_of_others? others).apart (by simp [Location.slots]) member
  simp only [Location.slots, List.mem_cons, Prod.mk.injEq, String.reduceEq, false_and, true_and,
    Option.some.injEq, List.not_mem_nil, or_false, false_or] at held
  rw [held]
  rfl

theorem normalized_toJson {document : Document} {world : World}
    (read : ofDocument? document = some world) : normalized world.toJson = world.toJson := by
  simp only [ofDocument?, Option.bind_eq_bind, Option.bind_eq_some_iff, Option.pure_def,
    Option.some.injEq] at read
  obtain ⟨fields, _, entities, _, locations, located, exits, _, properties, _, rules, _, start, _,
    extra, others, rfl⟩ := read
  generalize whole : (⟨entities, locations, exits, properties, rules, start, extra⟩ : World) = world
  have apart : ∀ other ∈ Fields.names world.extra, other ∉ world.slots.map (·.1) := by
    subst whole
    exact (extra_of_others? others).apart
  have each : ∀ location ∈ world.locations, normalLocation location.toJson = location.toJson := by
    intro location member
    subst whole
    rcases fieldOr?_eq_some located with rfl | ⟨document, found⟩
    · cases member
    · obtain ⟨_, read⟩ := read_of_list found location member
      exact normalLocation_toJson read
  have keyed : ∀ name ∈ keyedCollections,
      updateMember name keyedToRecords (written world.slots ++ world.extra) =
        written world.slots ++ world.extra := by
    intro name collects
    refine updateMember_fixed fun value member => ?_
    simp only [keyedCollections, List.mem_cons, List.not_mem_nil, or_false] at collects
    have held := held_by_slot apart (by rcases collects with rfl | rfl | rfl <;> simp [slots]) member
    rcases collects with rfl | rfl | rfl <;>
      · simp [slots] at held
        rw [held]
        rfl
  have located' : updateMember "locations" normalLocations (written world.slots ++ world.extra) =
      written world.slots ++ world.extra := by
    refine updateMember_fixed fun value member => ?_
    have held := held_by_slot apart (by simp [slots]) member
    simp [slots] at held
    rw [held, normalLocations, List.map_map]
    exact congrArg Json.array (List.map_congr_left each)
  have entities' := keyed "entities" (by simp [keyedCollections])
  have locations' := keyed "locations" (by simp [keyedCollections])
  have exits' := keyed "exits" (by simp [keyedCollections])
  rw [toJson_eq]
  simp only [normalized, keyedCollections, List.foldl_cons, List.foldl_nil]
  rw [entities', locations', exits', located']

end World

end LiveCompile
