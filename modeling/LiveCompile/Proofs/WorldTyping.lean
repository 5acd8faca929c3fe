import LiveCompile.Cache
import LiveCompile.Proofs.WorldText

/-! What a typed world tells of the payload it was read from: a record for each one of the payload, in
the order of the payload, under its key if it has one. So nothing is lost, merged or renumbered on
the way through the normal form, and what is counted is what the payload holds. -/

namespace LiveCompile

open Document

def Json.member? (name : String) : Json → Option Json
  | .object fields => Fields.get? fields name
  | _ => none

namespace World

/-- What a collection of a payload holds, with its key if the collection is keyed. -/
structure Entry where
  key : Option String
  value : Json

def entries : Option Json → List Entry
  | some (.object fields) => fields.map fun (key, value) => ⟨some key, value⟩
  | some (.array items) => items.map fun item => ⟨none, item⟩
  | _ => []

/-- An entry as what is made of it under its key, if it has one. -/
def Entry.recordWith (record : String → Json → Json) : Entry → Json
  | ⟨some key, value⟩ => record key value
  | ⟨none, value⟩ => value

def Entry.record : Entry → Json := recordWith recordOfMember

def Entry.exitRecord : Entry → Json := recordWith recordOfExit

/-- The target in an exit under its direction: a bare exit is its own target. -/
def givenTarget? : Json → Option Json
  | .object fields => target? fields
  | exit => some exit

def readEntity? (record : Json) : Option Entity := Entity.ofDocument? (ofJson record)

def readLocation? (record : Json) : Option Location :=
  Location.ofDocument? (ofJson (normalLocation record))

def readExit? (record : Json) : Option Exit := Exit.ofDocument? (ofJson record)

/-- A typed record is what is read from its entry, and the key of the entry is its id. -/
structure Typed {α : Type} (read : Json → Option α) (id : α → String) (entry : Entry) (record : α) :
    Prop where
  built : read entry.record = some record
  id : ∀ key, entry.key = some key → id record = key

/-- A typed exit of a location is what is read from its entry, with the direction and the target that
an entry with a key has. -/
structure TypedExit (entry : Entry) (exit : LocationExit) : Prop where
  built : LocationExit.ofDocument? (ofJson entry.exitRecord) = some exit
  direction : ∀ direction, entry.key = some direction → exit.direction = direction
  target : ∀ direction, entry.key = some direction →
    (givenTarget? entry.value).getD (.string "") = .string exit.target

/-- A typed location has the exits of its entry, in order. -/
structure TypedLocation (entry : Entry) (location : Location) : Prop
    extends Typed readLocation? Location.id entry location where
  exits : List.Forall₂ TypedExit (entries (entry.value.member? "exits")) location.exits

/-- The typed records of a collection: one for each of its entries, in order. In a keyed collection
they differ by their ids and are found by the keys, and by nothing else. -/
structure Mirrors {α : Type} (typed : Entry → α → Prop) (id : α → String)
    (find? : String → Option α) (collection : Option Json) (records : List α) : Prop where
  each : List.Forall₂ typed (entries collection) records
  distinct : ∀ fields, collection = some (.object fields) → (records.map id).Nodup
  found : ∀ fields, collection = some (.object fields) → ∀ key value, (key, value) ∈ fields →
    ∃ record, find? key = some record ∧ typed ⟨some key, value⟩ record
  missing : ∀ fields, collection = some (.object fields) → ∀ key ∉ Fields.names fields,
    find? key = none

/-- The exits in a payload, those of locations among them. -/
def givenExits (payload : Json) : Nat :=
  let ofLocations := (entries (payload.member? "locations")).flatMap fun entry =>
    entries (entry.value.member? "exits")
  (entries (payload.member? "exits")).length + ofLocations.length

def givenCounts (payload : Json) : WorldCounts where
  entities := (entries (payload.member? "entities")).length
  locations := (entries (payload.member? "locations")).length
  exits := givenExits payload
  properties := (entries (payload.member? "properties")).length
  rules := (entries (payload.member? "rules")).length

end World

/-! Members -/

namespace Fields

variable {α β : Type} {fields : Fields α} {name : String} {value : α}

private theorem names_changed (change : String → α → β) :
    names (fields.map fun entry => (entry.1, change entry.1 entry.2)) = names fields := by
  rw [names, List.map_map]
  rfl

private theorem get?_changed (change : String → α → β) :
    get? (fields.map fun entry => (entry.1, change entry.1 entry.2)) name =
      (get? fields name).map (change name) := by
  induction fields with
  | nil => rfl
  | cons first rest ih =>
    obtain ⟨held, value⟩ := first
    rw [List.map_cons, get?_cons, get?_cons, ih]
    by_cases same : held = name
    · simp [same]
    · simp [same]

private theorem get?_filter {other : String} (different : other ≠ name) :
    get? (fields.filter (·.1 != other)) name = get? fields name := by
  induction fields with
  | nil => rfl
  | cons first rest ih =>
    obtain ⟨held, value⟩ := first
    by_cases same : held = other
    · subst same
      simp [get?_cons, different, ih]
    · simp [get?_cons, same, ih]

private theorem filter_distinct (distinct : (names fields).Nodup) :
    fields.filter (·.1 == name) = ((get? fields name).map (name, ·)).toList := by
  induction fields with
  | nil => rfl
  | cons first rest ih =>
    obtain ⟨held, value⟩ := first
    obtain ⟨new, later⟩ := List.nodup_cons.mp distinct
    rw [get?_cons]
    by_cases same : held = name
    · subst same
      simp [ih later, get?_absent new]
    · simp [same, ih later]

end Fields

section
variable {α : Type} {read : Document → Option α} {members : Fields Json} {name : String}

private theorem fieldOr?_fieldsOfJson (distinct : (Fields.names members).Nodup) (absent : α) :
    fieldOr? (fieldsOfJson members) name absent read =
      ((members.get? name).map fun value => read (ofJson value)).getD (some absent) := by
  have distinct' : (Fields.names (fieldsOfJson members)).Nodup := by rwa [names_fieldsOfJson]
  rw [fieldOr?, single?, Fields.filter_distinct distinct', get?_fieldsOfJson]
  cases members.get? name <;> rfl

private theorem list?_ofJson {value : Json} {values : List α}
    (found : list? read (ofJson value) = some values) :
    ∃ items, value = .array items ∧
      List.Forall₂ (fun item typed => read (ofJson item) = some typed) items values := by
  cases value with
  | array items =>
    have each : (itemsOfJson items).mapM read = some values := found
    have linked := forall₂_of_mapM each
    rw [itemsOfJson_eq, List.forall₂_map_left_iff] at linked
    exact ⟨items, rfl, linked⟩
  | _ => cases found

private theorem string?_ofJson {value : Json} {text : String}
    (found : string? (ofJson value) = some text) : value = .string text := by
  cases value with
  | string held => exact congrArg Json.string (Option.some.inj found)
  | _ => cases found

end

namespace World

section
variable {α : Type}

/-! Collections -/

private theorem read_entries {read : Document → Option α} {members : Fields Json} {name : String}
    {values : List α} {collection : Option Json} {change : Json → Json} {image : Entry → Json}
    (distinct : (Fields.names members).Nodup) (held : members.get? name = collection.map change)
    (split : ∀ value items, change value = .array items → items = (entries (some value)).map image)
    (found : fieldOr? (fieldsOfJson members) name [] (list? read) = some values) :
    List.Forall₂ (fun entry typed => read (ofJson (image entry)) = some typed)
      (entries collection) values := by
  rw [fieldOr?_fieldsOfJson distinct, held] at found
  cases collection with
  | none =>
    cases found
    exact .nil
  | some value =>
    obtain ⟨items, array, linked⟩ := list?_ofJson found
    rw [split value items array, List.forall₂_map_left_iff] at linked
    exact linked

private theorem memberRecords_entries {record : String → Json → Json} (value : Json)
    (items : List Json) (array : memberRecords record value = .array items) :
    items = (entries (some value)).map (Entry.recordWith record) := by
  cases value with
  | object fields =>
    obtain rfl := Json.array.inj array
    rw [entries, List.map_map]
    rfl
  | array records =>
    obtain rfl := Json.array.inj array
    rw [entries, List.map_map]
    exact (List.map_id _).symm
  | _ => cases array

private theorem normalLocations_entries (value : Json) (items : List Json)
    (array : normalLocations (keyedToRecords value) = .array items) :
    items = (entries (some value)).map fun entry => normalLocation entry.record := by
  cases records : keyedToRecords value with
  | array locations =>
    rw [records] at array
    obtain rfl := Json.array.inj array
    rw [memberRecords_entries value locations records, List.map_map]
    rfl
  | _ =>
    rw [records] at array
    cases array

private theorem entries_array (value : Json) (items : List Json) (array : value = .array items) :
    items = (entries (some value)).map Entry.value := by
  subst array
  rw [entries, List.map_map]
  exact (List.map_id _).symm

private theorem get?_updateMember {name : String} {change : Json → Json} {fields : Fields Json} :
    Fields.get? (updateMember name change fields) name = (fields.get? name).map change := by
  calc Fields.get? (updateMember name change fields) name
      = (fields.get? name).map fun value => if name = name then change value else value :=
        Fields.get?_changed fun other value => if other = name then change value else value
    _ = (fields.get? name).map change := by simp

/-! Keys -/

variable {id : α → String} {typed : Entry → α → Prop} {fields : Fields Json} {records : List α}

private theorem ids_eq_keys (each : List.Forall₂ typed (entries (some (.object fields))) records)
    (ids : ∀ key value record, typed ⟨some key, value⟩ record → id record = key) :
    records.map id = Fields.names fields := by
  rw [entries, List.forall₂_map_left_iff] at each
  induction each with
  | nil => rfl
  | @cons entry record rest later here _ ih =>
    rw [List.map_cons, Fields.names_cons, ids _ _ _ here, ih]

private theorem find?_key (each : List.Forall₂ typed (entries (some (.object fields))) records)
    (ids : ∀ key value record, typed ⟨some key, value⟩ record → id record = key)
    (distinct : (Fields.names fields).Nodup) {key : String} {value : Json}
    (member : (key, value) ∈ fields) :
    ∃ record, records.find? (id · == key) = some record ∧ typed ⟨some key, value⟩ record := by
  rw [entries, List.forall₂_map_left_iff] at each
  induction each with
  | nil => cases member
  | @cons entry record rest later here _ ih =>
    obtain ⟨new, others⟩ := List.nodup_cons.mp distinct
    rcases List.mem_cons.mp member with rfl | inside
    · have same := ids _ _ _ here
      exact ⟨record, by simp [same], here⟩
    · have different : id record ≠ key := by
        intro same
        have there : key ∈ Fields.names rest := Fields.mem_names inside
        have first : entry.1 = key := (ids _ _ _ here).symm.trans same
        rw [← first] at there
        exact new there
      rw [List.find?_cons_of_neg (by simpa using different)]
      exact ih others inside

private theorem find?_unkeyed (same : records.map id = Fields.names fields) {key : String}
    (unknown : key ∉ Fields.names fields) : records.find? (id · == key) = none := by
  rw [List.find?_eq_none]
  intro record member found
  have own : id record = key := by simpa using found
  exact unknown (same ▸ own ▸ List.mem_map_of_mem member)

theorem Mirrors.of_each {collection : Option Json}
    (each : List.Forall₂ typed (entries collection) records)
    (ids : ∀ key value record, typed ⟨some key, value⟩ record → id record = key)
    (distinct : ∀ fields, collection = some (.object fields) → (Fields.names fields).Nodup) :
    Mirrors typed id (fun key => records.find? (id · == key)) collection records := by
  refine ⟨each, ?_, ?_, ?_⟩
  · rintro fields rfl
    rw [ids_eq_keys each ids]
    exact distinct fields rfl
  · rintro fields rfl key value member
    exact find?_key each ids (distinct fields rfl) member
  · rintro fields rfl key unknown
    exact find?_unkeyed (ids_eq_keys each ids) unknown

end

/-! Proper values -/

section
variable {fields : Fields Json} {name : String} {payload value : Json}

private theorem proper_changed {change : String → Json → Json}
    (proper : Json.Proper (.object fields))
    (keeps : ∀ name value, value.Proper → (change name value).Proper) :
    Json.Proper (.object (fields.map fun entry => (entry.1, change entry.1 entry.2))) := by
  cases proper with
  | object distinct plain each =>
    refine .object ?_ ?_ fun entry member => ?_
    · rwa [Fields.names_changed]
    · rwa [Fields.names_changed]
    · obtain ⟨old, inside, rfl⟩ := List.mem_map.mp member
      exact keeps old.1 old.2 (each old inside)

private theorem proper_memberRecords {record : String → Json → Json} (proper : value.Proper)
    (keeps : ∀ name value, value.Proper → (record name value).Proper) :
    (memberRecords record value).Proper := by
  cases value with
  | object fields =>
    cases proper with
    | object distinct plain each =>
      refine .array fun item member => ?_
      obtain ⟨old, inside, rfl⟩ := List.mem_map.mp member
      exact keeps old.1 old.2 (each old inside)
  | _ => exact proper

private theorem proper_pair {first second : String} {left : Json} (apart : first ≠ second)
    (plain : first ≠ enclosingName) (here : left.Proper) (there : value.Proper) :
    Json.Proper (.object [(first, left), (second, value)]) :=
  .object (by simpa using apart) (by simpa using plain) (by simp [here, there])

private theorem proper_recordOfMember (key : String) (proper : value.Proper) :
    (recordOfMember key value).Proper := by
  have pair : Json.Proper (.object [("id", .string key), ("value", value)]) :=
    proper_pair (by simp) (by simp [enclosingName]) (.string key) proper
  cases proper with
  | @object fields distinct plain each =>
    have below : (Fields.names (fields.filter fun entry => entry.1 != "id")).Nodup :=
      (List.filter_sublist.map _).nodup distinct
    refine .object (List.nodup_cons.mpr ⟨?_, below⟩) (by simp [enclosingName]) fun entry member => ?_
    · intro there
      obtain ⟨entry, inside, same⟩ := List.mem_map.mp there
      simpa [same] using (List.mem_filter.mp inside).2
    · rcases List.mem_cons.mp member with rfl | inside
      · exact .string key
      · exact each entry (List.mem_filter.mp inside).1
  | null => exact .object (by simp) (by simp [enclosingName]) (by simp [Json.Proper.string])
  | _ => exact pair

private theorem proper_recordOfExit (direction : String) (proper : value.Proper) :
    (recordOfExit direction value).Proper := by
  have pair : Json.Proper (.object [("direction", .string direction), ("target", value)]) :=
    proper_pair (by simp) (by simp [enclosingName]) (.string direction) proper
  cases proper with
  | @object fields distinct plain each =>
    have complete := exitTarget_perm distinct
    have others : (Fields.names (exitTarget fields).2).Nodup := by
      have same : (Fields.names (exitTarget fields).2).Perm (Fields.names (otherFields fields)) :=
        complete.map _
      exact same.nodup_iff.mpr ((List.filter_sublist.map _).nodup distinct)
    have direction' : "direction" ∉ Fields.names (exitTarget fields).2 :=
      fun there => exitTarget_free distinct there (by simp [placed])
    have target' : "target" ∉ Fields.names (exitTarget fields).2 :=
      fun there => exitTarget_free distinct there (by simp [placed])
    rw [recordOfExit_object]
    refine .object ?_ (by simp [enclosingName]) fun entry member => ?_
    · cases target? fields with
      | none => exact List.nodup_cons.mpr ⟨direction', others⟩
      | some target =>
        refine List.nodup_cons.mpr ⟨fun there => ?_, List.nodup_cons.mpr ⟨target', others⟩⟩
        rcases List.mem_cons.mp there with same | inside
        · exact absurd same (by simp)
        · exact direction' inside
    · rcases List.mem_cons.mp member with rfl | inside
      · exact .string direction
      rcases List.mem_append.mp inside with own | beside
      · cases held : target? fields with
        | none =>
          rw [held] at own
          cases own
        | some target =>
          rw [held] at own
          obtain rfl := List.mem_singleton.mp own
          obtain ⟨name, given⟩ := mem_of_target? held
          exact each (name, target) given
      · have other := complete.mem_iff.mp beside
        exact each entry (List.mem_filter.mp other).1
  | _ => exact pair

private theorem proper_normalLocation (proper : value.Proper) : (normalLocation value).Proper := by
  cases value with
  | object fields =>
    let change (name : String) (value : Json) := if name = "exits" then exitsToPairs value else value
    have keeps : ∀ name value, value.Proper → (change name value).Proper := by
      intro name value inner
      by_cases exits : name = "exits"
      · simpa [change, exits, exitsToPairs] using
          proper_memberRecords inner fun direction _ => proper_recordOfExit direction
      · simpa [change, exits] using inner
    exact proper_changed proper keeps
  | _ => exact proper

private theorem proper_normalLocations (proper : value.Proper) :
    (normalLocations value).Proper := by
  cases value with
  | array locations =>
    cases proper with
    | array each =>
      refine .array fun item member => ?_
      obtain ⟨location, inside, rfl⟩ := List.mem_map.mp member
      exact proper_normalLocation (each location inside)
  | _ => exact proper

private theorem proper_normalized (proper : payload.Proper) : (normalized payload).Proper := by
  cases payload with
  | object fields =>
    rw [normalized_object]
    refine proper_changed proper fun name value inner => ?_
    have records := proper_memberRecords inner fun id _ => proper_recordOfMember id
    unfold normalMember
    split
    · exact proper_normalLocations records
    · split
      · exact records
      · exact inner
  | _ => exact proper

private theorem member?_proper (proper : payload.Proper)
    (held : payload.member? name = some value) : value.Proper := by
  cases proper with
  | object distinct plain each => exact each _ (Fields.mem_of_get? held)
  | _ => cases held

private theorem entries_proper (proper : payload.Proper) :
    ∀ entry ∈ entries (payload.member? name), entry.value.Proper := by
  intro entry member
  cases held : payload.member? name with
  | none =>
    rw [held] at member
    cases member
  | some collection =>
    rw [held] at member
    cases member?_proper proper held with
    | object distinct plain each =>
      obtain ⟨old, inside, rfl⟩ := List.mem_map.mp member
      exact each old inside
    | array each =>
      obtain ⟨item, inside, rfl⟩ := List.mem_map.mp member
      exact each item inside
    | _ => cases member

private theorem typed_each {α : Type} {read : Entry → Option α} {typed : Entry → α → Prop}
    {records : List α} (proper : payload.Proper)
    (each : List.Forall₂ (fun entry record => read entry = some record)
      (entries (payload.member? name)) records)
    (types : ∀ entry record, entry.value.Proper → read entry = some record → typed entry record) :
    List.Forall₂ typed (entries (payload.member? name)) records := by
  have both := (List.forall₂_and_left _ _).mpr ⟨entries_proper proper, each⟩
  exact both.imp fun entry record held => types entry record held.1 held.2

private theorem record_proper {entry : Entry} (proper : entry.value.Proper) :
    entry.record.Proper := by
  obtain ⟨key, value⟩ := entry
  cases key with
  | none => exact proper
  | some key => exact proper_recordOfMember key proper

end

/-! Records -/

private theorem distinct_of_proper {fields : Fields Json} (proper : Json.Proper (.object fields)) :
    (Fields.names fields).Nodup := by
  cases proper with
  | object distinct => exact distinct

private theorem recordOfMember_object (key : String) (value : Json) :
    ∃ others, recordOfMember key value = .object (("id", .string key) :: others) := by
  cases value <;> exact ⟨_, rfl⟩

private theorem normalLocation_object (key : String) (others : Fields Json) :
    normalLocation (.object (("id", .string key) :: others)) =
      .object (("id", .string key) :: updateMember "exits" exitsToPairs others) := by
  simp [normalLocation, updateMember]

section
variable {α : Type} {read : Document → Option α} {id : α → String} {entry : Entry}

/-- Records of a type have their id from one field. -/
def Identified (read : Document → Option α) (id : α → String) : Prop :=
  ∀ fields record, read (ofJson (.object fields)) = some record →
    fieldOr? (fieldsOfJson fields) "id" "" string? = some (id record)

private theorem identified_entity : Identified Entity.ofDocument? Entity.id := by
  intro fields entity built
  simp only [Entity.ofDocument?, ofJson, ofFields, members?, Option.bind_eq_bind,
    Option.bind_eq_some_iff, Option.pure_def, Option.some.injEq] at built
  obtain ⟨_, rfl, id, found, name, _, location, _, extra, _, rfl⟩ := built
  exact found

private theorem identified_location : Identified Location.ofDocument? Location.id := by
  intro fields location built
  simp only [Location.ofDocument?, ofJson, ofFields, members?, Option.bind_eq_bind,
    Option.bind_eq_some_iff, Option.pure_def, Option.some.injEq] at built
  obtain ⟨_, rfl, id, found, name, _, description, _, exits, _, extra, _, rfl⟩ := built
  exact found

private theorem identified_exit : Identified Exit.ofDocument? Exit.id := by
  intro fields exit built
  simp only [Exit.ofDocument?, ofJson, ofFields, members?, Option.bind_eq_bind,
    Option.bind_eq_some_iff, Option.pure_def, Option.some.injEq] at built
  obtain ⟨_, rfl, id, found, origin, _, destination, _, extra, _, rfl⟩ := built
  exact found

/-- The key is the first field of a record, so it is the id that is read, whatever is done to the
other fields before. -/
theorem id_eq_key (identified : Identified read id) (prepare : Json → Json)
    (keeps : ∀ value, value.Proper → (prepare value).Proper)
    (first : ∀ key others, ∃ prepared, prepare (.object (("id", .string key) :: others)) =
      .object (("id", .string key) :: prepared))
    (proper : entry.value.Proper) {record : α}
    (built : read (ofJson (prepare entry.record)) = some record) :
    ∀ key, entry.key = some key → id record = key := by
  obtain ⟨_, value⟩ := entry
  rintro key rfl
  obtain ⟨others, object⟩ := recordOfMember_object key value
  obtain ⟨prepared, same⟩ := first key others
  have whole := keeps _ (proper_recordOfMember key proper)
  rw [object, same] at whole
  rw [Entry.record, Entry.recordWith, object, same] at built
  have found := identified _ _ built
  rw [fieldOr?_fieldsOfJson (distinct_of_proper whole), Fields.get?_cons, if_pos rfl] at found
  exact (Option.some.inj found).symm

end

private theorem typed_record {α : Type} {read : Document → Option α} {id : α → String}
    (identified : Identified read id) {entry : Entry} {record : α} (proper : entry.value.Proper)
    (built : read (ofJson entry.record) = some record) :
    Typed (fun record => read (ofJson record)) id entry record :=
  ⟨built, id_eq_key identified (fun value => value) (fun _ whole => whole)
    (fun _ others => ⟨others, rfl⟩) proper built⟩

private theorem recordOfExit_target (direction : String) {exit : Json} (proper : exit.Proper) :
    ∃ others, recordOfExit direction exit = .object (("direction", .string direction) :: others) ∧
      Fields.get? others "target" = givenTarget? exit := by
  cases proper with
  | @object fields distinct plain each =>
    refine ⟨_, recordOfExit_object direction fields, ?_⟩
    rw [givenTarget?]
    cases target? fields with
    | none =>
      refine Fields.get?_absent fun there => ?_
      exact exitTarget_free distinct there (by simp [placed])
    | some target => exact (Fields.get?_cons ..).trans (if_pos rfl)
  | _ => exact ⟨_, rfl, rfl⟩

private theorem typed_locationExit {entry : Entry} {exit : LocationExit}
    (proper : entry.value.Proper)
    (built : LocationExit.ofDocument? (ofJson entry.exitRecord) = some exit) : TypedExit entry exit := by
  suffices both : ∀ direction, entry.key = some direction → exit.direction = direction ∧
      (givenTarget? entry.value).getD (.string "") = .string exit.target from
    ⟨built, fun direction own => (both direction own).1, fun direction own => (both direction own).2⟩
  obtain ⟨_, value⟩ := entry
  rintro direction rfl
  obtain ⟨others, object, target⟩ := recordOfExit_target direction proper
  have whole := proper_recordOfExit direction proper
  rw [object] at whole
  rw [Entry.exitRecord, Entry.recordWith, object] at built
  simp only [LocationExit.ofDocument?, ofJson, ofFields, members?, Option.bind_eq_bind,
    Option.bind_eq_some_iff, Option.pure_def, Option.some.injEq] at built
  obtain ⟨_, rfl, direction, directed, text, targeted, extra, _, rfl⟩ := built
  rw [fieldOr?_fieldsOfJson (distinct_of_proper whole), Fields.get?_cons, if_pos rfl] at directed
  refine ⟨(Option.some.inj directed).symm, ?_⟩
  rw [fieldOr?_fieldsOfJson (distinct_of_proper whole), Fields.get?_cons, if_neg (by simp),
    target] at targeted
  cases given : givenTarget? value with
  | none =>
    rw [given] at targeted
    exact congrArg Json.string (Option.some.inj targeted)
  | some held =>
    rw [given] at targeted
    exact string?_ofJson targeted

private theorem record_exits (entry : Entry) :
    entry.record.member? "exits" = entry.value.member? "exits" := by
  obtain ⟨key, value⟩ := entry
  cases key with
  | none => rfl
  | some key =>
    cases value with
    | object fields =>
      have other : "id" ≠ "exits" := by simp
      calc Fields.get? (("id", .string key) :: fields.filter (·.1 != "id")) "exits"
          = Fields.get? (fields.filter (·.1 != "id")) "exits" := by rw [Fields.get?_cons, if_neg other]
        _ = Fields.get? fields "exits" := Fields.get?_filter other
    | _ => rfl

private theorem read_exits {record : Json} {location : Location} (proper : record.Proper)
    (built : readLocation? record = some location) :
    List.Forall₂ (fun entry exit => LocationExit.ofDocument? (ofJson entry.exitRecord) = some exit)
      (entries (record.member? "exits")) location.exits := by
  cases record with
  | object fields =>
    have whole := proper_normalLocation proper
    simp only [readLocation?, normalLocation, Location.ofDocument?, ofJson, ofFields, members?,
      Option.bind_eq_bind, Option.bind_eq_some_iff, Option.pure_def, Option.some.injEq] at built
    obtain ⟨_, rfl, id, _, name, _, description, _, exits, found, extra, _, rfl⟩ := built
    exact read_entries (distinct_of_proper whole) get?_updateMember memberRecords_entries found
  | _ => cases built

private theorem typed_location {entry : Entry} {location : Location} (proper : entry.value.Proper)
    (built : readLocation? entry.record = some location) : TypedLocation entry location := by
  have exits := read_exits (record_proper proper) built
  rw [record_exits] at exits
  refine ⟨⟨built, ?_⟩, typed_each proper exits fun _ _ => typed_locationExit⟩
  exact id_eq_key identified_location normalLocation (fun _ => proper_normalLocation)
    (fun key others => ⟨_, normalLocation_object key others⟩) proper built

/-! Worlds -/

/-- What the typed world is read from, collection by collection. -/
structure ReadFrom (payload : Json) (world : World) : Prop where
  entities : List.Forall₂ (Typed readEntity? Entity.id)
    (entries (payload.member? "entities")) world.entities
  locations : List.Forall₂ TypedLocation (entries (payload.member? "locations")) world.locations
  exits : List.Forall₂ (Typed readExit? Exit.id) (entries (payload.member? "exits")) world.exits
  properties : (entries (payload.member? "properties")).length = world.properties.length
  rules : (entries (payload.member? "rules")).length = world.rules.length

private theorem readFrom_of_read {payload : Json} {world : World} (proper : payload.Proper)
    (read : ofDocument? (ofJson (normalized payload)) = some world) : ReadFrom payload world := by
  cases payload with
  | object fields =>
    have whole := proper_normalized proper
    rw [normalized_object] at whole read
    have distinct := distinct_of_proper whole
    simp only [ofDocument?, ofJson, ofFields, members?, Option.bind_eq_bind,
      Option.bind_eq_some_iff, Option.pure_def, Option.some.injEq] at read
    obtain ⟨_, rfl, entities, first, locations, second, exits, third, properties, fourth, rules,
      fifth, start, _, extra, _, rfl⟩ := read
    have held {name : String} {change : Json → Json} (same : normalMember name = change) :
        Fields.get? (fields.map fun entry => (entry.1, normalMember entry.1 entry.2)) name =
          (Fields.get? fields name).map change := same ▸ Fields.get?_changed normalMember
    have keyed {name : String} (among : name ∈ keyedCollections) (unlocated : name ≠ "locations") :=
      held (normalMember_keyed among unlocated)
    have plain {name : String} (other : name ∉ keyedCollections) := held (normalMember_other other)
    have entities' := read_entries distinct (keyed (by simp [keyedCollections]) (by simp))
      memberRecords_entries first
    have locations' := read_entries distinct (held normalMember_locations) normalLocations_entries second
    have exits' := read_entries distinct (keyed (by simp [keyedCollections]) (by simp))
      memberRecords_entries third
    have properties' := read_entries distinct (plain (by simp [keyedCollections]))
      entries_array fourth
    have rules' := read_entries distinct (plain (by simp [keyedCollections])) entries_array fifth
    exact ⟨typed_each proper entities' fun _ _ => typed_record identified_entity,
      typed_each proper locations' fun _ _ => typed_location,
      typed_each proper exits' fun _ _ => typed_record identified_exit,
      properties'.length_eq, rules'.length_eq⟩
  | _ => cases read

private theorem distinct_keys {payload : Json} (proper : payload.Proper) {name : String}
    (fields : Fields Json)
    (held : payload.member? name = some (.object fields)) : (Fields.names fields).Nodup :=
  distinct_of_proper (member?_proper proper held)

private theorem foldl_exits {given : List Entry} {locations : List Location}
    (each : List.Forall₂ TypedLocation given locations) (count : Nat) :
    locations.foldl (fun count location => count + location.exits.length) count =
      count + (given.flatMap fun entry => entries (entry.value.member? "exits")).length := by
  induction each generalizing count with
  | nil => rfl
  | @cons entry location rest later here _ ih =>
    rw [List.foldl_cons, ih, List.flatMap_cons, List.length_append, here.exits.length_eq,
      Nat.add_assoc]

namespace ReadFrom

variable {payload : Json} {world : World}

private theorem exitCount (source : ReadFrom payload world) :
    world.exitCount = givenExits payload := by
  rw [World.exitCount, foldl_exits source.locations, givenExits, source.exits.length_eq, Nat.zero_add]

private theorem counts (source : ReadFrom payload world) :
    WorldCounts.ofWorld world = givenCounts payload := by
  rw [WorldCounts.ofWorld, givenCounts, source.exitCount, source.entities.length_eq,
    source.locations.length_eq, source.properties, source.rules]

end ReadFrom

end World

namespace ResolvedWorld

open World

/-- A typed world agrees with its payload. Its entities, locations and exits are those of the payload,
one by one and in order; in a keyed collection they bear the keys, whatever the payload calls them,
and are found by them alone. So are the exits of each location, with the targets that are given.
What is counted in the world is what the payload holds, and the normal form of the payload is read as
the same world, from its text too if its numbers are read as they are written and it is not too
deep; it is one level deeper than the payload at most. -/
theorem mirrors_payload {document : Document} {resolved : ResolvedWorld}
    (read : ofDocument? document = some resolved) :
    document.json? = some resolved.payload ∧
      Mirrors (Typed readEntity? Entity.id) Entity.id resolved.world.entity?
        (resolved.payload.member? "entities") resolved.world.entities ∧
      Mirrors TypedLocation Location.id resolved.world.location?
        (resolved.payload.member? "locations") resolved.world.locations ∧
      Mirrors (Typed readExit? Exit.id) Exit.id (fun id => resolved.world.exits.find? (·.id == id))
        (resolved.payload.member? "exits") resolved.world.exits ∧
      resolved.world.exitCount = givenExits resolved.payload ∧
      (∀ output : ResolvedOutput, output.world = resolved →
        output.worldCounts = givenCounts resolved.payload) ∧
      ofDocument? (ofJson (normalized resolved.payload)) =
        some ⟨resolved.world, normalized resolved.payload⟩ ∧
      (∀ depth, resolved.payload.Readable depth →
        (normalized resolved.payload).Readable (depth + 1)) ∧
      ((normalized resolved.payload).Readable depthLimit →
        (read? (normalized resolved.payload).text).bind ofDocument? =
          some ⟨resolved.world, normalized resolved.payload⟩) := by
  obtain ⟨payload, valued, found⟩ := Option.bind_eq_some_iff.mp read
  obtain ⟨world, typing, same⟩ := Option.bind_eq_some_iff.mp found
  obtain rfl : (⟨world, payload⟩ : ResolvedWorld) = resolved := Option.some.inj same
  have proper := proper_of_json? valued
  have source := readFrom_of_read proper typing
  have again : ofDocument? (ofJson (normalized payload)) = some ⟨world, normalized payload⟩ := by
    have given : (ofJson (normalized payload)).json? = some (normalized payload) :=
      json?_ofJson (proper_normalized proper)
    simp only [ofDocument?, given, ofPayload?, normalized_twice, typing, Option.bind_eq_bind,
      Option.bind_some, Option.pure_def]
  refine ⟨valued, ?_, ?_, ?_, source.exitCount, ?_, again, fun depth => readable_normalized,
    fun readable => (read?_text blind readable).trans again⟩
  · exact .of_each source.entities (fun key _ _ typed => typed.id key rfl) (distinct_keys proper)
  · exact .of_each source.locations (fun key _ _ typed => typed.id key rfl) (distinct_keys proper)
  · exact .of_each source.exits (fun key _ _ typed => typed.id key rfl) (distinct_keys proper)
  · intro output held
    rw [ResolvedOutput.worldCounts, held, source.counts]

def grounds : Json := .object
  [("entities", .array [.object [("id", .string "lamp")], .object [("id", .string "lamp")]]),
    ("locations", .object
      [("hall", .object [("id", .string "den"), ("exits", .object
          [("up", .string "attic"), ("north", .object [("locked", .bool true), ("to", .string "yard")]),
            ("down", .object [])])]),
        ("yard", .null)]),
    ("exits", .object [("trapdoor", .object [("to", .string "hall")])])]

/-- Entities in an array may share an id; a location is found under its key, not under the id that the
payload gives it. -/
theorem mirrors_payload_keyed :
    ∃ resolved, ofDocument? (ofJson grounds) = some resolved ∧
      resolved.world.entities.map (·.id) = ["lamp", "lamp"] ∧
      resolved.world.locations.map (fun location => (location.id, location.exits.map fun exit =>
        (exit.direction, exit.target))) =
          [("hall", [("up", "attic"), ("north", "yard"), ("down", "")]), ("yard", [])] ∧
      givenCounts resolved.payload = ⟨2, 2, 4, 0, 0⟩ ∧
      resolved.world.exitCount = 4 ∧ resolved.world.location? "den" = none ∧
      (∀ output : ResolvedOutput, output.world = resolved → output.worldCounts = ⟨2, 2, 4, 0, 0⟩) ∧
      ofDocument? (ofJson (normalized resolved.payload)) =
        some ⟨resolved.world, normalized resolved.payload⟩ ∧
      (read? (normalized resolved.payload).text).bind ofDocument? =
        some ⟨resolved.world, normalized resolved.payload⟩ := by
  have read : ofDocument? (ofJson grounds) = some _ := rfl
  have shallow : grounds.Readable 5 := by simp [grounds]
  obtain ⟨_, _, locations, _, exits, counts, again, deepens, reread⟩ := mirrors_payload read
  exact ⟨_, read, rfl, rfl, rfl, exits, locations.missing _ rfl "den" (by decide), counts, again,
    reread ((deepens 5 shallow).mono (by decide))⟩

end ResolvedWorld

end LiveCompile
