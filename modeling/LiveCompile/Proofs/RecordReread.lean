import LiveCompile.Proofs.JsonReread

/-! Records that are read back as they were written. A record writes a member for each of its fields
that has a value, and then the members that it keeps beside them. -/

namespace LiveCompile

open Document

section
variable {α : Type}

/-- A value is read back as it was written. -/
def Returns (read : Document → Option α) (write : α → Json) (value : α) : Prop :=
  read (ofJson (write value)) = some value

/-- Every value that is read is read back as it was written. -/
def Rereads (read : Document → Option α) (write : α → Json) : Prop :=
  ∀ document value, read document = some value → Returns read write value

theorem rereads_string : Rereads string? .string := fun _ _ _ => rfl

theorem rereads_natUpTo (bound : Nat) : Rereads (natUpTo? bound) Json.nat := by
  intro document value read
  obtain ⟨number, _, fits⟩ := Option.bind_eq_some_iff.mp read
  have small : value ≤ bound := by
    unfold Number.natUpTo? at fits
    split at fits
    · split at fits
      · cases fits
        assumption
      · cases fits
    · cases fits
  simp [Returns, natUpTo?, number?, Json.nat, ofJson, Number.natUpTo?, small]

theorem string_filled (text : String) : ofJson (.string text) ≠ .null := Document.noConfusion

theorem nat_filled (number : Nat) : ofJson (Json.nat number) ≠ .null := Document.noConfusion

theorem rereads_json : Rereads json? id :=
  fun _ _ read => json?_ofJson (proper_of_json? read)

theorem mapM_returns {read : Document → Option α} {write : α → Json} {values : List α}
    (each : ∀ value ∈ values, Returns read write value) :
    (itemsOfJson (values.map write)).mapM read = some values := by
  induction values with
  | nil => rfl
  | cons first rest ih =>
    obtain ⟨here, later⟩ := List.forall_mem_cons.mp each
    rw [Returns] at here
    simp [itemsOfJson, here, ih later]

theorem of_mapM {β : Type} {read : α → Option β} {items : List α} {values : List β}
    (found : items.mapM read = some values) :
    ∀ value ∈ values, ∃ item ∈ items, read item = some value := by
  induction items generalizing values with
  | nil =>
    cases found
    simp
  | cons first rest ih =>
    simp only [List.mapM_cons, Option.bind_eq_bind, Option.bind_eq_some_iff, Option.pure_def,
      Option.some.injEq] at found
    obtain ⟨value, here, others, later, rfl⟩ := found
    refine List.forall_mem_cons.mpr ⟨⟨first, List.mem_cons_self, here⟩, fun other member => ?_⟩
    obtain ⟨item, inside, read⟩ := ih later other member
    exact ⟨item, List.mem_cons_of_mem _ inside, read⟩

theorem isSome_mapM {β : Type} {read : α → Option β} {items : List α} :
    (items.mapM read).isSome = true ↔ ∀ item ∈ items, (read item).isSome = true := by
  induction items with
  | nil => simp
  | cons first rest ih =>
    rw [List.forall_mem_cons, ← ih, List.mapM_cons]
    cases read first <;> cases rest.mapM read <;> simp

theorem read_of_list {read : Document → Option α} {document : Document} {values : List α}
    (found : list? read document = some values) :
    ∀ value ∈ values, ∃ item, read item = some value := by
  intro value member
  cases document with
  | array span items =>
    obtain ⟨item, _, read⟩ := of_mapM found value member
    exact ⟨item, read⟩
  | _ => cases found

theorem rereads_list {read : Document → Option α} {write : α → Json} (each : Rereads read write) :
    Rereads (list? read) (fun values => .array (values.map write)) := by
  intro document values found
  refine mapM_returns fun value member => ?_
  obtain ⟨item, read⟩ := read_of_list found value member
  exact each item value read

/-! Fields -/

section
variable {fields : Fields Document} {name : String} {read : Document → Option α} {write : α → Json}

theorem fieldOr?_eq_some {absent value : α} (found : fieldOr? fields name absent read = some value) :
    value = absent ∨ ∃ document, read document = some value := by
  obtain ⟨member, _, found⟩ := Option.bind_eq_some_iff.mp found
  cases member with
  | none => exact .inl (Option.some.inj found).symm
  | some document => exact .inr ⟨document, found⟩

theorem Rereads.field {absent value : α} (rereads : Rereads read write)
    (base : Returns read write absent) (found : fieldOr? fields name absent read = some value) :
    Returns read write value := by
  rcases fieldOr?_eq_some found with rfl | ⟨document, there⟩
  · exact base
  · exact rereads document value there

theorem Rereads.optional {value : Option α} (rereads : Rereads read write)
    (found : fieldOr? fields name none (nullable? read) = some value) :
    ∀ inner, value = some inner → Returns read write inner := by
  rintro inner rfl
  rcases fieldOr?_eq_some found with absent | ⟨document, there⟩
  · cases absent
  · unfold nullable? at there
    split at there
    · cases there
    · obtain ⟨other, found, same⟩ := Option.map_eq_some_iff.mp there
      cases same
      exact rereads document _ found

end

end

/-! The members of a record -/

/-- The members that are written: those fields that have a value. -/
def written (slots : List (String × Option Json)) : Fields Json :=
  slots.filterMap fun (name, value) => value.map (name, ·)

/-- What a record keeps beside its fields. -/
structure Extra (known : List String) (extra : Fields Json) : Prop where
  distinct : (Fields.names extra).Nodup
  apart : ∀ name ∈ Fields.names extra, name ∉ known
  proper : ∀ entry ∈ extra, entry.2.Proper

theorem extra_of_others? {fields : Fields Document} {known : List String} {extra : Fields Json}
    (found : others? fields known = some extra) : Extra known extra := by
  obtain ⟨members, values, same⟩ := Option.bind_eq_some_iff.mp found
  cases same
  have names := names_fieldValuesWith? values
  refine ⟨Fields.distinct_ofList members, fun name member => ?_, fun entry member => ?_⟩
  · obtain ⟨entry, inside, rfl⟩ := List.mem_map.mp member
    have there := Fields.mem_names (Fields.mem_ofList inside)
    rw [names] at there
    obtain ⟨other, kept, same⟩ := List.mem_map.mp there
    rw [← same]
    simpa using (List.mem_filter.mp kept).2
  · exact proper_of_fieldValuesWith? (fun _ _ => proper_of_enclosedValue? _) _ values entry
      (Fields.mem_ofList member)

/-- A record as it is written. -/
structure Layout (slots : List (String × Option Json)) (extra : Fields Json) : Prop where
  distinct : (slots.map (·.1)).Nodup
  extra : Extra (slots.map (·.1)) extra

namespace Layout

variable {slots : List (String × Option Json)} {extra : Fields Json} {name : String}

theorem written_absent (absent : name ∉ slots.map (·.1)) :
    (written slots).filter (·.1 == name) = [] := by
  rw [List.filter_eq_nil_iff]
  intro entry member
  obtain ⟨⟨other, value⟩, inside, same⟩ := List.mem_filterMap.mp member
  obtain ⟨inner, _, rfl⟩ := Option.map_eq_some_iff.mp same
  have different : other ≠ name := by
    rintro rfl
    exact absent (List.mem_map_of_mem inside)
  simpa using different

private theorem written_slot (distinct : (slots.map (·.1)).Nodup) {value : Option Json}
    (slot : (name, value) ∈ slots) :
    (written slots).filter (·.1 == name) = (value.map (name, ·)).toList := by
  induction slots with
  | nil => cases slot
  | cons first rest ih =>
    obtain ⟨other, held⟩ := first
    obtain ⟨new, later⟩ := List.nodup_cons.mp distinct
    have split : written ((other, held) :: rest) = (held.map (other, ·)).toList ++ written rest := by
      cases held <;> rfl
    rw [split, List.filter_append]
    rcases List.mem_cons.mp slot with here | there
    · cases here
      rw [written_absent new]
      cases value <;> simp
    · have different : other ≠ name := by
        rintro rfl
        exact new (List.mem_map.mpr ⟨_, there, rfl⟩)
      rw [ih later there]
      cases held <;> simp [different]

theorem single? (layout : Layout slots extra) {value : Option Json} (slot : (name, value) ∈ slots) :
    Document.single? (fieldsOfJson (written slots ++ extra)) name = some (value.map ofJson) := by
  have beside : extra.filter (·.1 == name) = [] := by
    rw [List.filter_eq_nil_iff]
    intro entry member same
    have own : entry.1 = name := by simpa using same
    exact layout.extra.apart entry.1 (Fields.mem_names member) (own ▸ List.mem_map_of_mem slot)
  have found : (fieldsOfJson (written slots ++ extra)).filter (·.1 == name) =
      (value.map fun inner => (name, ofJson inner)).toList := by
    have same : ((·.1 == name) : String × Document → Bool) ∘
        (fun entry : String × Json => (entry.1, ofJson entry.2)) = (·.1 == name) := rfl
    rw [fieldsOfJson_eq, List.filter_map, same, List.filter_append,
      written_slot layout.distinct slot, beside]
    cases value <;> simp
  rw [Document.single?, found]
  cases value <;> rfl

section
variable {α : Type} {read : Document → Option α} {write : α → Json} {fields : Fields Document}

theorem fieldOr? (layout : Layout slots extra) {value : Option Json} (slot : (name, value) ∈ slots)
    (absent : α) :
    Document.fieldOr? (fieldsOfJson (written slots ++ extra)) name absent read =
      match value with
      | none => some absent
      | some inner => read (ofJson inner) := by
  rw [Document.fieldOr?, layout.single? slot]
  cases value <;> rfl

theorem always (layout : Layout slots extra) (rereads : Rereads read write) {value absent : α}
    (found : Document.fieldOr? fields name absent read = some value) (base : Returns read write absent)
    (slot : (name, some (write value)) ∈ slots) :
    Document.fieldOr? (fieldsOfJson (written slots ++ extra)) name absent read = some value :=
  (layout.fieldOr? slot absent).trans (rereads.field base found)

theorem optional (layout : Layout slots extra) (rereads : Rereads read write) {value : Option α}
    (filled : ∀ inner, ofJson (write inner) ≠ .null)
    (found : Document.fieldOr? fields name none (nullable? read) = some value)
    (slot : (name, value.map write) ∈ slots) :
    Document.fieldOr? (fieldsOfJson (written slots ++ extra)) name none (nullable? read) =
      some value := by
  rw [layout.fieldOr? slot]
  cases value with
  | none => rfl
  | some inner =>
    have back : read (ofJson (write inner)) = some inner := rereads.optional found inner rfl
    show nullable? read (ofJson (write inner)) = some (some inner)
    unfold nullable?
    split
    case h_1 null => exact absurd null (filled inner)
    case h_2 => rw [back, Option.map_some]

end

theorem others (layout : Layout slots extra) :
    others? (fieldsOfJson (written slots ++ extra)) (slots.map (·.1)) = some extra := by
  have own : (written slots).filter (fun entry => !(slots.map (·.1)).contains entry.1) = [] := by
    rw [List.filter_eq_nil_iff]
    intro entry member
    obtain ⟨⟨other, value⟩, inside, same⟩ := List.mem_filterMap.mp member
    obtain ⟨inner, _, rfl⟩ := Option.map_eq_some_iff.mp same
    have known : other ∈ slots.map (·.1) := List.mem_map_of_mem inside
    simpa using known
  have beside : extra.filter (fun entry => !(slots.map (·.1)).contains entry.1) = extra := by
    rw [List.filter_eq_self]
    intro entry member
    simpa using layout.extra.apart entry.1 (Fields.mem_names member)
  have kept : (fieldsOfJson (written slots ++ extra)).filter
      (fun entry => !(slots.map (·.1)).contains entry.1) = fieldsOfJson extra := by
    have same : (fun entry : String × Document => !(slots.map (·.1)).contains entry.1) ∘
        (fun entry : String × Json => (entry.1, ofJson entry.2)) =
          fun entry => !(slots.map (·.1)).contains entry.1 := rfl
    rw [fieldsOfJson_eq, List.filter_map, same, List.filter_append, own, beside, List.nil_append,
      fieldsOfJson_eq]
  have values : fieldValues? (fieldsOfJson extra) = some extra :=
    fieldValuesWith?_ofJson fun entry member => jsonWith?_ofJson _ (layout.extra.proper entry member)
  calc others? (fieldsOfJson (written slots ++ extra)) (slots.map (·.1))
      = (fieldValues? (fieldsOfJson extra)).bind fun members => some (Fields.ofList members) :=
        congrArg (fun fields => (fieldValues? fields).bind fun members =>
          some (Fields.ofList members)) kept
    _ = some extra := by rw [values, Option.bind_some, Fields.ofList_distinct layout.extra.distinct]

theorem distinct_members (layout : Layout slots extra) :
    (Fields.names (written slots ++ extra)).Nodup := by
  have below : (Fields.names (written slots)).Sublist (slots.map (·.1)) := by
    clear layout
    induction slots with
    | nil => exact .slnil
    | cons first rest ih =>
      obtain ⟨name, value⟩ := first
      cases value with
      | none => exact ih.cons name
      | some => exact ih.cons_cons name
  rw [Fields.names_append]
  refine List.nodup_append.mpr ⟨below.nodup layout.distinct, layout.extra.distinct, ?_⟩
  rintro name own _ beside rfl
  exact layout.extra.apart name beside (below.subset own)

theorem proper {value : Json} (layout : Layout ((name, some value) :: slots) extra)
    (plain : name ≠ enclosingName)
    (each : ∀ entry ∈ (name, some value) :: slots, ∀ held ∈ entry.2, held.Proper) :
    Json.Proper (.object (written ((name, some value) :: slots) ++ extra)) := by
  refine .object layout.distinct_members (by simpa [written] using plain) fun entry member => ?_
  rcases List.mem_append.mp member with own | beside
  · obtain ⟨slot, inside, same⟩ := List.mem_filterMap.mp own
    obtain ⟨held, there, rfl⟩ := Option.map_eq_some_iff.mp same
    exact each slot inside held there
  · exact layout.extra.proper entry beside

end Layout

end LiveCompile
