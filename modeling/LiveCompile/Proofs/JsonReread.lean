import LiveCompile.Json.Record

/-! Reading back what was written. A JSON value that was read has each name once in an object, and
no object that stands for an enclosed document; such a value is read back as it is. A record is read
back from its members if they have names of their own and the others beside them are none of its
fields. -/

namespace LiveCompile

namespace Fields

variable {α : Type} {fields members : Fields α} {name : String} {value : α} {entry : String × α}

def names (fields : Fields α) : List String := fields.map (·.1)

@[simp] theorem names_nil : names ([] : Fields α) = [] := rfl

@[simp] theorem names_cons (entry : String × α) (rest : Fields α) :
    names (entry :: rest) = entry.1 :: names rest := rfl

@[simp] theorem names_append (front back : Fields α) :
    names (front ++ back) = names front ++ names back := List.map_append

theorem mem_names (member : entry ∈ fields) : entry.1 ∈ names fields := List.mem_map_of_mem member

private theorem names_insert (fields : Fields α) (name : String) (value : α) :
    names (insert fields name value) =
      if name ∈ names fields then names fields else names fields ++ [name] := by
  induction fields with
  | nil => rfl
  | cons first rest ih =>
    obtain ⟨other, old⟩ := first
    by_cases same : other = name
    · simp [insert, same]
    · simp only [insert, if_neg same, names_cons, ih, List.mem_cons, Ne.symm same, false_or]
      split <;> rfl

private theorem mem_insert (member : entry ∈ insert fields name value) :
    entry ∈ fields ∨ entry = (name, value) := by
  induction fields with
  | nil => exact .inr (List.mem_singleton.mp member)
  | cons first rest ih =>
    obtain ⟨other, old⟩ := first
    unfold insert at member
    split at member
    · rcases List.mem_cons.mp member with here | later
      · exact .inr here
      · exact .inl (List.mem_cons_of_mem _ later)
    · rcases List.mem_cons.mp member with here | later
      · exact .inl (here ▸ List.mem_cons_self)
      · exact (ih later).imp_left (List.mem_cons_of_mem _)

private theorem insert_new (new : name ∉ names fields) :
    insert fields name value = fields ++ [(name, value)] := by
  induction fields with
  | nil => rfl
  | cons first rest ih =>
    obtain ⟨other, old⟩ := first
    simp only [names_cons, List.mem_cons, not_or] at new
    simp [insert, Ne.symm new.1, ih new.2]

private theorem distinct_insert (distinct : (names fields).Nodup) :
    (names (insert fields name value)).Nodup := by
  rw [names_insert]
  split
  case isTrue => exact distinct
  case isFalse new =>
    refine List.nodup_append.mpr ⟨distinct, by simp, ?_⟩
    rintro other member _ last rfl
    exact new (List.mem_singleton.mp last ▸ member)

theorem distinct_ofList (members : List (String × α)) : (names (ofList members)).Nodup := by
  suffices general : ∀ fields : Fields α, (names fields).Nodup →
      (names (members.foldl (fun fields entry => insert fields entry.1 entry.2) fields)).Nodup from
    general [] .nil
  induction members with
  | nil => exact fun fields distinct => distinct
  | cons first rest ih => exact fun fields distinct => ih _ (distinct_insert distinct)

theorem mem_ofList (member : entry ∈ ofList members) : entry ∈ members := by
  suffices general : ∀ fields : Fields α,
      entry ∈ members.foldl (fun fields entry => insert fields entry.1 entry.2) fields →
      entry ∈ fields ∨ entry ∈ members from
    (general [] member).resolve_left List.not_mem_nil
  clear member
  induction members with
  | nil => exact fun fields member => .inl member
  | cons first rest ih =>
    obtain ⟨name, value⟩ := first
    intro fields member
    rcases ih _ member with earlier | later
    · exact (mem_insert earlier).imp_right fun here => List.mem_cons.mpr (.inl here)
    · exact .inr (List.mem_cons_of_mem _ later)

private theorem head_ofList (members : List (String × α)) :
    (names (ofList members)).head? = (names members).head? := by
  suffices general : ∀ fields : Fields α,
      (names (members.foldl (fun fields entry => insert fields entry.1 entry.2) fields)).head? =
        (names fields ++ names members).head? from general []
  induction members with
  | nil => exact fun fields => by simp
  | cons first rest ih =>
    intro fields
    rw [List.foldl_cons, ih, names_insert]
    split
    case isTrue there =>
      cases fields with
      | nil => cases there
      | cons => rfl
    case isFalse => simp

theorem ofList_distinct (distinct : (names members).Nodup) : ofList members = members := by
  suffices general : ∀ fields : Fields α, (names (fields ++ members)).Nodup →
      members.foldl (fun fields entry => insert fields entry.1 entry.2) fields =
        fields ++ members from general [] distinct
  clear distinct
  induction members with
  | nil => exact fun fields _ => by simp
  | cons first rest ih =>
    intro fields distinct
    have new : first.1 ∉ names fields := by
      intro there
      rw [names_append] at distinct
      exact (List.nodup_append.mp distinct).2.2 _ there _ List.mem_cons_self rfl
    have onwards := ih (fields ++ [first]) (by simpa using distinct)
    rw [← insert_new new] at onwards
    rw [List.foldl_cons, onwards, insert_new new, List.append_assoc]
    rfl

end Fields

/-- A value in which every object has each name once and does not stand for an enclosed document. -/
inductive Json.Proper : Json → Prop where
  | null : Proper .null
  | bool (value : Bool) : Proper (.bool value)
  | number (value : Number) : Proper (.number value)
  | string (value : String) : Proper (.string value)
  | array {items : List Json} (each : ∀ item ∈ items, Proper item) : Proper (.array items)
  | object {fields : Fields Json} (distinct : (Fields.names fields).Nodup)
      (plain : (Fields.names fields).head? ≠ some Document.enclosingName)
      (each : ∀ entry ∈ fields, Proper entry.2) : Proper (.object fields)

namespace Document

private theorem enclosed?_eq_none {fields : Fields Document} :
    enclosed? fields = none ↔ (Fields.names fields).head? ≠ some enclosingName := by
  unfold enclosed?
  cases fields with
  | nil => simp
  | cons first rest =>
    obtain ⟨name, value⟩ := first
    by_cases same : name = enclosingName
    · subst same
      simp only [if_true, Fields.names_cons, List.head?_cons, ne_eq, not_true, iff_false]
      split <;> exact Option.some_ne_none _
    · simp [same]

theorem names_fieldValuesWith? {read : String → Option Json} {fields : Fields Document}
    {members : Fields Json} (values : fieldValuesWith? read fields = some members) :
    Fields.names members = Fields.names fields := by
  induction fields generalizing members with
  | nil =>
    cases values
    rfl
  | cons first rest ih =>
    simp only [fieldValuesWith?, Option.bind_eq_bind, Option.bind_eq_some_iff, Option.pure_def,
      Option.some.injEq] at values
    obtain ⟨_, _, _, later, rfl⟩ := values
    rw [Fields.names_cons, Fields.names_cons, ih later]

section
variable {read : String → Option Json}

mutual

theorem proper_of_jsonWith? (proper : ∀ text value, read text = some value → value.Proper)
    (document : Document) {value : Json}
    (found : document.jsonWith? read = some value) : value.Proper := by
  cases document with
  | verbatim => cases found
  | null => cases found; exact .null
  | bool => cases found; exact .bool _
  | number => cases found; exact .number _
  | string => cases found; exact .string _
  | array span items =>
    simp only [jsonWith?, Option.map_eq_some_iff] at found
    obtain ⟨values, found, rfl⟩ := found
    exact .array (proper_of_itemValuesWith? proper items found)
  | object span fields =>
    unfold jsonWith? at found
    split at found
    case h_1 text _ =>
      obtain ⟨text, _, found⟩ := Option.bind_eq_some_iff.mp found
      exact proper text value found
    case h_2 plain =>
      obtain ⟨members, values, rfl⟩ := Option.map_eq_some_iff.mp found
      refine .object (Fields.distinct_ofList members) ?_ fun entry member =>
        proper_of_fieldValuesWith? proper fields values entry (Fields.mem_ofList member)
      rw [Fields.head_ofList, names_fieldValuesWith? values]
      exact enclosed?_eq_none.mp plain

theorem proper_of_itemValuesWith? (proper : ∀ text value, read text = some value → value.Proper)
    (items : List Document) {values : List Json}
    (found : itemValuesWith? read items = some values) : ∀ value ∈ values, value.Proper := by
  cases items with
  | nil =>
    cases found
    simp
  | cons item rest =>
    simp only [itemValuesWith?, Option.bind_eq_bind, Option.bind_eq_some_iff, Option.pure_def,
      Option.some.injEq] at found
    obtain ⟨value, first, values, later, rfl⟩ := found
    exact List.forall_mem_cons.mpr
      ⟨proper_of_jsonWith? proper item first, proper_of_itemValuesWith? proper rest later⟩

theorem proper_of_fieldValuesWith? (proper : ∀ text value, read text = some value → value.Proper)
    (fields : List (String × Document)) {members : List (String × Json)}
    (found : fieldValuesWith? read fields = some members) :
    ∀ entry ∈ members, entry.2.Proper := by
  cases fields with
  | nil =>
    cases found
    simp
  | cons first rest =>
    obtain ⟨name, document⟩ := first
    simp only [fieldValuesWith?, Option.bind_eq_bind, Option.bind_eq_some_iff, Option.pure_def,
      Option.some.injEq] at found
    obtain ⟨value, first, values, later, rfl⟩ := found
    exact List.forall_mem_cons.mpr
      ⟨proper_of_jsonWith? proper document first, proper_of_fieldValuesWith? proper rest later⟩

end

end

theorem proper_of_enclosedValue? (depth : Nat) {text : String} {value : Json}
    (found : enclosedValue? depth text = some value) : value.Proper := by
  induction depth generalizing text value with
  | zero => cases found
  | succ depth ih =>
    obtain ⟨document, _, found⟩ := Option.bind_eq_some_iff.mp found
    exact proper_of_jsonWith? (fun _ _ => ih) document found

theorem proper_of_json? {document : Document} {value : Json}
    (found : document.json? = some value) : value.Proper :=
  proper_of_jsonWith? (fun _ _ => proper_of_enclosedValue? _) document found

theorem fieldsOfJson_eq (fields : Fields Json) :
    fieldsOfJson fields = fields.map fun entry => (entry.1, ofJson entry.2) := by
  induction fields with
  | nil => rfl
  | cons first rest ih => rw [fieldsOfJson, ih, List.map_cons]

theorem names_fieldsOfJson (fields : Fields Json) :
    Fields.names (fieldsOfJson fields) = Fields.names fields := by
  rw [fieldsOfJson_eq]
  simp [Fields.names]

theorem fieldValuesWith?_ofJson {read : String → Option Json} {fields : Fields Json}
    (each : ∀ entry ∈ fields, (ofJson entry.2).jsonWith? read = some entry.2) :
    fieldValuesWith? read (fieldsOfJson fields) = some fields := by
  induction fields with
  | nil => rfl
  | cons first rest ih =>
    obtain ⟨here, later⟩ := List.forall_mem_cons.mp each
    simp [fieldsOfJson, fieldValuesWith?, here, ih later]

/-- A proper value is read back as it is. -/
theorem jsonWith?_ofJson (read : String → Option Json) {value : Json} (proper : value.Proper) :
    (ofJson value).jsonWith? read = some value := by
  induction proper with
  | null | bool | number | string => rfl
  | @array items _ ih =>
    have values : itemValuesWith? read (itemsOfJson items) = some items := by
      induction items with
      | nil => rfl
      | cons first rest later =>
        obtain ⟨here, others⟩ := List.forall_mem_cons.mp ih
        simp [itemsOfJson, itemValuesWith?, here, later (fun _ _ => by simp_all) others]
    simp [ofJson, ofItems, jsonWith?, values]
  | @object fields distinct plain _ ih =>
    have unenclosed : enclosed? (fieldsOfJson fields) = none := by
      rw [enclosed?_eq_none, names_fieldsOfJson]
      exact plain
    simp [ofJson, ofFields, jsonWith?, unenclosed, fieldValuesWith?_ofJson ih,
      Fields.ofList_distinct distinct]

theorem json?_ofJson {value : Json} (proper : value.Proper) : (ofJson value).json? = some value :=
  jsonWith?_ofJson _ proper

end Document

end LiveCompile
