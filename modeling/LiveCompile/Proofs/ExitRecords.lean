import LiveCompile.Proofs.RecordFields
import LiveCompile.Proofs.WorldNormalForm

/-! The records that exits keyed by direction become: one for each direction, in their order, with the
direction and the target first and every other field after them. A field that is taken out leaves a
hole, into which the last field moves, so the others need not stand in the order of the payload. Those
before the first hole stay where they are. -/

namespace LiveCompile

namespace Fields

variable {α : Type} {fields front back : Fields α} {name : String} {taken : List String}

theorem swapRemove_append (absent : name ∉ names front) :
    swapRemove (front ++ back) name = front ++ swapRemove back name := by
  induction front with
  | nil => rfl
  | cons first rest ih =>
    obtain ⟨other, value⟩ := first
    simp only [names_cons, List.mem_cons, not_or] at absent
    rw [List.cons_append, swapRemove, if_neg (Ne.symm absent.1), ih absent.2, List.cons_append]

private theorem filter_absent (absent : name ∉ names fields) :
    fields.filter (·.1 != name) = fields := by
  rw [List.filter_eq_self]
  rintro entry member
  have different : entry.1 ≠ name := fun same => absent (same ▸ mem_names member)
  simpa using different

private theorem swapRemove_perm (distinct : (names fields).Nodup) :
    (swapRemove fields name).Perm (fields.filter (·.1 != name)) := by
  induction fields with
  | nil => rfl
  | cons first rest ih =>
    obtain ⟨other, value⟩ := first
    obtain ⟨new, later⟩ := List.nodup_cons.mp distinct
    unfold swapRemove
    by_cases same : other = name
    · subst same
      simp only [if_true, List.filter_cons, bne_self_eq_false, Bool.false_eq_true, if_false]
      rw [filter_absent new]
      cases last : rest.getLast? with
      | none => rw [List.getLast?_eq_none_iff.mp last]
      | some moved =>
        obtain ⟨before, rfl⟩ := List.getLast?_eq_some_iff.mp last
        rw [List.dropLast_concat]
        exact (List.perm_append_singleton moved before).symm
    · rw [if_neg same, List.filter_cons_of_pos (by simpa using same)]
      exact (ih later).cons _

private theorem mem_of_swapRemove {entry : String × α} (member : entry ∈ swapRemove fields name) :
    entry ∈ fields := by
  induction fields with
  | nil => cases member
  | cons first rest ih =>
    obtain ⟨other, value⟩ := first
    unfold swapRemove at member
    by_cases same : other = name
    · rw [if_pos same] at member
      cases last : rest.getLast? with
      | none =>
        rw [last] at member
        cases member
      | some moved =>
        rw [last] at member
        obtain ⟨before, rfl⟩ := List.getLast?_eq_some_iff.mp last
        rw [List.dropLast_concat] at member
        have inside : entry ∈ before ++ [moved] :=
          (List.perm_append_singleton moved before).symm.mem_iff.mp member
        exact List.mem_cons_of_mem _ inside
    · rw [if_neg same] at member
      rcases List.mem_cons.mp member with rfl | inside
      · exact List.mem_cons_self
      · exact List.mem_cons_of_mem _ (ih inside)

private theorem distinct_swapRemove (distinct : (names fields).Nodup) :
    (names (swapRemove fields name)).Nodup := by
  have same : (names (swapRemove fields name)).Perm (names (fields.filter (·.1 != name))) :=
    (swapRemove_perm distinct).map _
  exact same.nodup_iff.mpr ((List.filter_sublist.map _).nodup distinct)

def takeOut (taken : List String) (fields : Fields α) : Fields α := taken.foldl swapRemove fields

theorem takeOut_append (absent : ∀ name ∈ taken, name ∉ names front) :
    takeOut taken (front ++ back) = front ++ takeOut taken back := by
  induction taken generalizing back with
  | nil => rfl
  | cons name rest ih =>
    obtain ⟨here, later⟩ := List.forall_mem_cons.mp absent
    calc takeOut rest (swapRemove (front ++ back) name)
        = takeOut rest (front ++ swapRemove back name) := by rw [swapRemove_append here]
      _ = front ++ takeOut rest (swapRemove back name) := ih later

theorem mem_of_takeOut {entry : String × α} (member : entry ∈ takeOut taken fields) :
    entry ∈ fields := by
  induction taken generalizing fields with
  | nil => exact member
  | cons name rest ih => exact mem_of_swapRemove (ih member)

private theorem takeOut_perm (distinct : (names fields).Nodup) :
    (takeOut taken fields).Perm (fields.filter fun entry => !taken.contains entry.1) := by
  induction taken generalizing fields with
  | nil => simp [takeOut]
  | cons name rest ih =>
    have distinct' : (names (swapRemove fields name)).Nodup := distinct_swapRemove distinct
    refine (ih distinct').trans (((swapRemove_perm distinct).filter _).trans ?_)
    rw [List.filter_filter]
    refine .of_eq (List.filter_congr fun entry _ => ?_)
    rw [List.contains_cons, Bool.not_or, Bool.and_comm]
    rfl

theorem get?_absent (absent : name ∉ names fields) : get? fields name = none := by
  have found : get? (fields ++ []) name = get? [] name := get?_append absent
  rwa [List.append_nil, get?_nil] at found

theorem mem_of_get? {value : α} (found : get? fields name = some value) :
    (name, value) ∈ fields := by
  obtain ⟨⟨held, inner⟩, there, rfl⟩ := Option.map_eq_some_iff.mp found
  have same : held = name := by simpa using List.find?_some there
  exact same ▸ List.mem_of_find?_eq_some there

private theorem absent_of_get? (absent : get? fields name = none) : name ∉ names fields := by
  intro there
  obtain ⟨entry, member, same⟩ := List.mem_map.mp there
  have unfound : fields.find? (·.1 == name) = none := Option.map_eq_none_iff.mp absent
  exact List.find?_eq_none.mp unfound entry member (by simpa using same)

end Fields

namespace World

/-- The fields of an exit that have places of their own in its record. -/
def placed : List String := ["target", "to", "direction"]

/-- The other fields of an exit, in the order of the payload. -/
def otherFields (fields : Fields Json) : Fields Json :=
  fields.filter fun entry => !placed.contains entry.1

section
variable {fields front back : Fields Json}

/-- The target of an exit is its field `target`, or else its field `to`. -/
def target? (fields : Fields Json) : Option Json :=
  (fields.get? "target").orElse fun _ => fields.get? "to"

theorem mem_of_target? {value : Json} (found : target? fields = some value) :
    ∃ name, (name, value) ∈ fields := by
  rw [target?, Option.orElse_eq_or, Option.or_eq_some_iff] at found
  rcases found with target | ⟨_, destination⟩
  · exact ⟨_, Fields.mem_of_get? target⟩
  · exact ⟨_, Fields.mem_of_get? destination⟩

private theorem exitTarget_target : (exitTarget fields).1 = target? fields := by
  unfold exitTarget target?
  cases fields.get? "target" <;> rfl

theorem exitTarget_others : (exitTarget fields).2 =
    Fields.takeOut [if (fields.get? "target").isSome then "target" else "to", "to", "direction"]
      fields := by
  unfold exitTarget
  cases fields.get? "target" <;> rfl

theorem exitTarget_perm (distinct : (Fields.names fields).Nodup) :
    (exitTarget fields).2.Perm (otherFields fields) := by
  rw [exitTarget_others]
  refine (Fields.takeOut_perm distinct).trans (.of_eq (List.filter_congr fun entry member => ?_))
  cases held : fields.get? "target" with
  | some target => rfl
  | none =>
    have different : entry.1 ≠ "target" := by
      intro same
      exact Fields.absent_of_get? held (same ▸ Fields.mem_names member)
    simp [placed, different]

theorem exitTarget_free (distinct : (Fields.names fields).Nodup) {name : String}
    (there : name ∈ Fields.names (exitTarget fields).2) : name ∉ placed := by
  obtain ⟨entry, member, rfl⟩ := List.mem_map.mp there
  have other := (exitTarget_perm distinct).mem_iff.mp member
  simpa using (List.mem_filter.mp other).2

/-- What stands before all fields that are taken out stays in its place. -/
theorem exitTarget_append (free : ∀ name ∈ placed, name ∉ Fields.names front) :
    (exitTarget (front ++ back)).2 = front ++ (exitTarget back).2 := by
  have target := free "target" (by simp [placed])
  have destination := free "to" (by simp [placed])
  have direction := free "direction" (by simp [placed])
  rw [exitTarget_others, exitTarget_others, Fields.get?_append target]
  refine Fields.takeOut_append fun name member => ?_
  simp only [List.mem_cons, List.not_mem_nil, or_false] at member
  rcases member with rfl | rfl | rfl
  · split <;> assumption
  · exact destination
  · exact direction

/-- With one other field after the first hole at most, the others are in the order of the payload. -/
theorem exitTarget_ordered (distinct : (Fields.names (front ++ back)).Nodup)
    (free : ∀ name ∈ placed, name ∉ Fields.names front) (few : (otherFields back).length ≤ 1) :
    (exitTarget (front ++ back)).2 = otherFields (front ++ back) := by
  have untouched : otherFields front = front := by
    rw [otherFields, List.filter_eq_self]
    intro entry member
    have unplaced : entry.1 ∉ placed := fun there => free _ there (Fields.mem_names member)
    simpa using unplaced
  have same : otherFields (front ++ back) = front ++ otherFields back := by
    conv_rhs => rw [← untouched]
    exact List.filter_append ..
  rw [Fields.names_append] at distinct
  have moved := exitTarget_perm (List.nodup_append.mp distinct).2.1
  rw [exitTarget_append free, same]
  refine congrArg (front ++ ·) ?_
  cases others : otherFields back with
  | nil => exact List.perm_nil.mp (others ▸ moved)
  | cons first rest =>
    obtain rfl : rest = [] := List.length_eq_zero_iff.mp (by simpa [others] using few)
    exact List.perm_singleton.mp (others ▸ moved)

end

/-- The record of an exit in a direction. A bare exit is its own target. An exit with fields has its
target, if it has one, after the direction, and then all its other fields once with their values: in
place as long as none was taken out before them, and in the order of the payload if one of them at
most stands after the first that was taken out. -/
inductive RecordsExit (direction : String) : Json → Json → Prop where
  | bare {exit : Json} (flat : exit.isObject = false) :
      RecordsExit direction exit (.object [("direction", .string direction), ("target", exit)])
  | fields {fields others : Fields Json} (complete : others.Perm (otherFields fields))
      (steady : ∀ front back, fields = front ++ back →
        (∀ name ∈ placed, name ∉ Fields.names front) → ∃ moved, others = front ++ moved)
      (ordered : ∀ front back, fields = front ++ back →
        (∀ name ∈ placed, name ∉ Fields.names front) → (otherFields back).length ≤ 1 →
        others = otherFields fields) :
      RecordsExit direction (.object fields) (.object (("direction", .string direction) ::
        (Json.optionalMember "target" id (target? fields) ++ others)))

theorem recordOfExit_object (direction : String) (fields : Fields Json) :
    recordOfExit direction (.object fields) = .object (("direction", .string direction) ::
      (Json.optionalMember "target" id (target? fields) ++ (exitTarget fields).2)) := by
  rw [← exitTarget_target]
  rfl

private theorem recordOfExit_records (direction : String) (exit : Json)
    (distinct : ∀ fields, exit = .object fields → (Fields.names fields).Nodup) :
    RecordsExit direction exit (recordOfExit direction exit) := by
  cases exit with
  | object fields =>
    have own := distinct fields rfl
    rw [recordOfExit_object]
    refine .fields (exitTarget_perm own) ?_ ?_
    · rintro front back rfl free
      exact ⟨_, exitTarget_append free⟩
    · rintro front back rfl free few
      exact exitTarget_ordered own free few
  | _ => exact .bare rfl

/-- Exits keyed by direction become one record each, in the order of their directions, and a record has
all that the exit has. -/
theorem exits_recorded (entries : Fields Json)
    (distinct : ∀ entry ∈ entries, ∀ fields, entry.2 = .object fields → (Fields.names fields).Nodup) :
    ∃ records, exitsToPairs (.object entries) = .array records ∧
      List.Forall₂ (fun entry record => RecordsExit entry.1 entry.2 record) entries records := by
  refine ⟨_, rfl, ?_⟩
  rw [List.forall₂_map_right_iff]
  exact List.forall₂_same.mpr fun entry member =>
    recordOfExit_records entry.1 entry.2 (distinct entry member)

def lockedExit : Fields Json :=
  [("to", .string "market"), ("locked", .bool true), ("key", .string "brass")]

/-- A bare exit, and one whose other fields stand around its target. -/
theorem exits_recorded_around :
    let entries : Fields Json := [("north", .string "hall"), ("east", .object
      [("locked", .bool true), ("to", .string "market"), ("key", .string "brass")])]
    (∀ entry ∈ entries, ∀ fields, entry.2 = .object fields → (Fields.names fields).Nodup) ∧
      ∃ records, exitsToPairs (.object entries) = .array records ∧ records =
        [.object [("direction", .string "north"), ("target", .string "hall")],
          .object [("direction", .string "east"), ("target", .string "market"),
            ("locked", .bool true), ("key", .string "brass")]] ∧
        List.Forall₂ (fun entry record => RecordsExit entry.1 entry.2 record) entries records := by
  intro entries
  have distinct : ∀ entry ∈ entries, ∀ fields, entry.2 = .object fields →
      (Fields.names fields).Nodup := by
    simp [entries]
  obtain ⟨records, found, each⟩ := exits_recorded entries distinct
  exact ⟨distinct, records, found, (Json.array.inj found).symm, each⟩

/-- Of two fields after the target the last is the first in the record. -/
theorem exit_fields_reordered :
    (Fields.names lockedExit).Nodup ∧
      ∃ others, exitsToPairs (.object [("east", .object lockedExit)]) =
        .array [.object (("direction", .string "east") :: ("target", .string "market") :: others)] ∧
      others = [("key", .string "brass"), ("locked", .bool true)] ∧
      otherFields lockedExit = [("locked", .bool true), ("key", .string "brass")] ∧
      others ≠ otherFields lockedExit := by
  refine ⟨by decide, [("key", .string "brass"), ("locked", .bool true)], rfl, rfl, rfl, ?_⟩
  simp [otherFields, lockedExit, placed]

end World

end LiveCompile
