import LiveCompile.Event
import LiveCompile.Proofs.JsonRoundTrip

/-! Typed readers look at the values of a document and, for a payload, at its octets, but not at what
stands around it. So they read the same from a document whose every value stands alone. -/

namespace LiveCompile

namespace Document

/-- A reader that reads the same from a document that stands alone. -/
def Blind {α : Type} (read : Document → Option α) : Prop :=
  ∀ document, read document.detached = read document

theorem blind_string : Blind string? := by
  intro document
  cases document <;> rfl

private theorem blind_number : Blind number? := by
  intro document
  cases document <;> rfl

private theorem blind_natUpTo (bound : Nat) : Blind (natUpTo? bound) := by
  intro document
  rw [natUpTo?, blind_number, natUpTo?]

private theorem blind_int : Blind int? := by
  intro document
  rw [int?, blind_number, int?]

private theorem blind_float : Blind float? := by
  intro document
  rw [float?, blind_number, float?]

private theorem blind_text : Blind text? := by
  intro document
  rw [text?, source_detached, text?]

private theorem blind_timestamp : Blind timestamp? := by
  intro document
  rw [timestamp?, blind_int, timestamp?]

private theorem blind_compileId : Blind Header.compileId? := by
  intro document
  cases document <;> rfl

private theorem blind_label : Blind label? := by
  intro document
  cases document with
  | object span fields =>
    rcases fields with _ | ⟨⟨name, value⟩, _ | ⟨second, rest⟩⟩
    · rfl
    · cases value <;> rfl
    · obtain ⟨other, another⟩ := second
      cases value <;> rfl
  | _ => rfl

section
variable {α : Type} {read : Document → Option α}

private theorem mapM_detached (blind : Blind read) (items : List Document) :
    (itemsDetached items).mapM read = items.mapM read := by
  induction items with
  | nil => rfl
  | cons item rest ih => rw [itemsDetached, List.mapM_cons, List.mapM_cons, blind item, ih]

theorem Blind.list (blind : Blind read) : Blind (list? read) := by
  intro document
  cases document with
  | array span items => exact mapM_detached blind items
  | _ => rfl

theorem Blind.nullable (blind : Blind read) : Blind (nullable? read) := by
  intro document
  have same := blind document
  cases document with
  | null => rfl
  | _ => exact congrArg (Option.map some) same

theorem Blind.dictionary (blind : Blind read) : Blind (dictionary? read) := by
  intro document
  cases document with
  | object span fields =>
    have values : (fieldsDetached fields).mapM (fun entry => (read entry.2).map (entry.1, ·)) =
        fields.mapM fun entry => (read entry.2).map (entry.1, ·) := by
      induction fields with
      | nil => rfl
      | cons first rest ih =>
        obtain ⟨name, value⟩ := first
        rw [fieldsDetached, List.mapM_cons, List.mapM_cons, blind value, ih]
    exact congrArg (Option.bind · fun entries => some (Fields.ofList entries)) values
  | _ => rfl

theorem Blind.bind {β : Type} (blind : Blind read) (next : α → Option β) :
    Blind fun document => (read document).bind next := by
  intro document
  show (read document.detached).bind next = _
  rw [blind document]

theorem Blind.map {β : Type} (blind : Blind read) (change : α → β) :
    Blind fun document => (read document).map change := by
  intro document
  show (read document.detached).map change = _
  rw [blind document]

end

private theorem blind_chunkName : Blind ChunkName.ofDocument? := blind_label.bind _

private theorem blind_hash : Blind RawChunk.hash? := blind_string.map _

private theorem blind_path : Blind Event.path? := blind_string.map _

/-! Records -/

theorem members?_detached (document : Document) :
    document.detached.members? = document.members?.map fieldsDetached := by
  cases document <;> rfl

private theorem zip_itemsDetached (names : List String) (items : List Document) :
    names.zip (itemsDetached items) = fieldsDetached (names.zip items) := by
  rw [itemsDetached_eq, fieldsDetached_eq, List.zip_map_right]
  rfl

private theorem length_itemsDetached (items : List Document) :
    (itemsDetached items).length = items.length := by
  rw [itemsDetached_eq, List.length_map]

private theorem recordMembers?_detached (names : List String) (document : Document) :
    document.detached.recordMembers? names = (document.recordMembers? names).map fieldsDetached := by
  cases document with
  | array span items =>
    rw [detached, recordMembers?, recordMembers?, length_itemsDetached, zip_itemsDetached]
    split <;> rfl
  | _ => rfl

private theorem filter_fieldsDetached (fields : Fields Document) (keep : String → Bool) :
    (fieldsDetached fields).filter (fun entry => keep entry.1) =
      fieldsDetached (fields.filter fun entry => keep entry.1) := by
  rw [fieldsDetached_eq, fieldsDetached_eq, List.filter_map]
  rfl

private theorem single?_detached (fields : Fields Document) (name : String) :
    single? (fieldsDetached fields) name = (single? fields name).map (Option.map detached) := by
  have filtered := filter_fieldsDetached fields (· == name)
  unfold single?
  rw [filtered]
  generalize fields.filter (·.1 == name) = found
  rcases found with _ | ⟨first, _ | ⟨second, rest⟩⟩ <;> rfl

section
variable {α : Type} {read : Document → Option α}

theorem field?_detached (blind : Blind read) (fields : Fields Document) (name : String) :
    field? (fieldsDetached fields) name read = field? fields name read := by
  unfold field?
  rw [single?_detached]
  cases single? fields name with
  | none => rfl
  | some found =>
    cases found with
    | none => rfl
    | some document => exact blind document

theorem fieldOr?_detached (blind : Blind read) (fields : Fields Document) (name : String)
    (absent : α) :
    fieldOr? (fieldsDetached fields) name absent read = fieldOr? fields name absent read := by
  unfold fieldOr?
  rw [single?_detached]
  cases single? fields name with
  | none => rfl
  | some found =>
    cases found with
    | none => rfl
    | some document => exact blind document

/-- A record is read alike if its fields are. -/
theorem blind_record (names : List String) {fromFields : Fields Document → Option α}
    (same : ∀ fields, fromFields (fieldsDetached fields) = fromFields fields) :
    Blind fun document => (document.recordMembers? names).bind fromFields := by
  intro document
  show (document.detached.recordMembers? names).bind fromFields =
    (document.recordMembers? names).bind fromFields
  rw [recordMembers?_detached]
  cases document.recordMembers? names with
  | none => rfl
  | some fields => exact same fields

end

private theorem blind_worldCounts : Blind WorldCounts.ofDocument? := by
  refine blind_record WorldCounts.fieldNames fun fields => ?_
  simp only [fieldOr?_detached (blind_natUpTo maxCount)]

private theorem blind_phaseTiming : Blind PhaseTiming.ofDocument? := by
  refine blind_record ["phase", "durationMs"] fun fields => ?_
  simp only [fieldOr?_detached blind_string, fieldOr?_detached blind_float]

private theorem blind_header : Blind Header.ofDocument? := by
  refine blind_record Header.fieldNames fun fields => ?_
  simp only [fieldOr?_detached blind_compileId, fieldOr?_detached blind_timestamp.nullable,
    fieldOr?_detached blind_float, fieldOr?_detached blind_phaseTiming.list,
    fieldOr?_detached blind_worldCounts, fieldOr?_detached (blind_natUpTo maxCount)]

private theorem blind_rawChunk : Blind RawChunk.ofDocument? := by
  refine blind_record ["name", "data", "contentHash"] fun fields => ?_
  simp only [field?_detached blind_chunkName, field?_detached blind_text, field?_detached blind_hash]

theorem blind_output : Blind CompilerOutput.ofDocument? := by
  refine blind_record ["header", "chunks"] fun fields => ?_
  simp only [fieldOr?_detached blind_header, fieldOr?_detached blind_rawChunk.list]

/-! Events -/

private theorem blind_worldSummary : Blind WorldSummary.ofDocument? := by
  refine blind_record ["entities", "locations", "exits"] fun fields => ?_
  simp only [field?_detached (blind_natUpTo maxCount)]

/-- What a member adds to the fingerprints. -/
def hashMember? (hashes : PerChunk (Option ContentHash)) (member : String × Document) :
    Option (PerChunk (Option ContentHash)) := do
  return hashes.set (← ChunkName.ofText? member.1) (some (← RawChunk.hash? member.2))

theorem chunkHashes?_eq (document : Document) :
    chunkHashes? document = document.members?.bind fun members =>
      members.foldlM hashMember? (PerChunk.ofFn fun _ => none) := rfl

private theorem foldlM_hashMember?_detached (fields : Fields Document)
    (hashes : PerChunk (Option ContentHash)) :
    (fieldsDetached fields).foldlM hashMember? hashes = fields.foldlM hashMember? hashes := by
  induction fields generalizing hashes with
  | nil => rfl
  | cons first rest ih =>
    obtain ⟨name, value⟩ := first
    have same : hashMember? hashes (name, value.detached) = hashMember? hashes (name, value) := by
      rw [hashMember?, hashMember?, blind_hash value]
    rw [fieldsDetached, List.foldlM_cons, List.foldlM_cons, same]
    exact congrArg _ (funext ih)

private theorem blind_chunkHashes : Blind chunkHashes? := by
  intro document
  rw [chunkHashes?_eq, chunkHashes?_eq, members?_detached]
  cases document.members? with
  | none => rfl
  | some fields => exact foldlM_hashMember?_detached fields _

mutual

theorem isRepresentable_detached (document : Document) :
    document.detached.isRepresentable = document.isRepresentable := by
  cases document with
  | array span items => exact itemsRepresentable_detached items
  | object span fields => exact fieldsRepresentable_detached fields
  | _ => rfl

theorem itemsRepresentable_detached (items : List Document) :
    itemsRepresentable (itemsDetached items) = itemsRepresentable items := by
  cases items with
  | nil => rfl
  | cons item rest =>
    rw [itemsDetached, itemsRepresentable, itemsRepresentable, isRepresentable_detached item,
      itemsRepresentable_detached rest]

theorem fieldsRepresentable_detached (fields : List (String × Document)) :
    fieldsRepresentable (fieldsDetached fields) = fieldsRepresentable fields := by
  cases fields with
  | nil => rfl
  | cons first rest =>
    obtain ⟨name, value⟩ := first
    rw [fieldsDetached, fieldsRepresentable, fieldsRepresentable, isRepresentable_detached value,
      fieldsRepresentable_detached rest]

end

private theorem enclosed?_detached (fields : List (String × Document)) :
    enclosed? (fieldsDetached fields) = enclosed? fields := by
  cases fields with
  | nil => rfl
  | cons first rest =>
    obtain ⟨name, value⟩ := first
    cases value <;> cases rest <;> rfl

section
variable (read : String → Option Json)

mutual

theorem jsonWith?_detached (document : Document) :
    document.detached.jsonWith? read = document.jsonWith? read := by
  cases document with
  | array span items => rw [detached, jsonWith?, jsonWith?, itemValuesWith?_detached items]
  | object span fields =>
    rw [detached, jsonWith?, jsonWith?, enclosed?_detached, fieldValuesWith?_detached fields]
  | _ => rfl

theorem itemValuesWith?_detached (items : List Document) :
    itemValuesWith? read (itemsDetached items) = itemValuesWith? read items := by
  cases items with
  | nil => rfl
  | cons item rest =>
    rw [itemsDetached, itemValuesWith?, itemValuesWith?, jsonWith?_detached item,
      itemValuesWith?_detached rest]

theorem fieldValuesWith?_detached (fields : List (String × Document)) :
    fieldValuesWith? read (fieldsDetached fields) = fieldValuesWith? read fields := by
  cases fields with
  | nil => rfl
  | cons first rest =>
    obtain ⟨name, value⟩ := first
    rw [fieldsDetached, fieldValuesWith?, fieldValuesWith?, jsonWith?_detached value,
      fieldValuesWith?_detached rest]

end

end

theorem blind_json : Blind json? := jsonWith?_detached valueOfText?

private theorem tagged?_detached (tag : String) (kinds : String → Option (List String))
    (document : Document) :
    document.detached.tagged? tag kinds =
      (document.tagged? tag kinds).map fun (kind, fields) => (kind, fieldsDetached fields) := by
  unfold tagged?
  rw [isRepresentable_detached]
  split
  · rfl
  cases document with
  | object span fields =>
    simp only [detached, field?_detached blind_string]
    cases field? fields tag string? with
    | none => rfl
    | some kind =>
      have filtered := filter_fieldsDetached fields (· != tag)
      simp only [Option.bind_eq_bind, Option.bind_some, filtered]
      cases kinds kind <;> rfl
  | array span items =>
    rcases items with _ | ⟨first, rest⟩
    · rfl
    · cases first with
      | string span kind =>
        simp only [detached, itemsDetached]
        cases kinds kind with
        | none => rfl
        | some names =>
          simp only [length_itemsDetached, zip_itemsDetached, Option.bind_eq_bind, Option.bind_some]
          split <;> rfl
      | _ => rfl
  | _ => rfl

theorem blind_event : Blind Event.ofDocument? := by
  intro document
  unfold Event.ofDocument?
  rw [tagged?_detached]
  cases document.tagged? "type" Event.fieldNames with
  | none => rfl
  | some found =>
    obtain ⟨kind, fields⟩ := found
    simp only [Option.map_some, Option.bind_eq_bind, Option.bind_some,
      field?_detached (blind_natUpTo maxCount), field?_detached blind_timestamp,
      field?_detached blind_float, field?_detached blind_chunkHashes,
      field?_detached blind_worldSummary, field?_detached blind_string, field?_detached blind_path]

/-! The depth limit -/

mutual

theorem within_detached (depth : Nat) (document : Document) :
    within depth document.detached = (within depth document).detached := by
  cases document with
  | array span items =>
    cases depth with
    | zero => rfl
    | succ depth => rw [detached, within, within, detached, itemsWithin_detached depth items]
  | object span fields =>
    cases depth with
    | zero => rfl
    | succ depth => rw [detached, within, within, detached, fieldsWithin_detached depth fields]
  | _ => cases depth <;> rfl

theorem itemsWithin_detached (depth : Nat) (items : List Document) :
    itemsWithin depth (itemsDetached items) = itemsDetached (itemsWithin depth items) := by
  cases items with
  | nil => rfl
  | cons item rest =>
    rw [itemsDetached, itemsWithin, itemsWithin, itemsDetached, within_detached depth item,
      itemsWithin_detached depth rest]

theorem fieldsWithin_detached (depth : Nat) (fields : List (String × Document)) :
    fieldsWithin depth (fieldsDetached fields) = fieldsDetached (fieldsWithin depth fields) := by
  cases fields with
  | nil => rfl
  | cons first rest =>
    obtain ⟨name, value⟩ := first
    rw [fieldsDetached, fieldsWithin, fieldsWithin, fieldsDetached, within_detached depth value,
      fieldsWithin_detached depth rest]

end

@[simp] theorem source_within (depth : Nat) (document : Document) :
    (within depth document).source = document.source := by
  cases document <;> cases depth <;> rfl

theorem itemsWithin_eq (depth : Nat) (items : List Document) :
    itemsWithin depth items = items.map (within depth) := by
  induction items with
  | nil => rfl
  | cons item rest ih => rw [itemsWithin, ih, List.map_cons]

theorem fieldsWithin_eq (depth : Nat) (fields : List (String × Document)) :
    fieldsWithin depth fields = fields.map fun (name, value) => (name, within depth value) := by
  induction fields with
  | nil => rfl
  | cons first rest ih => rw [fieldsWithin, ih, List.map_cons]

end Document

/-- A value whose arrays and objects are nested so deep at most. -/
inductive Json.Nested : Nat → Json → Prop where
  | null {depth : Nat} : Nested depth .null
  | bool {depth : Nat} (value : Bool) : Nested depth (.bool value)
  | number {depth : Nat} (value : Number) : Nested depth (.number value)
  | string {depth : Nat} (value : String) : Nested depth (.string value)
  | array {depth : Nat} {items : List Json} (each : ∀ item ∈ items, Nested depth item) :
      Nested (depth + 1) (.array items)
  | object {depth : Nat} {fields : Fields Json} (each : ∀ entry ∈ fields, Nested depth entry.2) :
      Nested (depth + 1) (.object fields)

theorem Json.Nested.mono {depth more : Nat} {value : Json} (nested : value.Nested depth)
    (le : depth ≤ more) : value.Nested more := by
  induction nested generalizing more with
  | null => exact .null
  | bool value => exact .bool value
  | number value => exact .number value
  | string value => exact .string value
  | array _ ih =>
    obtain ⟨more, rfl⟩ := Nat.exists_eq_add_one.mpr (Nat.lt_of_lt_of_le (Nat.succ_pos _) le)
    exact .array fun item inside => ih item inside (Nat.le_of_succ_le_succ le)
  | object _ ih =>
    obtain ⟨more, rfl⟩ := Nat.exists_eq_add_one.mpr (Nat.lt_of_lt_of_le (Nat.succ_pos _) le)
    exact .object fun entry inside => ih entry inside (Nat.le_of_succ_le_succ le)

/-- A value of bounded depth whose numbers are read as they are written. -/
structure Json.Readable (depth : Nat) (value : Json) : Prop where
  legible : value.Legible
  nested : value.Nested depth

namespace Json.Readable

variable {depth : Nat} {value : Json}

theorem mono {more : Nat} (readable : value.Readable depth) (le : depth ≤ more) :
    value.Readable more := ⟨readable.legible, readable.nested.mono le⟩

@[simp] theorem null : Readable depth .null := ⟨.null, .null⟩

@[simp] theorem bool (held : Bool) : Readable depth (.bool held) := ⟨.bool held, .bool held⟩

@[simp] theorem string (text : String) : Readable depth (.string text) :=
  ⟨.string text, .string text⟩

@[simp] theorem array_iff {items : List Json} :
    Readable (depth + 1) (.array items) ↔ ∀ item ∈ items, item.Readable depth := by
  constructor
  · rintro ⟨legible, nested⟩ item member
    cases legible with
    | array legible =>
      cases nested with
      | array nested => exact ⟨legible item member, nested item member⟩
  · intro each
    exact ⟨.array fun item member => (each item member).legible,
      .array fun item member => (each item member).nested⟩

@[simp] theorem object_iff {fields : Fields Json} :
    Readable (depth + 1) (.object fields) ↔ ∀ entry ∈ fields, entry.2.Readable depth := by
  constructor
  · rintro ⟨legible, nested⟩ entry member
    cases legible with
    | object legible =>
      cases nested with
      | object nested => exact ⟨legible entry member, nested entry member⟩
  · intro each
    exact ⟨.object fun entry member => (each entry member).legible,
      .object fun entry member => (each entry member).nested⟩

theorem number {held : Number} (rereads : held.Rereads) : Readable depth (.number held) :=
  ⟨.number rereads, .number held⟩

theorem of_array {items : List Json} (readable : Readable depth (.array items)) :
    ∃ inner, depth = inner + 1 ∧ ∀ item ∈ items, item.Readable inner := by
  cases readable.nested with
  | array => exact ⟨_, rfl, array_iff.mp readable⟩

theorem of_object {fields : Fields Json} (readable : Readable depth (.object fields)) :
    ∃ inner, depth = inner + 1 ∧ ∀ entry ∈ fields, entry.2.Readable inner := by
  cases readable.nested with
  | object => exact ⟨_, rfl, object_iff.mp readable⟩

theorem pair (first text second : String) (readable : value.Readable depth) :
    Readable (depth + 1) (.object [(first, .string text), (second, value)]) := by
  simp [readable]

end Json.Readable

namespace Document

theorem within_ofJson {depth : Nat} {value : Json} (nested : value.Nested depth) :
    within depth (ofJson value) = ofJson value := by
  induction nested with
  | @array depth items _ ih =>
    rw [ofJson, ofItems, within, itemsWithin_eq]
    refine congrArg _ (List.map_congr_left (fun document member => ?_) |>.trans (List.map_id _))
    obtain ⟨item, inside, rfl⟩ := mem_itemsOfJson member
    exact ih item inside
  | @object depth fields _ ih =>
    rw [ofJson, ofFields, within, fieldsWithin_eq]
    refine congrArg _ (List.map_congr_left (fun entry member => ?_) |>.trans (List.map_id _))
    obtain ⟨field, inside, rfl⟩ := mem_fieldsOfJson member
    exact congrArg (Prod.mk field.1) (ih field inside)
  | @null depth | @bool depth | @number depth | @string depth => cases depth <;> rfl

/-- A text that spells a document is read as that document. -/
theorem read?_spelled {α : Type} {read : Document → Option α} {document : Document} {text : String}
    (blind : Blind read) (spelled : Spelled document) (padded : Padded document.source (octets text)) :
    (read? text).bind read = read (within depthLimit document) := by
  obtain ⟨again, found, same⟩ := spelled.reread padded
  have parsed : ofText? text = some again := found
  rw [read?, parsed, Option.map_some, Option.bind_some, ← blind, ← within_detached, same,
    within_detached, blind]

/-- What a typed reader reads from the text of a value is what it reads from the value. -/
theorem read?_text {α : Type} {read : Document → Option α} {value : Json} (blind : Blind read)
    (readable : value.Readable depthLimit) :
    (read? value.text).bind read = read (ofJson value) := by
  have padded : Padded (ofJson value).source (octets value.text) := by
    rw [octets_text]
    exact padded_self _
  rw [read?_spelled blind (spelled_ofJson readable.legible) padded, within_ofJson readable.nested]

end Document

end LiveCompile
