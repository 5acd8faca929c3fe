import LiveCompile.CommandLine.Run
import LiveCompile.Proofs.HeaderReread
import LiveCompile.Proofs.JsonLine

/-! An event is read back from what it is written as, and every event that was read can be written. So
the lines that a command prints tell the events that were published. -/

namespace LiveCompile

open Document

/-! Fingerprints -/

theorem ChunkName.ofText?_text (name : ChunkName) : ofText? name.text = some name := by
  cases name <;> rfl

def hashOf? (hashes : PerChunk (Option ContentHash)) (name : ChunkName) :
    Option (ChunkName × ContentHash) := (hashes.get name).map fun hash => (name, hash)

def hashMember (entry : ChunkName × ContentHash) : String × Json :=
  (entry.1.text, .string entry.2.token)

private theorem hashesToJson_eq (hashes : PerChunk (Option ContentHash)) :
    hashesToJson hashes = .object ((ChunkName.all.filterMap (hashOf? hashes)).map hashMember) :=
  rfl

/-- Reading entries one after the other sets the names that have one. -/
theorem foldlM_hashMember? (hashes : PerChunk (Option ContentHash)) (names : List ChunkName)
    (start : PerChunk (Option ContentHash)) :
    ∃ table, (fieldsOfJson ((names.filterMap (hashOf? hashes)).map hashMember)).foldlM
        hashMember? start = some table ∧
      ∀ name, table.get name =
        if name ∈ names ∧ (hashes.get name).isSome then hashes.get name else start.get name := by
  induction names generalizing start with
  | nil => exact ⟨start, rfl, by simp⟩
  | cons first rest ih =>
    cases held : hashes.get first with
    | none =>
      obtain ⟨table, found, each⟩ := ih start
      have skipped : hashOf? hashes first = none := by rw [hashOf?, held]; rfl
      refine ⟨table, by rw [List.filterMap_cons_none skipped, found], fun name => ?_⟩
      rw [each]
      by_cases same : name = first
      · subst same
        simp [held]
      · simp [same]
    | some hash =>
      obtain ⟨table, found, each⟩ := ih (start.set first (some hash))
      have taken : hashOf? hashes first = some (first, hash) := by rw [hashOf?, held]; rfl
      have member : hashMember? start (first.text, ofJson (.string hash.token)) =
          some (start.set first (some hash)) := by
        rw [hashMember?, ChunkName.ofText?_text]
        rfl
      refine ⟨table, ?_, fun name => ?_⟩
      · rw [List.filterMap_cons_some taken, List.map_cons, hashMember, fieldsOfJson, List.foldlM_cons,
          member]
        exact found
      · rw [each, PerChunk.get_set]
        by_cases same : name = first
        · subst same
          simp [held]
        · simp [same]

private theorem returns_hashes (hashes : PerChunk (Option ContentHash)) :
    Returns chunkHashes? hashesToJson hashes := by
  obtain ⟨table, found, each⟩ :=
    foldlM_hashMember? hashes ChunkName.all (PerChunk.ofFn fun _ => none)
  have same : table = hashes := by
    refine PerChunk.ext_get fun name => ?_
    rw [each, PerChunk.get_ofFn]
    cases held : hashes.get name <;> simp [ChunkName.mem_all]
  rw [Returns, hashesToJson_eq, chunkHashes?_eq, ← same]
  rw [← same] at found
  exact found

private theorem readable_hashes (hashes : PerChunk (Option ContentHash)) (depth : Nat) :
    (hashesToJson hashes).Readable (depth + 1) := by
  rw [hashesToJson_eq, Json.Readable.object_iff]
  intro entry member
  obtain ⟨_, _, rfl⟩ := List.mem_map.mp member
  exact .string _

private theorem sublist_entries (hashes : PerChunk (Option ContentHash)) (names : List ChunkName) :
    ((names.filterMap (hashOf? hashes)).map (·.1)).Sublist names := by
  induction names with
  | nil => exact .slnil
  | cons first rest ih =>
    cases held : hashes.get first with
    | none =>
      have skipped : hashOf? hashes first = none := by rw [hashOf?, held]; rfl
      rw [List.filterMap_cons_none skipped]
      exact ih.cons first
    | some hash =>
      have taken : hashOf? hashes first = some (first, hash) := by rw [hashOf?, held]; rfl
      rw [List.filterMap_cons_some taken]
      exact ih.cons_cons first

private theorem sublist_hashes {hashes : PerChunk (Option ContentHash)} {members : Fields Json}
    (written : hashesToJson hashes = .object members) :
    (Fields.names members).Sublist (ChunkName.all.map ChunkName.text) := by
  rw [hashesToJson_eq] at written
  cases written
  have names : Fields.names ((ChunkName.all.filterMap (hashOf? hashes)).map hashMember) =
      ((ChunkName.all.filterMap (hashOf? hashes)).map (·.1)).map ChunkName.text := by
    rw [Fields.names, List.map_map, List.map_map]
    rfl
  rw [names]
  exact (sublist_entries hashes ChunkName.all).map _

/-! Counts -/

namespace WorldSummary

/-- Counts of 64 bits. -/
structure Fits (counts : WorldSummary) : Prop where
  entities : counts.entities ≤ maxCount
  locations : counts.locations ≤ maxCount
  exits : counts.exits ≤ maxCount

variable {counts : WorldSummary}

private theorem returns (fits : counts.Fits) : Returns ofDocument? toJson counts := by
  have entities := returns_nat fits.entities
  have locations := returns_nat fits.locations
  have exits := returns_nat fits.exits
  show (do
    let entities ← natUpTo? maxCount (ofJson (Json.nat counts.entities))
    let locations ← natUpTo? maxCount (ofJson (Json.nat counts.locations))
    let exits ← natUpTo? maxCount (ofJson (Json.nat counts.exits))
    return (⟨entities, locations, exits⟩ : WorldSummary)) = _
  rw [entities, locations, exits]
  rfl

private theorem readable (fits : counts.Fits) (depth : Nat) :
    counts.toJson.Readable (depth + 1) := by
  simp only [toJson, Json.Readable.object_iff, List.forall_mem_cons]
  exact ⟨readable_nat fits.entities, readable_nat fits.locations, readable_nat fits.exits,
    List.forall_mem_nil _⟩

private theorem fits_of_read {document : Document} (read : ofDocument? document = some counts) :
    counts.Fits := by
  simp only [ofDocument?, Option.bind_eq_bind, Option.bind_eq_some_iff, Option.pure_def,
    Option.some.injEq] at read
  obtain ⟨fields, _, entities, first, locations, second, exits, third, rfl⟩ := read
  obtain ⟨_, first⟩ := field?_eq_some first
  obtain ⟨_, second⟩ := field?_eq_some second
  obtain ⟨_, third⟩ := field?_eq_some third
  exact ⟨natUpTo?_le first, natUpTo?_le second, natUpTo?_le third⟩

end WorldSummary

/-! Records of one of several kinds -/

namespace Document

mutual

theorem isRepresentable_ofJson (value : Json) : (ofJson value).isRepresentable = true := by
  cases value with
  | array items => exact itemsRepresentable_ofJson items
  | object fields => exact fieldsRepresentable_ofJson fields
  | _ => rfl

theorem itemsRepresentable_ofJson (items : List Json) :
    itemsRepresentable (itemsOfJson items) = true := by
  cases items with
  | nil => rfl
  | cons item rest =>
    rw [itemsOfJson, itemsRepresentable, isRepresentable_ofJson item, itemsRepresentable_ofJson rest]
    rfl

theorem fieldsRepresentable_ofJson (fields : List (String × Json)) :
    fieldsRepresentable (fieldsOfJson fields) = true := by
  cases fields with
  | nil => rfl
  | cons field rest =>
    obtain ⟨name, value⟩ := field
    rw [fieldsOfJson, fieldsRepresentable, isRepresentable_ofJson value,
      fieldsRepresentable_ofJson rest]
    rfl

end

private theorem tagged?_ofJson {tag kind : String} {kinds : String → Option (List String)}
    {fields : Fields Json} (known : kinds kind = some (Fields.names fields))
    (apart : tag ∉ Fields.names fields) :
    (ofJson (.object ((tag, .string kind) :: fields))).tagged? tag kinds =
      some (kind, fieldsOfJson fields) := by
  have other : ∀ entry ∈ fieldsOfJson fields, entry.1 ≠ tag := by
    intro entry member same
    obtain ⟨field, inside, rfl⟩ := mem_fieldsOfJson member
    exact apart (same ▸ Fields.mem_names inside)
  have alone : (fieldsOfJson fields).filter (·.1 == tag) = [] := by
    rw [List.filter_eq_nil_iff]
    exact fun entry member => by simpa using other entry member
  have kept : (fieldsOfJson fields).filter (·.1 != tag) = fieldsOfJson fields := by
    rw [List.filter_eq_self]
    exact fun entry member => by simpa using other entry member
  have found : field? ((tag, ofJson (.string kind)) :: fieldsOfJson fields) tag string? = some kind := by
    simp [field?, single?, alone, ofJson, string?]
  unfold tagged?
  rw [isRepresentable_ofJson]
  simp only [Bool.not_true, Bool.false_eq_true, if_false, ofJson, ofFields, fieldsOfJson] at found ⊢
  simp [found, known, kept]

end Document

namespace Event

/-- An event that can be written: its numbers have 64 bits, its time is a date and its path is a
text. -/
def Fits : Event → Prop
  | compilerStarted compileId timestamp inputFileCount =>
    compileId ≤ maxCount ∧ IsDate timestamp ∧ inputFileCount ≤ maxCount
  | compilerCompleted compileId _ _ counts => compileId ≤ maxCount ∧ counts.Fits
  | compilerError compileId _ => compileId ≤ maxCount
  | activeFileChanged path => ∃ text, path.text? = some text

/-- The duration that an event tells, if it does, is read as it is written. -/
def Legible : Event → Prop
  | compilerCompleted _ duration _ _ => (Number.float duration).Rereads
  | _ => True

/-- The name of an event as its kind, then its fields. -/
def jsonOf (event : Event) (fields : Fields Json) : Json :=
  .object (("type", .string event.name) :: fields)

private theorem tag_eq_name (event : Event) : event.tag = event.name := by cases event <;> rfl

private theorem toJson?_of_fields? {event : Event} {fields : Fields Json}
    (given : event.fields? = some fields) : event.toJson? = some (event.jsonOf fields) := by
  rw [toJson?, given, tag_eq_name]
  rfl

/-- What an event is written as: its kind, then the fields of that kind and no others, with
fingerprints in the order of all names. It is read back from there. -/
structure WrittenAs (event : Event) (fields : Fields Json) : Prop where
  written : event.toJson? = some (event.jsonOf fields)
  known : fieldNames event.name = some (Fields.names fields)
  ordered : ∀ members, ("chunkHashes", .object members) ∈ fields →
    (Fields.names members).Sublist (ChunkName.all.map ChunkName.text)
  value : ofDocument? (ofJson (event.jsonOf fields)) = some event
  text : event.Legible → ofText? (event.jsonOf fields).text = some event

private theorem fits_of_read {document : Document} {event : Event}
    (read : ofDocument? document = some event) : event.Fits := by
  simp only [ofDocument?, Option.bind_eq_bind, Option.bind_eq_some_iff] at read
  obtain ⟨⟨kind, fields⟩, _, read⟩ := read
  dsimp only at read
  split at read
  · simp only [Option.bind_eq_some_iff, Option.pure_def, Option.some.injEq] at read
    obtain ⟨compileId, first, timestamp, second, count, third, rfl⟩ := read
    obtain ⟨_, first⟩ := field?_eq_some first
    obtain ⟨_, second⟩ := field?_eq_some second
    obtain ⟨_, third⟩ := field?_eq_some third
    exact ⟨natUpTo?_le first, isDate_of_read second, natUpTo?_le third⟩
  · simp only [Option.bind_eq_some_iff, Option.pure_def, Option.some.injEq] at read
    obtain ⟨compileId, first, duration, _, hashes, _, counts, fourth, rfl⟩ := read
    obtain ⟨_, first⟩ := field?_eq_some first
    obtain ⟨_, fourth⟩ := field?_eq_some fourth
    exact ⟨natUpTo?_le first, WorldSummary.fits_of_read fourth⟩
  · simp only [Option.bind_eq_some_iff, Option.pure_def, Option.some.injEq] at read
    obtain ⟨compileId, first, message, _, rfl⟩ := read
    obtain ⟨_, first⟩ := field?_eq_some first
    exact natUpTo?_le first
  · simp only [Option.bind_eq_some_iff, Option.pure_def, Option.some.injEq] at read
    obtain ⟨path, found, rfl⟩ := read
    obtain ⟨document, found⟩ := field?_eq_some found
    obtain ⟨text, _, rfl⟩ := Option.map_eq_some_iff.mp found
    exact ⟨text, fromUTF8?_octets text⟩
  · cases read

section
variable {event : Event} {fields : Fields Json}

private theorem text_of_value (value : ofDocument? (ofJson (event.jsonOf fields)) = some event)
    (readable : ∀ entry ∈ fields, entry.2.Readable 1) :
    ofText? (event.jsonOf fields).text = some event := by
  have whole : (event.jsonOf fields).Readable 2 :=
    Json.Readable.object_iff.mpr (List.forall_mem_cons.mpr ⟨.string _, readable⟩)
  exact (read?_text blind_event (whole.mono (by decide))).trans value

end

private theorem writtenAs_started {compileId count : Nat} {time : Int}
    (fits : (compilerStarted compileId time count).Fits) :
    (compilerStarted compileId time count).WrittenAs [("compileId", Json.nat compileId),
      ("timestamp", timestampJson time), ("inputFileCount", Json.nat count)] := by
  obtain ⟨small, date, few⟩ := fits
  have first := returns_nat small
  have second := returns_timestamp date
  have third := returns_nat few
  have value : ofDocument? (ofJson ((compilerStarted compileId time count).jsonOf
      [("compileId", Json.nat compileId), ("timestamp", timestampJson time),
        ("inputFileCount", Json.nat count)])) = some (compilerStarted compileId time count) := by
    rw [jsonOf, ofDocument?, tagged?_ofJson rfl (by simp [Fields.names])]
    show (do
      let compileId ← natUpTo? maxCount (ofJson (Json.nat compileId))
      let time ← timestamp? (ofJson (timestampJson time))
      let count ← natUpTo? maxCount (ofJson (Json.nat count))
      return compilerStarted compileId time count) = _
    rw [first, second, third]
    rfl
  refine ⟨toJson?_of_fields? rfl, rfl, ?_, value, fun _ => text_of_value value ?_⟩
  · intro members member
    simp [timestampJson, Json.nat] at member
  · simp only [List.forall_mem_cons]
    exact ⟨readable_nat small, ⟨legible_timestamp date, .number _⟩, readable_nat few,
      List.forall_mem_nil _⟩

private theorem writtenAs_completed {compileId : Nat} {duration : Binary64}
    {hashes : PerChunk (Option ContentHash)} {counts : WorldSummary}
    (fits : (compilerCompleted compileId duration hashes counts).Fits) :
    (compilerCompleted compileId duration hashes counts).WrittenAs
      [("compileId", Json.nat compileId), ("durationMs", Json.float duration),
        ("chunkHashes", hashesToJson hashes), ("worldCounts", counts.toJson)] := by
  obtain ⟨small, few⟩ := fits
  have first := returns_nat small
  have second := returns_hashes hashes
  have third := WorldSummary.returns few
  have value : ofDocument? (ofJson ((compilerCompleted compileId duration hashes counts).jsonOf
      [("compileId", Json.nat compileId), ("durationMs", Json.float duration),
        ("chunkHashes", hashesToJson hashes), ("worldCounts", counts.toJson)])) =
      some (compilerCompleted compileId duration hashes counts) := by
    rw [jsonOf, ofDocument?, tagged?_ofJson rfl (by simp [Fields.names])]
    show (do
      let compileId ← natUpTo? maxCount (ofJson (Json.nat compileId))
      let hashes ← chunkHashes? (ofJson (hashesToJson hashes))
      let counts ← WorldSummary.ofDocument? (ofJson counts.toJson)
      return compilerCompleted compileId duration hashes counts) = _
    rw [first, second, third]
    rfl
  refine ⟨toJson?_of_fields? rfl, rfl, ?_, value, fun rereads => text_of_value value ?_⟩
  · intro members member
    have written : hashesToJson hashes = .object members := by
      simpa [eq_comm] using member
    exact sublist_hashes written
  · simp only [List.forall_mem_cons]
    exact ⟨readable_nat small, .number rereads, readable_hashes hashes 0,
      WorldSummary.readable few 0, List.forall_mem_nil _⟩

private theorem writtenAs_error {compileId : Nat} {message : String}
    (fits : (compilerError compileId message).Fits) :
    (compilerError compileId message).WrittenAs
      [("compileId", Json.nat compileId), ("error", .string message)] := by
  have first := returns_nat fits
  have value : ofDocument? (ofJson ((compilerError compileId message).jsonOf
      [("compileId", Json.nat compileId), ("error", .string message)])) =
      some (compilerError compileId message) := by
    rw [jsonOf, ofDocument?, tagged?_ofJson rfl (by simp [Fields.names])]
    show (do
      let compileId ← natUpTo? maxCount (ofJson (Json.nat compileId))
      return compilerError compileId message) = _
    rw [first]
    rfl
  refine ⟨toJson?_of_fields? rfl, rfl, ?_, value, fun _ => text_of_value value ?_⟩
  · intro members member
    simp at member
  · simp only [List.forall_mem_cons]
    exact ⟨readable_nat fits, .string _, List.forall_mem_nil _⟩

private theorem writtenAs_activeFile {path : Path} {text : String}
    (spelled : path.text? = some text) :
    (activeFileChanged path).WrittenAs [("path", .string text)] := by
  have same : Path.ofText text = path :=
    congrArg Path.mk (octets_of_fromUTF8? spelled)
  have given : (activeFileChanged path).fields? = some [("path", .string text)] := by
    rw [fields?, spelled]
    rfl
  have value : ofDocument? (ofJson ((activeFileChanged path).jsonOf [("path", .string text)])) =
      some (activeFileChanged path) := by
    rw [jsonOf, ofDocument?, tagged?_ofJson rfl (by simp [Fields.names]), ← same]
    rfl
  refine ⟨toJson?_of_fields? given, rfl, ?_, value, fun _ => text_of_value value ?_⟩
  · intro members member
    simp at member
  · simp only [List.forall_mem_cons]
    exact ⟨.string _, List.forall_mem_nil _⟩

private theorem writtenAs_of_fits {event : Event} (fits : event.Fits) :
    ∃ fields, event.WrittenAs fields := by
  cases event with
  | compilerStarted => exact ⟨_, writtenAs_started fits⟩
  | compilerCompleted => exact ⟨_, writtenAs_completed fits⟩
  | compilerError => exact ⟨_, writtenAs_error fits⟩
  | activeFileChanged =>
    obtain ⟨text, spelled⟩ := fits
    exact ⟨_, writtenAs_activeFile spelled⟩

private theorem lines_reread {events : List Event}
    (each : ∀ event ∈ events, event.Fits ∧ event.Legible) :
    (CommandLine.eventLines events).map ofText? = events.map some := by
  induction events with
  | nil => rfl
  | cons event rest ih =>
    obtain ⟨⟨fits, legible⟩, later⟩ := List.forall_mem_cons.mp each
    obtain ⟨fields, writes⟩ := writtenAs_of_fits fits
    have line : CommandLine.eventLines (event :: rest) =
        (event.jsonOf fields).text :: CommandLine.eventLines rest := by
      simp [CommandLine.eventLines, writes.written]
    rw [line, List.map_cons, writes.text legible, ih later, List.map_cons]

/-- Events are read back from what they are written as, those that were read too, and the lines of
events that a command prints are read as these events. -/
theorem published_reread :
    (∀ event : Event, event.Fits → ∃ fields, event.WrittenAs fields) ∧
      (∀ text event, ofText? text = some event → event.Fits ∧ ∃ fields, event.WrittenAs fields) ∧
      ∀ events : List Event, (∀ event ∈ events, event.Fits ∧ event.Legible) →
        (CommandLine.eventLines events).map ofText? = events.map some ∧
          ∀ line ∈ CommandLine.eventLines events, '\n' ∉ line.toList := by
  refine ⟨fun event fits => writtenAs_of_fits fits, fun text event read => ?_,
    fun events each => ⟨lines_reread each, fun line member feed => ?_⟩⟩
  · obtain ⟨document, _, read⟩ := Option.bind_eq_some_iff.mp read
    have fits := fits_of_read read
    exact ⟨fits, writtenAs_of_fits fits⟩
  · obtain ⟨event, _, written⟩ := List.mem_filterMap.mp member
    obtain ⟨json, _, rfl⟩ := Option.map_eq_some_iff.mp written
    have printable := json.plain_text '\n' feed
    exact absurd printable (by decide)

def unorderedLine : String :=
  "\x7b\"chunkHashes\":\x7b\"diagnostics\":\"d\",\"syntaxTree\":\"s\"\x7d,\"host\":[1]," ++
    "\"worldCounts\":[1,2,3],\"durationMs\":1.5,\"type\":\"compiler.completed\",\"compileId\":1\x7d"

def orderedLine : String :=
  "\x7b\"type\":\"compiler.completed\",\"compileId\":1,\"durationMs\":1.5," ++
    "\"chunkHashes\":\x7b\"syntaxTree\":\"s\",\"diagnostics\":\"d\"\x7d," ++
    "\"worldCounts\":\x7b\"entities\":1,\"locations\":2,\"exits\":3\x7d\x7d"

theorem unordered_reread : ∃ event, ofText? unorderedLine = some event ∧
    event.toJson?.map Json.text = some orderedLine ∧ ofText? orderedLine = some event := by
  have read : (ofText? unorderedLine).map (fun event => (event.toJson?.map Json.text,
      match event with
      | compilerCompleted _ duration _ _ => decide (duration = ⟨false, 6755399441055744, -52⟩)
      | _ => true)) = some (some orderedLine, true) := by decide +kernel
  obtain ⟨event, found, same⟩ := Option.map_eq_some_iff.mp read
  obtain ⟨line, told⟩ := Prod.mk.inj same
  obtain ⟨_, fields, writes⟩ := published_reread.2.1 unorderedLine event found
  have legible : event.Legible := by
    cases event with
    | compilerCompleted _ duration =>
      obtain rfl := of_decide_eq_true told
      exact ⟨⟨false, [1], some [5], none⟩, by decide +kernel, by decide +kernel⟩
    | _ => trivial
  refine ⟨event, found, line, ?_⟩
  have text : (event.jsonOf fields).text = orderedLine := by
    rw [writes.written] at line
    exact Option.some.inj line
  rw [← text]
  exact writes.text legible

end Event

end LiveCompile
