import LiveCompile.Proofs.CacheResolution
import LiveCompile.Proofs.RecordFields
import LiveCompile.Proofs.SingleCompile

/-! What the exit code of a single compile says of the compiler's reports. They are read as one
chunk. If each of them can be read, an error among them shows in the exit code; if one of them
cannot, they all count for nothing, as if there were no reports. -/

namespace LiveCompile

open Document

namespace Document

/-- A report that calls itself an error, whatever else it says and whether or not it can be read. -/
def ReportsError : Document → Prop
  | object _ fields => ∃ field ∈ fields, field.1 = "severity" ∧ field.2.label? = some "error"
  | array _ (value :: _) => value.label? = some "error"
  | _ => False

instance : DecidablePred ReportsError
  | object _ fields => inferInstanceAs (Decidable (∃ field ∈ fields, _ ∧ _))
  | array _ (value :: _) => inferInstanceAs (Decidable (value.label? = _))
  | array _ [] | verbatim _ | null | bool _ | number _ _ | string _ _ => .isFalse id

private theorem mem_of_single? {fields : Fields Document} {name : String} {found : Option Document}
    (there : single? fields name = some found) (value : Document) :
    (name, value) ∈ fields ↔ found = some value := by
  have values := filter_of_single? there
  have mem : (name, value) ∈ fields ↔ value ∈ (fields.filter (·.1 == name)).map (·.2) := by
    simp
  rw [mem, values, Option.mem_toList]

private theorem exists_object (found : Option Document) (holds : Fields Document → Prop)
    [DecidablePred holds] (checked : ∃ fields ∈ found.bind members?, holds fields) :
    ∃ span fields, found = some (.object span fields) ∧ holds fields := by
  obtain ⟨fields, there, held⟩ := checked
  obtain ⟨document, rfl, inside⟩ := Option.bind_eq_some_iff.mp there
  cases document with
  | object span =>
    cases inside
    exact ⟨span, fields, rfl, held⟩
  | _ => cases inside

end Document

namespace Severity

private theorem ofDocument?_eq_error {document : Document} {severity : Severity}
    (read : ofDocument? document = some severity) :
    severity = .error ↔ document.label? = some "error" := by
  obtain ⟨label, labelled, found⟩ := Option.bind_eq_some_iff.mp read
  have text : severity.text = label := by simpa using List.find?_some found
  rw [labelled, ← text]
  cases severity <;> decide

end Severity

namespace Diagnostic

private theorem severity_field {fields : Fields Document} {severity : Severity}
    (read : fieldOr? fields "severity" .info Severity.ofDocument? = some severity) :
    severity = .error ↔
      ∃ field ∈ fields, field.1 = "severity" ∧ field.2.label? = some "error" := by
  obtain ⟨found, there, read⟩ := Option.bind_eq_some_iff.mp read
  have named : (∃ field ∈ fields, field.1 = "severity" ∧ field.2.label? = some "error") ↔
      ∃ value, found = some value ∧ value.label? = some "error" := by
    simp [← mem_of_single? there]
  rw [named]
  cases found with
  | none =>
    cases read
    simp
  | some value => simpa using Severity.ofDocument?_eq_error read

theorem error_iff {document : Document} {diagnostic : Diagnostic}
    (read : ofDocument? document = some diagnostic) :
    diagnostic.severity = .error ↔ document.ReportsError := by
  simp only [ofDocument?, Option.bind_eq_bind, Option.bind_eq_some_iff, Option.pure_def,
    Option.some.injEq] at read
  obtain ⟨fields, inside, severity, field, _, _, _, _, _, _, _, _, _, _, rfl⟩ := read
  rw [severity_field field]
  cases document with
  | object span members =>
    cases inside
    rfl
  | array span items =>
    obtain ⟨-, zipped⟩ := Option.ite_none_right_eq_some.mp inside
    cases zipped
    cases items with
    | nil => simp [ReportsError]
    | cons first rest =>
      have elsewhere (value : Document) :
          ("severity", value) ∉ ["message", "code", "file", "line", "column"].zip rest :=
        fun member => absurd (List.of_mem_zip member).1 (by decide)
      simp [ReportsError, fieldNames, elsewhere]
  | _ => cases inside

end Diagnostic

namespace Diagnostics

/-- The lists of reports among the members of a payload, under either name. -/
def lists (fields : Fields Document) : List Document :=
  (fields.filter fun (name, _) => name = "items" ∨ name = "diagnostics").map (·.2)

/-- The only one of some documents: nothing at all if there are several. -/
def sole? : List Document → Option (Option Document)
  | [] => some none
  | [value] => some (some value)
  | _ => none

/-- A list in which every report can be read. -/
def Legible : Document → Prop
  | .array _ reports => ∀ report ∈ reports, (Diagnostic.ofDocument? report).isSome
  | _ => False

instance : DecidablePred Legible
  | .array _ reports => inferInstanceAs (Decidable (∀ report ∈ reports, _))
  | .object _ _ | .verbatim _ | .null | .bool _ | .number _ _ | .string _ _ => .isFalse id

/-- There is at most one list of reports, and every report in it can be read. -/
def Readable (lists : List Document) : Prop := lists.length ≤ 1 ∧ ∀ list ∈ lists, Legible list

instance (lists : List Document) : Decidable (Readable lists) :=
  inferInstanceAs (Decidable (_ ∧ _))

/-- Some report in a list calls itself an error. -/
def Alarming (lists : List Document) : Prop :=
  ∃ report ∈ lists.flatMap Document.items, report.ReportsError

instance (lists : List Document) : Decidable (Alarming lists) :=
  inferInstanceAs (Decidable (∃ report ∈ _, _))

section
variable {fields : Fields Document} {span : Span} {diagnostics : Diagnostics}

private theorem filter_lists (fields : Fields Document) :
    (fields.map fun (name, value) => (canonicalName name, value)).filter (·.1 == "items") =
      (lists fields).map ("items", ·) := by
  induction fields with
  | nil => rfl
  | cons first rest ih =>
    obtain ⟨name, value⟩ := first
    by_cases items : name = "items"
    · simpa [lists, canonicalName, items] using ih
    · by_cases other : name = "diagnostics"
      · simpa [lists, canonicalName, other] using ih
      · simpa [lists, canonicalName, items, other] using ih

private theorem ofDocument?_object : ofDocument? (.object span fields) =
    (sole? (lists fields)).bind fun list =>
      list.elim (some ⟨[]⟩) fun value => (list? Diagnostic.ofDocument? value).map .mk := by
  have only : single? (fields.map fun (name, value) => (canonicalName name, value)) "items" =
      sole? (lists fields) := by
    rw [single?, filter_lists]
    rcases lists fields with _ | ⟨first, _ | ⟨second, rest⟩⟩ <;> rfl
  simp only [ofDocument?, recordMembers?, fieldOr?, only, Option.bind_eq_bind, Option.bind_some]
  rcases sole? (lists fields) with _ | _ | value
  · rfl
  · rfl
  · cases read : list? Diagnostic.ofDocument? value <;> simp [read]

private theorem isSome_list? {document : Document} :
    (list? Diagnostic.ofDocument? document).isSome = true ↔ Legible document := by
  cases document with
  | array span reports => exact isSome_mapM
  | _ => simp [list?, Legible]

private theorem isSome_ofDocument? :
    (ofDocument? (.object span fields)).isSome = true ↔ Readable (lists fields) := by
  rw [ofDocument?_object, Readable]
  rcases lists fields with _ | ⟨value, _ | ⟨second, rest⟩⟩
  · simp [sole?]
  · simpa [sole?] using isSome_list?
  · simp [sole?]

private theorem exists_error {reports : List Document} {items : List Diagnostic}
    (each : List.Forall₂ (fun report item => Diagnostic.ofDocument? report = some item)
      reports items) :
    (∃ item ∈ items, item.severity = .error) ↔ ∃ report ∈ reports, report.ReportsError := by
  induction each with
  | nil => simp
  | cons read _ ih => simp only [List.exists_mem_cons_iff, Diagnostic.error_iff read, ih]

theorem hasErrors_iff :
    diagnostics.hasErrors = true ↔ ∃ item ∈ diagnostics.items, item.severity = .error := by
  simp [hasErrors, errorCount, count, List.length_pos_iff, List.filter_eq_nil_iff]

private theorem hasErrors_read (read : ofDocument? (.object span fields) = some diagnostics) :
    diagnostics.hasErrors = true ↔ Alarming (lists fields) := by
  rw [ofDocument?_object] at read
  rw [hasErrors_iff, Alarming]
  generalize lists fields = given at read ⊢
  rcases given with _ | ⟨value, _ | ⟨second, rest⟩⟩
  · cases read
    simp
  · obtain ⟨items, listed, rfl⟩ := Option.map_eq_some_iff.mp read
    cases value with
    | array span reports => simpa [Document.items] using exists_error (forall₂_of_mapM listed)
    | _ => cases listed
  · cases read

end

end Diagnostics

namespace Cache

variable {output : CompilerOutput} {name : ChunkName} {chunk : RawChunk}

private theorem first_value (last : output.Last name chunk) :
    match ChunkValue.decode? name chunk.payload with
    | some value => (empty.resolve output).1.value name = value ∧
        (empty.resolve output).1.provenance.get name = .resolved
    | none => (empty.resolve output).1.value name = .empty name ∧
        (empty.resolve output).1.provenance.get name = .defaulted := by
  have bare : empty.entry? name = none := by simp [empty, entry?]
  obtain ⟨shared, how, value, provenance, resolution⟩ := Proper.empty.resolution output name
  rw [ResolvedOutput.value, value, provenance]
  cases resolution with
  | reused _ held => cases bare.symm.trans held
  | retained held => cases bare.symm.trans held
  | resolved again _ decoded =>
    rw [last.unique again, decoded]
    exact ⟨rfl, rfl⟩
  | defaulted _ unread =>
    rw [unread chunk last]
    exact ⟨rfl, rfl⟩

end Cache

namespace Pipeline

variable {map : BufferMap} {bus : EventBus} {capacity : Nat} {compiler : Compiler}
variable {config : PipelineConfig} {output : CompilerOutput} {chunk : RawChunk}
variable {span : Span} {fields : Fields Document}

/-- A single compile whose compiler answers is completed with what an empty cache makes of the
answer. -/
theorem Single.completed (created : EventBus.new? capacity = some bus) (filled : map.getAll ≠ [])
    (answered : (compiler [] ⟨map.getAll, config.entry⟩).result = .ok output) :
    ∃ report, compileOnce? map compiler bus config = some report ∧
      report.outcome = .completed 1 ⟨1, (Cache.empty.resolve output).1⟩ := by
  refine ⟨_, Single.compileOnce?_eq compiler config created filled, ?_⟩
  have result : (Single.reply map compiler config).result = .ok output := answered
  rw [Single.verdict, result]
  rfl

/-- The exit code of a single compile whose compiler reports something. If there is one list of
reports at most and every report in it can be read, the exit code is 1 iff one of them is an error.
Otherwise the chunk counts as one that was not written, and the exit code is 0. -/
theorem reported_errors_exit (created : EventBus.new? capacity = some bus)
    (filled : map.getAll ≠ [])
    (answered : (compiler [] ⟨map.getAll, config.entry⟩).result = .ok output)
    (last : output.Last .diagnostics chunk)
    (written : Document.read? chunk.payload = some (.object span fields)) :
    ∃ report resolved, compileOnce? map compiler bus config = some report ∧
      report.outcome = .completed 1 resolved ∧
      (Diagnostics.Readable (Diagnostics.lists fields) →
        resolved.value.provenance.get .diagnostics = .resolved ∧
        (Diagnostics.Alarming (Diagnostics.lists fields) → report.outcome.exitCode = 1) ∧
        (¬ Diagnostics.Alarming (Diagnostics.lists fields) → report.outcome.exitCode = 0)) ∧
      (¬ Diagnostics.Readable (Diagnostics.lists fields) →
        resolved.value.provenance.get .diagnostics = .defaulted ∧
        resolved.value.diagnostics = .empty ∧ report.outcome.exitCode = 0) := by
  obtain ⟨report, reported, outcome⟩ := Single.completed created filled answered
  have decode : ChunkValue.decode? .diagnostics chunk.payload =
      (Diagnostics.ofDocument? (.object span fields)).map .diagnostics := by
    rw [ChunkValue.decode?, written]
    rfl
  have first := Cache.first_value last
  refine ⟨report, _, reported, outcome, fun readable => ?_, fun unreadable => ?_⟩
  · obtain ⟨diagnostics, read⟩ :=
      Option.isSome_iff_exists.mp (Diagnostics.isSome_ofDocument?.mpr readable)
    rw [decode, read] at first
    have errors : (Cache.empty.resolve output).1.hasErrors = diagnostics.hasErrors := by
      rw [ResolvedOutput.hasErrors, ResolvedOutput.diagnostics, first.1]
    have alarming := Diagnostics.hasErrors_read read
    refine ⟨first.2, fun alarm => ?_, fun calm => ?_⟩
    · rw [outcome, Outcome.exitCode, errors, if_pos (alarming.mpr alarm)]
    · rw [outcome, Outcome.exitCode, errors, if_neg (mt alarming.mp calm)]
  · have none : Diagnostics.ofDocument? (.object span fields) = none :=
      Option.not_isSome_iff_eq_none.mp (mt Diagnostics.isSome_ofDocument?.mp unreadable)
    rw [decode, none] at first
    have silent : (Cache.empty.resolve output).1.diagnostics = .empty := by
      rw [ResolvedOutput.diagnostics, first.1]
      rfl
    refine ⟨first.2, silent, ?_⟩
    rw [outcome, Outcome.exitCode, ResolvedOutput.hasErrors, silent]
    rfl

/-- Of two chunks of reports the last has an error, given as an array, behind a hint. -/
theorem reported_errors_exit_last :
    let first : RawChunk := ⟨.diagnostics, "\x7b\x7d", ⟨"a"⟩⟩
    let last : RawChunk := ⟨.diagnostics,
      "\x7b\"diagnostics\":[\x7b\"severity\":\"hint\"\x7d,[\"error\",\"no exit\"]]\x7d", ⟨"b"⟩⟩
    let compiler : Compiler := fun _ _ => ⟨3, .ok { chunks := [first, last] }⟩
    ∃ bus report, EventBus.new? 2 = some bus ∧ oneRoom.getAll ≠ [] ∧
      compileOnce? oneRoom compiler bus {} = some report ∧ report.outcome.exitCode = 1 := by
  intro first last compiler
  have created : EventBus.new? 2 = some ⟨.new 2, .new 2, 2, 1⟩ := if_neg (by decide)
  have filled : oneRoom.getAll ≠ [] := List.cons_ne_nil _ _
  have there : CompilerOutput.Last { chunks := [first, last] } .diagnostics last :=
    CompilerOutput.chunk?_eq_some.mp rfl
  obtain ⟨span, fields, written, readable, alarming⟩ :=
    Document.exists_object (Document.read? last.payload)
      (fun fields => Diagnostics.Readable (Diagnostics.lists fields) ∧
        Diagnostics.Alarming (Diagnostics.lists fields)) (by decide +kernel)
  have answered : (compiler [] ⟨oneRoom.getAll, ({} : PipelineConfig).entry⟩).result =
    .ok { chunks := [first, last] } := rfl
  obtain ⟨report, _, reported, _, read, _⟩ :=
    reported_errors_exit created filled answered there written
  exact ⟨_, report, created, filled, reported, (read readable).2.1 alarming⟩

/-- An error is reported, but next to it stands something that is no report: the exit code is 0. -/
theorem unreadable_report_hides_error :
    let chunk : RawChunk := ⟨.diagnostics, "\x7b\"items\":[\x7b\"severity\":\"error\"," ++
      "\"message\":\"m\"\x7d,\x7b\"severity\":\"fatal\"\x7d]\x7d", ⟨"d"⟩⟩
    let output : CompilerOutput := { chunks := [chunk] }
    let compiler : Compiler := fun _ _ => ⟨0, .ok output⟩
    ∃ bus report span fields, EventBus.new? 256 = some bus ∧ oneRoom.getAll ≠ [] ∧
      output.Last .diagnostics chunk ∧ Document.read? chunk.payload = some (.object span fields) ∧
      Diagnostics.Alarming (Diagnostics.lists fields) ∧
      compileOnce? oneRoom compiler bus {} = some report ∧ report.outcome.exitCode = 0 := by
  intro chunk output compiler
  have created : EventBus.new? 256 = some ⟨.new 256, .new 256, 256, 1⟩ := if_neg (by decide)
  have filled : oneRoom.getAll ≠ [] := List.cons_ne_nil _ _
  have there : output.Last .diagnostics chunk := CompilerOutput.chunk?_eq_some.mp rfl
  obtain ⟨span, fields, written, alarming⟩ :=
    Document.exists_object (Document.read? chunk.payload)
      (fun fields => Diagnostics.Alarming (Diagnostics.lists fields)) (by decide +kernel)
  have answered : (compiler [] ⟨oneRoom.getAll, ({} : PipelineConfig).entry⟩).result =
    .ok output := rfl
  obtain ⟨report, reported, outcome⟩ := Single.completed created filled answered
  have silent : (Cache.empty.resolve output).1.hasErrors = false := by decide +kernel
  refine ⟨_, report, span, fields, created, filled, there, written, alarming, reported, ?_⟩
  rw [outcome, Outcome.exitCode, silent]
  rfl

end Pipeline

end LiveCompile
