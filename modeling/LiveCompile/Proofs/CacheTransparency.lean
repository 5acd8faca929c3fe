import LiveCompile.Proofs.CacheHistory

/-! Memoization changes no value. As long as one fingerprint of a name never stands for two
different values, every output is given the values that a resolver without a cache gives: it
decodes every chunk anew and looks through the outputs since the last clear for a name whose
chunk is absent or does not decode. -/

namespace LiveCompile

/-- The typed value of the last chunk of a name, if its payload fits. -/
def CompilerOutput.value? (output : CompilerOutput) (name : ChunkName) : Option ChunkValue :=
  (output.chunk? name).bind RawChunk.value?

theorem CompilerOutput.value?_eq_some {output : CompilerOutput} {name : ChunkName}
    {value : ChunkValue} :
    output.value? name = some value ↔ ∃ hash, output.Reads name hash value := by
  simp only [value?, Option.bind_eq_some_iff, chunk?_eq_some]
  constructor
  · rintro ⟨chunk, last, decoded⟩
    obtain ⟨_, rfl⟩ := last.mem
    exact ⟨chunk.hash, chunk, last, rfl, decoded⟩
  · rintro ⟨hash, chunk, last, _, decoded⟩
    obtain ⟨_, rfl⟩ := last.mem
    exact ⟨chunk, last, decoded⟩

namespace Cache

def outputs (operations : List Operation) : List CompilerOutput :=
  operations.filterMap fun
    | .resolve output => some output
    | .clear => none

/-- Any two chunks of one name with one fingerprint have payloads that decode alike. -/
def Consistent (outputs : List CompilerOutput) : Prop :=
  ∀ one ∈ outputs, ∀ other ∈ outputs, ∀ chunk ∈ one.chunks, ∀ again ∈ other.chunks,
    chunk.name = again.name → chunk.hash = again.hash → chunk.value? = again.value?

/-- The value of a name without a cache: from the last chunk of the name in the output if it
decodes, else from that of the newest earlier output where it does, else the empty default. -/
def uncached (earlier : List CompilerOutput) (output : CompilerOutput) (name : ChunkName) :
    ChunkValue :=
  ((output :: earlier.reverse).findSome? (·.value? name)).getD (.empty name)

section
variable {earlier : List CompilerOutput} {output : CompilerOutput} {cache : Cache}
variable {name : ChunkName} {entry : CacheEntry}

private theorem name_uncached (earlier : List CompilerOutput) (output : CompilerOutput)
    (name : ChunkName) : (uncached earlier output name).name = name := by
  unfold uncached
  cases found : (output :: earlier.reverse).findSome? (·.value? name) with
  | none => exact ChunkValue.name_empty name
  | some value =>
    obtain ⟨source, _, decoded⟩ := List.exists_of_findSome?_eq_some found
    obtain ⟨_, _, _, _, read⟩ := CompilerOutput.value?_eq_some.mp decoded
    exact ChunkValue.name_of_decode? read

private theorem recent_subset (operations : List Operation) (start : List CompilerOutput) :
    operations.foldl recent start ⊆ start ++ outputs operations := by
  induction operations generalizing start with
  | nil => simp
  | cons operation rest ih =>
    intro output member
    have member := ih (recent start operation) member
    cases operation with
    | resolve first => simpa [recent, outputs] using member
    | clear => exact List.mem_append_right start (by simpa [recent, outputs] using member)

theorem Consistent.subset {outputs others : List CompilerOutput} (consistent : Consistent outputs)
    (within : others ⊆ outputs) : Consistent others :=
  fun one first other second => consistent one (within first) other (within second)

/-- Among consistent outputs the entry of a name has the value that a search for the newest one
finds: every output after its origin has the same value or none. -/
theorem Origin.newest {outputs : List CompilerOutput} (origin : Origin outputs name entry)
    (consistent : Consistent outputs) :
    outputs.reverse.findSome? (·.value? name) = some entry.value.value := by
  obtain ⟨before, source, later, rfl, reads, agree⟩ := origin
  have read : source.value? name = some entry.value.value :=
    CompilerOutput.value?_eq_some.mpr ⟨_, reads⟩
  have same : ∀ value, later.reverse.findSome? (·.value? name) = some value →
      value = entry.value.value := by
    intro value found
    obtain ⟨other, member, decoded⟩ := List.exists_of_findSome?_eq_some found
    have member : other ∈ later := by simpa using member
    obtain ⟨hash, chunk, last, rfl, decodes⟩ := CompilerOutput.value?_eq_some.mp decoded
    obtain ⟨origin, first, same, original⟩ := reads
    have alike : chunk.hash = origin.hash := by
      rcases agree other member chunk last with alike | fails
      · exact alike.trans same.symm
      · simp [fails] at decodes
    obtain ⟨mem, rfl⟩ := last.mem
    obtain ⟨memFirst, named⟩ := first.mem
    have equal := consistent other (by simp [member]) source (by simp) chunk mem origin memFirst
      named.symm alike
    simp only [RawChunk.value?, decodes, named, original, Option.some.injEq] at equal
    exact equal
  simp only [List.reverse_append, List.reverse_cons, List.append_assoc, List.findSome?_append,
    List.singleton_append, List.findSome?_cons, read]
  cases found : later.reverse.findSome? (·.value? name) with
  | none => rfl
  | some value => rw [same value found]; rfl

/-- A cache with a consistent history gives the values of a resolver that has none. -/
theorem History.value (history : History earlier cache name) (proper : cache.Proper)
    (consistent : Consistent (earlier ++ [output])) :
    (cache.resolve output).1.value name = uncached earlier output name := by
  have accounts := proper.accounts output name
  have onward := history.resolve proper output
  have reversed : (earlier ++ [output]).reverse = output :: earlier.reverse := by simp
  simp only [ResolvedOutput.value, uncached, ← reversed]
  cases held : Cache.entry? (cache.resolve output).2 name with
  | some entry => rw [accounts.held entry held, (onward.origin entry held).newest consistent]; rfl
  | none =>
    have unread : (earlier ++ [output]).reverse.findSome? (·.value? name) = none := by
      simp only [List.findSome?_eq_none_iff, List.mem_reverse]
      intro other member
      cases decoded : other.value? name with
      | none => rfl
      | some value =>
        obtain ⟨hash, reads⟩ := CompilerOutput.value?_eq_some.mp decoded
        obtain ⟨entry, kept⟩ := onward.held other member hash value reads
        simp [held] at kept
    rw [accounts.empty held, unread]
    rfl

end

/-- In a run whose outputs are consistent, every output is given exactly what a resolver without
a cache gives it, for every chunk name. So the sizes of the world and whether there are errors
are those of the world and the diagnostics that are found without a cache. -/
theorem resolve_eq_uncached (before later : List Operation) (output : CompilerOutput)
    (consistent : Consistent (outputs (before ++ .resolve output :: later))) :
    let resolved := ((Cache.empty.after before).resolve output).1
    let plain := uncached (sinceClear before) output
    (∀ name, resolved.value name = plain name) ∧
      (∃ world, plain .compiledWorld = .compiledWorld world ∧
        resolved.worldCounts = .ofWorld world.world) ∧
      ∃ diagnostics, plain .diagnostics = .diagnostics diagnostics ∧
        resolved.hasErrors = diagnostics.hasErrors := by
  intro resolved plain
  have within : sinceClear before ++ [output] ⊆ outputs (before ++ .resolve output :: later) := by
    have earlier : sinceClear before ⊆ outputs before := recent_subset before []
    simp only [outputs, List.filterMap_append, List.filterMap_cons, List.append_subset]
    exact ⟨fun other member => List.mem_append_left _ (earlier member), by simp⟩
  have value : ∀ name, resolved.value name = plain name := by
    intro name
    have history : History (sinceClear before) (Cache.empty.after before) name :=
      (History.empty name).after .empty before
    exact history.value (Proper.empty.after before) (consistent.subset within)
  obtain ⟨world, isWorld⟩ :=
    ChunkValue.compiledWorld_of_name (name_uncached (sinceClear before) output .compiledWorld)
  obtain ⟨diagnostics, isDiagnostics⟩ :=
    ChunkValue.diagnostics_of_name (name_uncached (sinceClear before) output .diagnostics)
  refine ⟨value, ⟨world, isWorld, ?_⟩, diagnostics, isDiagnostics, ?_⟩
  · have held : resolved.value .compiledWorld = .compiledWorld world := (value _).trans isWorld
    simp only [ResolvedOutput.worldCounts, ResolvedOutput.world, held]
  · have held : resolved.value .diagnostics = .diagnostics diagnostics :=
      (value _).trans isDiagnostics
    simp only [ResolvedOutput.hasErrors, ResolvedOutput.diagnostics, held]

/-- A chunk that does not decode comes after one that does, and again after a clear. -/
theorem resolve_eq_uncached_malformed :
    let good : RawChunk := ⟨.factSet, "\x7b\"facts\":[\x7b\"subject\":\"lamp\"\x7d]\x7d", ⟨"a"⟩⟩
    let malformed : RawChunk := ⟨.factSet, "7", ⟨"b"⟩⟩
    let before : List Operation := [.resolve { chunks := [malformed, good] }]
    let output : CompilerOutput := { chunks := [good, malformed] }
    let later : List Operation := [.clear, .resolve output]
    let cache := Cache.empty.after before
    Consistent (outputs (before ++ .resolve output :: later)) ∧
      ((cache.resolve output).1.value .factSet).toJson.text =
        "\x7b\"facts\":[\x7b\"subject\":\"lamp\",\"predicate\":\"\",\"object\":null\x7d]\x7d" ∧
      (((cache.after [.resolve output, .clear]).resolve output).1.value .factSet).toJson.text =
        "\x7b\"facts\":[]\x7d" := by
  intro good malformed before output later cache
  have consistent : Consistent (outputs (before ++ .resolve output :: later)) := by
    simp [Consistent, outputs, before, later, output, good, malformed]
  have found : (uncached (sinceClear before) output .factSet).toJson.text =
      "\x7b\"facts\":[\x7b\"subject\":\"lamp\",\"predicate\":\"\",\"object\":null\x7d]\x7d" := by
    decide +kernel
  have cleared : (uncached [] output .factSet).toJson.text = "\x7b\"facts\":[]\x7d" := by
    decide +kernel
  have first := resolve_eq_uncached before later output consistent
  have second := resolve_eq_uncached (before ++ [.resolve output, .clear]) [] output consistent
  exact ⟨consistent, (congrArg (·.toJson.text) (first.1 .factSet)).trans found,
    (congrArg (·.toJson.text) (second.1 .factSet)).trans cleared⟩

end Cache

end LiveCompile
