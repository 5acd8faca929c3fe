import LiveCompile.Proofs.PipelineDownstream

/-! The fingerprints that are published with a compile. They are collected from the first chunk of
an output to the last, while the chunk of a name is looked for from the last to the first. Both come
to the same chunk, and it is the one whose fingerprint a cache holds after it took a value from the
output. -/

namespace LiveCompile

namespace PerChunk

private theorem length_entries {α : Type} (table : PerChunk (Option α)) :
    table.entries.length = ChunkName.all.countP fun name => (table.get name).isSome := by
  simp [entries, List.length_filterMap_eq_countP]

end PerChunk

namespace CompilerOutput

private theorem get_collected (chunks : List RawChunk) (hashes : PerChunk (Option ContentHash))
    (name : ChunkName) :
    (chunks.foldl (fun hashes chunk => hashes.set chunk.name (some chunk.hash)) hashes).get name =
      ((chunks.reverse.find? (·.name = name)).map (·.hash)).or (hashes.get name) := by
  induction chunks generalizing hashes with
  | nil => rfl
  | cons chunk rest ih =>
    rw [List.foldl_cons, ih, PerChunk.get_set, List.reverse_cons, List.find?_append]
    cases rest.reverse.find? (·.name = name) with
    | some later => rfl
    | none =>
      by_cases own : chunk.name = name
      · simp [own]
      · simp [own, Ne.symm own]

private theorem get_chunkHashes (output : CompilerOutput) (name : ChunkName) :
    output.chunkHashes.get name = (output.chunk? name).map (·.hash) := by
  rw [chunkHashes, get_collected, PerChunk.get_ofFn, Option.or_none]
  rfl

private theorem distinctChunkCount_eq (output : CompilerOutput) :
    output.distinctChunkCount = ChunkName.all.countP fun name => (output.chunk? name).isSome := by
  simp [distinctChunkCount, PerChunk.length_entries, get_chunkHashes]

/-- The last chunk of every name decodes. -/
def Readable (output : CompilerOutput) : Prop :=
  ∀ name chunk, output.Last name chunk → ∃ value, ChunkValue.decode? name chunk.payload = some value

end CompilerOutput

namespace Cache

def fingerprints (cache : Cache) : PerChunk (Option ContentHash) :=
  .ofFn fun name => Option.map (·.hash) <| cache.entry? name

/-- What becomes of the entry of a name: it has the fingerprint of the chunk that its value was
taken from, or it stays because no chunk of the name decodes. -/
inductive Holds (cache : Cache) (output : CompilerOutput) (name : ChunkName) (next : Cache) :
    Provenance → Prop where
  | taken {chunk entry how} (last : output.chunk? name = some chunk)
      (held : next.entry? name = some entry) (same : entry.hash = chunk.hash) :
      Holds cache output name next how
  | kept {how} (undecoded : ∀ chunk, output.chunk? name = some chunk →
        ChunkValue.decode? name chunk.payload = none)
      (same : next.entry? name = cache.entry? name)
      (other : how = .retained ∨ how = .defaulted) : Holds cache output name next how

section
variable {cache later last : Cache} {output : CompilerOutput} {name : ChunkName}

private theorem fallback_how (cache : Cache) (name : ChunkName) :
    (cache.fallback name).2 = .retained ∨ (cache.fallback name).2 = .defaulted := by
  unfold fallback
  split
  · exact .inl rfl
  · exact .inr rfl

private theorem hash_of_held? {entry : CacheEntry} (held : cache.held? name = some entry) :
    ∃ stored, cache.entry? name = some stored ∧ stored.hash = entry.hash := by
  obtain ⟨stored, there, rest⟩ := Option.bind_eq_some_iff.mp held
  obtain ⟨value, _, made⟩ := Option.bind_eq_some_iff.mp rest
  exact ⟨stored, there, by rw [← Option.some.inj made]⟩

private theorem resolveChunk_holds (cache : Cache) (output : CompilerOutput) (name : ChunkName) :
    Holds cache output name (cache.resolveChunk output name).2
      (cache.resolveChunk output name).1.2 := by
  unfold resolveChunk
  cases last : output.chunk? name with
  | none => exact .kept (by simp [last]) rfl (cache.fallback_how name)
  | some chunk =>
    dsimp only
    cases matching : (cache.held? name).filter (·.hash = chunk.hash) with
    | some entry =>
      obtain ⟨held, same⟩ := Option.filter_eq_some_iff.mp matching
      obtain ⟨stored, there, equal⟩ := hash_of_held? held
      exact .taken last there (equal.trans (of_decide_eq_true same))
    | none =>
      cases decoded : ChunkValue.decode? name chunk.payload with
      | some value =>
        have stored : Cache.entry? (cache.store name chunk value).2 name =
            some ⟨chunk.hash, cache.nextToken, value⟩ := by
          simp [store, entry?, PerChunk.get_set]
        exact .taken last stored rfl
      | none =>
        refine .kept ?_ rfl (cache.fallback_how name)
        rintro _ again
        rwa [← Option.some.inj (last.symm.trans again)]

theorem Holds.beside {how : Provenance} (before : Beside name cache later) {next : Cache}
    (holds : Holds later output name next how) (after : Beside name next last) :
    Holds cache output name last how := by
  cases holds with
  | taken chunk held same => exact .taken chunk (after.entry.trans held) same
  | kept undecoded same other =>
    exact .kept undecoded (after.entry.trans (same.trans before.entry)) other

/-- The entry of a name after an output was resolved, for a cache of any kind. -/
theorem resolve_holds (cache : Cache) (output : CompilerOutput) (name : ChunkName) :
    Holds cache output name (cache.resolve output).2
      ((cache.resolve output).1.provenance.get name) := by
  obtain ⟨front, back, split, earlier, later⟩ := all_split name
  simp only [Cache.resolve, PerChunk.get_ofFn, split, resolveChunks_append]
  generalize PerChunk.ofFn _ = start
  obtain ⟨before, _⟩ := resolveChunks_beside earlier output start cache
  generalize resolveChunks output front start cache = middle at before
  obtain ⟨after, same⟩ := resolveChunks_beside later output
    (middle.1.set name (middle.2.resolveChunk output name).1) (middle.2.resolveChunk output name).2
  have gotten : (resolveChunks output (name :: back) middle.1 middle.2).1.get name =
      (middle.2.resolveChunk output name).1 := same.trans (by simp [PerChunk.get_set])
  rw [gotten]
  exact (middle.2.resolveChunk_holds output name).beside before after

private theorem entry?_of_isEmpty (empty : cache.isEmpty = true) (name : ChunkName) :
    cache.entry? name = none := by
  have none : cache.entries.entries = [] := by simpa [isEmpty, names] using empty
  show cache.entries.get name = _
  simpa using List.filterMap_eq_nil_iff.mp none name (ChunkName.mem_all name)

private theorem fingerprints_of_readable (empty : cache.isEmpty = true)
    (readable : output.Readable) : (cache.resolve output).2.fingerprints = output.chunkHashes := by
  refine PerChunk.ext_get fun name => ?_
  rw [fingerprints, PerChunk.get_ofFn, CompilerOutput.get_chunkHashes]
  cases cache.resolve_holds output name with
  | taken chunk held same => rw [chunk, held, Option.map_some, Option.map_some, same]
  | kept undecoded same =>
    rw [same, entry?_of_isEmpty empty]
    cases found : output.chunk? name with
    | none => rfl
    | some chunk =>
      obtain ⟨value, decoded⟩ := readable name chunk (CompilerOutput.chunk?_eq_some.mp found)
      cases (undecoded chunk found).symm.trans decoded

private theorem size_eq (cache : Cache) : cache.size = cache.fingerprints.entries.length := by
  simp [size, names, PerChunk.length_entries, fingerprints, entry?]

/-- What a name's value was taken from in this output has the fingerprint that the cache holds. -/
theorem held_of_taken (cache : Cache) (output : CompilerOutput) {name : ChunkName}
    (taken : (cache.resolve output).1.provenance.get name = .resolved ∨
      (cache.resolve output).1.provenance.get name = .reused) :
    ∃ entry, Cache.entry? (cache.resolve output).2 name = some entry ∧
      output.chunkHashes.get name = some entry.hash := by
  cases cache.resolve_holds output name with
  | @taken chunk entry _ last held same =>
    refine ⟨entry, held, ?_⟩
    rw [CompilerOutput.get_chunkHashes, last, Option.map_some, same]
  | kept _ _ other => rcases taken with how | how <;> simp [how] at other

end

end Cache

namespace CompilerOutput

open Pipeline

/-- The published fingerprints of an output are those of its chunks, one for each name that has a
chunk. Whatever a cache held, it holds the published fingerprint of every name whose value comes
from the output. If it held nothing and the output decodes, it holds exactly what is published, and
so it does in every run of a pipeline in which a compile ends with the output. -/
theorem published_hashes_held (output : CompilerOutput) :
    (∀ name, output.chunkHashes.get name = (output.chunk? name).map (·.hash)) ∧
    output.distinctChunkCount =
      ChunkName.all.countP (fun name => (output.chunk? name).isSome) ∧
    (∀ cache : Cache,
      let resolved := (cache.resolve output).1
      let next := (cache.resolve output).2
      (∀ name, resolved.provenance.get name = .resolved ∨ resolved.provenance.get name = .reused →
        ∃ entry, next.entry? name = some entry ∧
          output.chunkHashes.get name = some entry.hash) ∧
      (cache.isEmpty = true → output.Readable →
        next.size = output.distinctChunkCount ∧ next.fingerprints = output.chunkHashes)) ∧
    ∀ config cache turns turn, (Actor.start config cache).Admits (turns ++ [turn]) →
      turn.wake = .finished (.ok output) →
      let actor := (Actor.start config cache).after turns
      ∃ compileId duration hashes counts rest,
        actor.output turn = .publish (.compilerCompleted compileId duration hashes counts) :: rest ∧
        hashes = output.chunkHashes ∧
        (actor.cache.isEmpty = true → output.Readable →
          hashes = (actor.next turn).cache.fingerprints) := by
  refine ⟨output.get_chunkHashes, output.distinctChunkCount_eq, fun cache => ⟨?_, ?_⟩, ?_⟩
  · exact fun name => cache.held_of_taken output
  · intro empty readable
    have same := Cache.fingerprints_of_readable empty readable
    exact ⟨by rw [Cache.size_eq, same, distinctChunkCount], same⟩
  · intro config cache turns turn admitted ended actor
    obtain ⟨reached, awaited, _⟩ := Actor.admits_append.mp admitted
    obtain ⟨flight, delivered⟩ :=
      ((Actor.Coherent.start config cache).after reached).delivered awaited ended
    obtain ⟨rest, told⟩ := delivered.told
    refine ⟨_, _, _, _, _, told, rfl, fun empty readable => ?_⟩
    rw [delivered.cache, Cache.fingerprints_of_readable empty readable]

/-- Two chunks of one name of which only the last decodes. The first compile of a pipeline ends with
them. -/
theorem published_hashes_held_repeated :
    let files : List (Path × String) := [(⟨[97]⟩, "x")]
    let output : CompilerOutput := { chunks :=
      [⟨.diagnostics, "7", ⟨"a"⟩⟩, ⟨.symbolTable, "\x7b\x7d", ⟨"b"⟩⟩,
        ⟨.diagnostics, "\x7b\"items\":[]\x7d", ⟨"c"⟩⟩] }
    let turns : List Turn := [⟨0, files, .command (.compileNow 0)⟩]
    let turn : Turn := ⟨5, files, .finished (.ok output)⟩
    let actor := (Actor.start {} .empty).after turns
    (Actor.start {} .empty).Admits (turns ++ [turn]) ∧ actor.cache.isEmpty = true ∧
      output.Readable ∧ output.distinctChunkCount = 2 ∧
      (Cache.empty.resolve output).1.provenance.get .diagnostics = .resolved ∧
      (∃ entry, Cache.entry? (Cache.empty.resolve output).2 .diagnostics = some entry ∧
        entry.hash = ⟨"c"⟩) ∧
      (Cache.empty.resolve output).2.size = 2 ∧
      ∃ compileId duration counts rest,
        actor.output turn = .publish (.compilerCompleted compileId duration
          (actor.next turn).cache.fingerprints counts) :: rest := by
  intro files output turns turn actor
  have admitted : (Actor.start {} .empty).Admits (turns ++ [turn]) := ⟨rfl, rfl, trivial⟩
  have readable : output.Readable := by
    intro name chunk last
    rw [← chunk?_eq_some] at last
    have decodes : (output.chunk? name).all fun chunk =>
        (ChunkValue.decode? name chunk.payload).isSome := by
      cases name <;> decide +kernel
    rw [last] at decodes
    exact Option.isSome_iff_exists.mp decodes
  have counted : output.distinctChunkCount = 2 := by decide +kernel
  have resolved : (Cache.empty.resolve output).1.provenance.get .diagnostics = .resolved := by
    decide +kernel
  obtain ⟨hashes, _, caches, runs⟩ := published_hashes_held output
  obtain ⟨taken, whole⟩ := caches .empty
  obtain ⟨entry, held, same⟩ := taken .diagnostics (.inl resolved)
  obtain ⟨compileId, duration, _, counts, rest, told, _, listed⟩ :=
    runs {} .empty turns turn admitted rfl
  refine ⟨admitted, rfl, readable, counted, resolved, ⟨entry, held, ?_⟩,
    (whole rfl readable).1.trans counted, compileId, duration, counts, rest, ?_⟩
  · rw [hashes] at same
    exact (Option.some.inj same).symm
  · rw [← listed rfl readable]
    exact told

end CompilerOutput

end LiveCompile
