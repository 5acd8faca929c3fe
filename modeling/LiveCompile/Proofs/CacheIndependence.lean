import LiveCompile.Proofs.CacheResolution

/-! Chunk names do not influence each other. What a cache shows of a name comes from the entry of
the name and the last chunk of it alone, and of a chunk with the fingerprint of the entry the
payload is not even looked at. So two runs that agree in these agree in all they show. -/

namespace LiveCompile.Cache

/-- What is known of an entry without regard to where its value is in memory. -/
def content? (cache : Cache) (name : ChunkName) : Option (ContentHash × ChunkValue) :=
  Option.map (fun entry => (entry.hash, entry.value.value)) <| cache.entry? name

/-- What an operation shows of a name: the value that an output is given with its provenance, and
the content of the entry afterwards. -/
structure Sight where
  given : Option (ChunkValue × Provenance)
  entry : Option (ContentHash × ChunkValue)

def sight (name : ChunkName) (cache : Cache) (operation : Operation) : Sight where
  given := match operation with
    | .resolve output =>
      some ((cache.resolve output).1.value name, (cache.resolve output).1.provenance.get name)
    | .clear => none
  entry := (cache.perform operation).content? name

def sights (name : ChunkName) (cache : Cache) : List Operation → List Sight
  | [] => []
  | operation :: rest => cache.sight name operation :: (cache.perform operation).sights name rest

/-- Two outputs that are alike to a cache in one name: they have the same last chunk of it, or
none, or each has one with the fingerprint of the entry. -/
def Alike (cache : Cache) (name : ChunkName) (one other : CompilerOutput) : Prop :=
  (∀ chunk, one.Last name chunk ↔ other.Last name chunk) ∨
    ∃ chunk again entry, one.Last name chunk ∧ other.Last name again ∧
      cache.entry? name = some entry ∧ chunk.hash = entry.hash ∧ again.hash = entry.hash

/-- Two runs with clears at the same places and otherwise outputs that are alike in one name to
the cache of the first run. -/
inductive InStep (name : ChunkName) : Cache → List Operation → List Operation → Prop where
  | done {cache} : InStep name cache [] []
  | clear {cache rest others} (onward : InStep name cache.clear rest others) :
      InStep name cache (.clear :: rest) (.clear :: others)
  | resolve {cache : Cache} {one other rest others} (alike : cache.Alike name one other)
      (onward : InStep name (cache.resolve one).2 rest others) :
      InStep name cache (.resolve one :: rest) (.resolve other :: others)

/-- An output without anything but the last chunk of a name. -/
def only (name : ChunkName) (output : CompilerOutput) : CompilerOutput :=
  { chunks := (output.chunk? name).toList }

/-- An operation with all that does not concern a name left out. -/
def Operation.only (name : ChunkName) : Operation → Operation
  | .resolve output => .resolve (Cache.only name output)
  | .clear => .clear

/-- What a name shows when there is nothing new to decode. -/
def keep (name : ChunkName) (entry : Option (ContentHash × ChunkValue)) : Sight where
  given := match entry with
    | some (_, value) => some (value, .retained)
    | none => some (.empty name, .defaulted)
  entry

/-- One name by itself: what it shows follows from its entry and the last chunk of it. -/
def settle (name : ChunkName) (entry : Option (ContentHash × ChunkValue))
    (chunk : Option RawChunk) : Sight :=
  match chunk with
  | none => keep name entry
  | some chunk =>
    match entry.filter (·.1 = chunk.hash) with
    | some (_, value) => ⟨some (value, .reused), entry⟩
    | none =>
      match ChunkValue.decode? name chunk.payload with
      | some value => ⟨some (value, .resolved), some (chunk.hash, value)⟩
      | none => keep name entry

section
variable {cache later : Cache} {name : ChunkName} {one other output : CompilerOutput}

/-- Where the last chunk, if there is one, has another fingerprint than the entry and does not
decode, the name keeps what it has. -/
theorem settle_unread {entry : Option (ContentHash × ChunkValue)} {chunk? : Option RawChunk}
    (unread : ∀ chunk, chunk? = some chunk →
      (∀ held, entry = some held → chunk.hash ≠ held.1) ∧
        ChunkValue.decode? name chunk.payload = none) :
    settle name entry chunk? = keep name entry := by
  cases chunk? with
  | none => rfl
  | some chunk =>
    obtain ⟨different, fails⟩ := unread chunk rfl
    have unheld : entry.filter (·.1 = chunk.hash) = none := by
      simp only [Option.filter_eq_none_iff, decide_eq_true_eq]
      exact fun held had same => different held had same.symm
    simp only [settle, unheld, fails]

/-- Each way in which a value comes about is what the name makes of it by itself. -/
theorem Resolution.settles {next : Cache} {shared : Shared ChunkValue} {how : Provenance}
    (resolution : Resolution cache output name next shared how) :
    settle name (cache.content? name) (output.chunk? name) =
      ⟨some (shared.value, how), next.content? name⟩ := by
  cases resolution with
  | reused last held same kept =>
    simp [settle, content?, held, kept, CompilerOutput.chunk?_eq_some.mpr last, same,
      Option.filter_some]
  | @resolved chunk _ _ last different decoded _ _ stored =>
    have unheld : (cache.content? name).filter (·.1 = chunk.hash) = none := by
      simp only [content?, Option.filter_eq_none_iff, Option.map_eq_some_iff, decide_eq_true_eq]
      rintro _ ⟨entry, held, rfl⟩ same
      exact different entry held same.symm
    simp only [settle, CompilerOutput.chunk?_eq_some.mpr last, unheld, decoded]
    simp [content?, stored]
  | retained held unread kept =>
    rw [settle_unread]
    · simp [keep, content?, held, kept]
    · intro chunk last
      obtain ⟨different, fails⟩ := unread chunk (CompilerOutput.chunk?_eq_some.mp last)
      exact ⟨by simpa [content?, held] using different, fails⟩
  | defaulted bare unread kept =>
    rw [settle_unread]
    · simp [keep, content?, bare, kept]
    · intro chunk last
      exact ⟨by simp [content?, bare], unread chunk (CompilerOutput.chunk?_eq_some.mp last)⟩

theorem Proper.sight (proper : cache.Proper) (name : ChunkName) (output : CompilerOutput) :
    cache.sight name (.resolve output) =
      settle name (cache.content? name) (output.chunk? name) := by
  obtain ⟨shared, how, rfl, rfl, resolution⟩ := proper.resolution output name
  exact resolution.settles.symm

theorem Alike.settle (alike : cache.Alike name one other) :
    settle name (cache.content? name) (one.chunk? name) =
      settle name (cache.content? name) (other.chunk? name) := by
  rcases alike with same | ⟨chunk, again, entry, last, lastAgain, held, hash, hashAgain⟩
  · have equal : one.chunk? name = other.chunk? name := by
      ext chunk
      simp only [CompilerOutput.chunk?_eq_some, same]
    rw [equal]
  · simp [Cache.settle, content?, held, hash, hashAgain, Option.filter_some,
      CompilerOutput.chunk?_eq_some.mpr last, CompilerOutput.chunk?_eq_some.mpr lastAgain]

private theorem chunk?_only (name : ChunkName) (output : CompilerOutput) :
    (only name output).chunk? name = output.chunk? name := by
  cases last : output.chunk? name with
  | none =>
    simp only [only, last]
    rfl
  | some chunk =>
    have named := (CompilerOutput.chunk?_eq_some.mp last).mem.2
    simp only [only, last]
    simp [CompilerOutput.chunk?, named]

private theorem alike_only (cache : Cache) (name : ChunkName) (output : CompilerOutput) :
    cache.Alike name output (only name output) := by
  refine .inl fun chunk => ?_
  rw [← CompilerOutput.chunk?_eq_some, ← CompilerOutput.chunk?_eq_some, chunk?_only]

private theorem inStep_only (name : ChunkName) (cache : Cache) (operations : List Operation) :
    InStep name cache operations (operations.map (.only name)) := by
  induction operations generalizing cache with
  | nil => exact .done
  | cons operation rest ih =>
    cases operation with
    | clear => exact .clear (ih _)
    | resolve output => exact .resolve (alike_only cache name output) (ih _)

private theorem sight_clear (name : ChunkName) (cache : Cache) :
    cache.sight name .clear = ⟨none, none⟩ := by
  simp [sight, Cache.clear, content?, entry?]

theorem InStep.sights {first second : List Operation} (inStep : InStep name cache first second)
    (proper : cache.Proper) (properLater : later.Proper)
    (agree : cache.content? name = later.content? name) :
    cache.sights name first = later.sights name second := by
  induction inStep generalizing later with
  | done => rfl
  | @clear cache _ _ _ ih =>
    have shown : cache.sight name .clear = later.sight name .clear := by
      rw [sight_clear, sight_clear]
    have onward := ih proper.clear properLater.clear (congrArg Sight.entry shown)
    simp only [Cache.sights, shown]
    exact congrArg _ onward
  | @resolve cache one other _ _ alike _ ih =>
    have shown : cache.sight name (.resolve one) = later.sight name (.resolve other) := by
      rw [proper.sight, properLater.sight, ← agree, alike.settle]
    have onward := ih (proper.resolve one) (properLater.resolve other) (congrArg Sight.entry shown)
    simp only [Cache.sights, shown]
    exact congrArg _ onward

end

/-- Two runs that agree in what one chunk name brings show the same of that name after every
operation: the value by content, its provenance and the content of its entry. Where the chunk
has the fingerprint that the entry has in the first run, even its payload may differ. Nothing
else in the outputs matters, neither chunks of other names nor earlier ones of the same name
nor headers: the runs may just as well be left with nothing but the last chunk of the name. -/
theorem sights_independent (name : ChunkName) (first second : List Operation)
    (inStep : InStep name Cache.empty first second) :
    Cache.empty.sights name first = Cache.empty.sights name second ∧
      Cache.empty.sights name first = Cache.empty.sights name (first.map (.only name)) :=
  ⟨inStep.sights .empty .empty rfl, (inStep_only name Cache.empty first).sights .empty .empty rfl⟩

/-- In the second run there are chunks of another name, a header and an earlier chunk of the name
that does not decode, and then the fingerprint of the entry comes with another payload. -/
theorem sights_independent_tampered :
    let good : RawChunk := ⟨.factSet, "\x7b\"facts\":[\x7b\"subject\":\"lamp\"\x7d]\x7d", ⟨"a"⟩⟩
    let tampered : RawChunk := ⟨.factSet, "7", ⟨"a"⟩⟩
    let stray : RawChunk := ⟨.symbolTable, "\x7b\x7d", ⟨"b"⟩⟩
    let plain : CompilerOutput := { chunks := [good] }
    let first : List Operation := [.resolve plain, .resolve plain, .clear]
    let second : List Operation :=
      [.resolve { header := { compileId := "7" }, chunks := [tampered, good, stray] },
        .resolve { chunks := [stray, tampered] }, .clear]
    InStep .factSet Cache.empty first second ∧
      Cache.empty.sights .factSet first = Cache.empty.sights .factSet second ∧
      (Cache.empty.sights .factSet second).map (fun sight => sight.given.map (·.2)) =
        [some .resolved, some .reused, none] := by
  intro good tampered stray plain first second
  have hashed : (Option.map CacheEntry.hash <|
      Cache.entry? (Cache.empty.resolve plain).2 .factSet) = some ⟨"a"⟩ := by decide +kernel
  obtain ⟨entry, held, hash⟩ := Option.map_eq_some_iff.mp hashed
  have inStep : InStep .factSet Cache.empty first second := by
    refine .resolve (.inl fun chunk => ?_) (.resolve (.inr ?_) (.clear .done))
    · rw [← CompilerOutput.chunk?_eq_some, ← CompilerOutput.chunk?_eq_some]
      rfl
    · exact ⟨good, tampered, entry, CompilerOutput.chunk?_eq_some.mp rfl,
        CompilerOutput.chunk?_eq_some.mp rfl, held, hash.symm, hash.symm⟩
  exact ⟨inStep, (sights_independent .factSet first second inStep).1, by decide +kernel⟩

end LiveCompile.Cache
