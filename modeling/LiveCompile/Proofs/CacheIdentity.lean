import LiveCompile.Proofs.CacheHistory

/-! When two values that a cache hands out are one. A value is known by its token: the defaults
have the first ones, and each value that is decoded takes the next one. So two values of a name
are one exactly if both are the default, or if nothing was decoded for the name and nothing was
cleared since the first of them. An output that is resolved again at once is given the very
same values. -/

namespace LiveCompile

/-- How a value is obtained that was obtained in some way just before. -/
def Provenance.again : Provenance → Provenance
  | resolved => reused
  | how => how

namespace Cache

/-- The value of the entry of a name, if there is one, was made after so many others. -/
def Newer (bound : Nat) (cache : Cache) (name : ChunkName) : Prop :=
  ∀ entry, cache.entry? name = some entry → bound ≤ entry.value.token

/-- In some operations there is no clear and no output for which the name is decoded. -/
structure Lasts (name : ChunkName) (cache : Cache) (operations : List Operation) : Prop where
  uncleared : .clear ∉ operations
  undecoded : ∀ front output back, operations = front ++ .resolve output :: back →
    ((cache.after front).resolve output).1.provenance.get name ≠ .resolved

/-- Every entry and every default is a value of its name, so that none is ever refused. -/
structure Typed (cache : Cache) : Prop where
  entries : ∀ name entry, cache.entry? name = some entry →
    ChunkValue.ofName? name entry.value = some entry.value
  defaults : ∀ name,
    ChunkValue.ofName? name (cache.defaults.get name) = some (cache.defaults.get name)

section
variable {cache next : Cache} {output : CompilerOutput} {name : ChunkName} {bound : Nat}
variable {shared : Shared ChunkValue} {how : Provenance}

private theorem perform_ages (cache : Cache) (operation : Operation) :
    Ages cache (cache.perform operation) := by
  cases operation with
  | resolve output => exact resolve_ages cache output
  | clear => exact ⟨rfl, Nat.le_refl _⟩

theorem Newer.perform (newer : Newer bound cache name) (proper : cache.Proper)
    (reached : bound ≤ cache.nextToken) (operation : Operation) :
    Newer bound (cache.perform operation) name := by
  intro entry had
  cases operation with
  | clear => simp [Cache.clear, entry?] at had
  | resolve output =>
    obtain ⟨_, _, _, _, resolution⟩ := proper.resolution output name
    change Cache.entry? (cache.resolve output).2 name = some entry at had
    cases resolution with
    | reused _ held _ kept | retained held _ kept =>
      obtain rfl := Option.some.inj (kept.symm.trans had)
      exact newer _ held
    | resolved _ _ _ fresh _ stored =>
      obtain rfl := Option.some.inj (stored.symm.trans had)
      exact Nat.le_trans reached fresh
    | defaulted _ _ kept => simp [kept] at had

theorem Newer.after (newer : Newer bound cache name) (proper : cache.Proper)
    (reached : bound ≤ cache.nextToken) (operations : List Operation) :
    Newer bound (cache.after operations) name := by
  induction operations generalizing cache with
  | nil => exact newer
  | cons operation rest ih =>
    exact ih (newer.perform proper reached operation) (proper.perform operation)
      (Nat.le_trans reached (perform_ages cache operation).tokens)

private theorem after_ages (cache : Cache) (operations : List Operation) :
    Ages cache (cache.after operations) := by
  induction operations generalizing cache with
  | nil => exact .refl cache
  | cons operation rest ih => exact (perform_ages cache operation).trans (ih _)

theorem lasts_nil (name : ChunkName) (cache : Cache) : Lasts name cache [] :=
  ⟨List.not_mem_nil, by simp⟩

private theorem not_lasts_clear {rest : List Operation} : ¬ Lasts name cache (.clear :: rest) :=
  fun lasts => lasts.uncleared List.mem_cons_self

private theorem lasts_resolve {rest : List Operation} :
    Lasts name cache (.resolve output :: rest) ↔
      (cache.resolve output).1.provenance.get name ≠ .resolved ∧
        Lasts name (cache.resolve output).2 rest := by
  constructor
  · intro lasts
    refine ⟨by simpa using lasts.undecoded [] output rest rfl, ?_, ?_⟩
    · exact fun member => lasts.uncleared (List.mem_cons_of_mem _ member)
    · rintro front other back rfl
      simpa using lasts.undecoded (.resolve output :: front) other back rfl
  · rintro ⟨undecoded, onward⟩
    refine ⟨by simpa using onward.uncleared, ?_⟩
    intro front other back split
    cases front with
    | nil =>
      obtain ⟨⟨⟩, rfl⟩ := List.cons.inj split
      simpa using undecoded
    | cons first front =>
      obtain ⟨rfl, rfl⟩ := List.cons.inj split
      simpa using onward.undecoded front other back rfl

/-- Either the entry of a name outlasts some operations, or what is there after them was made
in them. -/
theorem Proper.lasts_or_newer (proper : cache.Proper) (name : ChunkName)
    (operations : List Operation) :
    Lasts name cache operations ∧ Cache.entry? (cache.after operations) name = cache.entry? name ∨
      ¬ Lasts name cache operations ∧ Newer cache.nextToken (cache.after operations) name := by
  induction operations generalizing cache with
  | nil => exact .inl ⟨lasts_nil name cache, rfl⟩
  | cons operation rest ih =>
    cases operation with
    | clear =>
      have bare : Newer cache.nextToken cache.clear name := by
        intro entry had
        simp [Cache.clear, entry?] at had
      exact .inr ⟨not_lasts_clear, bare.after proper.clear (Nat.le_refl _) rest⟩
    | resolve output =>
      have older := (resolve_ages cache output).tokens
      obtain ⟨_, _, _, rfl, resolution⟩ := proper.resolution output name
      have accounts := resolution.accounts proper
      by_cases decoded : (cache.resolve output).1.provenance.get name = .resolved
      · refine .inr ⟨fun lasts => (lasts_resolve.mp lasts).1 decoded, ?_⟩
        have made : Newer cache.nextToken (cache.resolve output).2 name := by
          intro entry had
          rw [decoded] at resolution
          cases resolution with
          | resolved _ _ _ fresh _ stored =>
            obtain rfl := Option.some.inj (stored.symm.trans had)
            exact fresh
        exact made.after (proper.resolve output) older rest
      · have kept : Cache.entry? (cache.resolve output).2 name = cache.entry? name :=
          Classical.byContradiction fun changed => decoded (accounts.resolved.mpr changed)
        rcases ih (proper.resolve output) with ⟨lasts, outlasts⟩ | ⟨ends, newer⟩
        · exact .inl ⟨lasts_resolve.mpr ⟨decoded, lasts⟩, outlasts.trans kept⟩
        · refine .inr ⟨fun lasts => ends (lasts_resolve.mp lasts).2, ?_⟩
          exact fun entry had => Nat.le_trans older (newer entry had)

private theorem reserved (operations : List Operation) (name : ChunkName) :
    Newer ChunkName.all.length (Cache.empty.after operations) name := by
  refine Newer.after ?_ .empty (Nat.le_refl _) operations
  intro entry had
  simp [Cache.empty, entry?] at had

private theorem index_lt (name : ChunkName) : name.index < ChunkName.all.length :=
  List.idxOf_lt_length_of_mem (ChunkName.mem_all name)

theorem Accounts.used (accounts : Accounts cache output name next shared how)
    (proper : next.Proper) (filled : ChunkName.all.length ≤ next.nextToken) :
    shared.token < next.nextToken := by
  cases entry : next.entry? name with
  | none =>
    rw [accounts.empty entry]
    exact Nat.lt_of_lt_of_le (index_lt name) filled
  | some held =>
    rw [accounts.held held entry]
    exact proper.used name held entry

theorem Resolution.fresh (resolution : Resolution cache output name next shared how)
    (decoded : how = .resolved) : cache.nextToken ≤ shared.token := by
  cases resolution with
  | resolved _ _ _ fresh => exact fresh
  | _ => cases decoded

/-- Two values of a name, the second one handed out after some operations more. -/
theorem Accounts.same_iff {later last : Cache} {second : CompilerOutput} {given : Shared ChunkValue}
    {way : Provenance} {between : List Operation} (old : Accounts cache output name next shared how)
    (new : Accounts later second name last given way) (proper : next.Proper)
    (reserved : Newer ChunkName.all.length next name)
    (reservedLast : Newer ChunkName.all.length last name) (reached : next.after between = last) :
    shared.same given = true ↔
      how = .defaulted ∧ way = .defaulted ∨
        how ≠ .defaulted ∧ way ≠ .defaulted ∧ Lasts name next between := by
  have default := index_lt name
  simp only [Shared.same, decide_eq_true_eq, ne_eq, old.defaulted, new.defaulted]
  cases first : next.entry? name with
  | none =>
    rw [old.empty first]
    cases final : last.entry? name with
    | none => simp [new.empty final]
    | some entry =>
      have apart : name.index ≠ entry.value.token :=
        Nat.ne_of_lt (Nat.lt_of_lt_of_le default (reservedLast entry final))
      simp [new.held entry final, apart]
  | some entry =>
    rw [old.held entry first]
    cases final : last.entry? name with
    | none =>
      have apart : entry.value.token ≠ name.index :=
        Nat.ne_of_gt (Nat.lt_of_lt_of_le default (reserved entry first))
      simp [new.empty final, apart]
    | some other =>
      rw [new.held other final]
      rcases proper.lasts_or_newer name between with ⟨lasts, kept⟩ | ⟨ends, newer⟩
      · rw [reached, first, final] at kept
        obtain rfl := Option.some.inj kept
        simp [lasts]
      · have apart : entry.value.token ≠ other.value.token :=
          Nat.ne_of_lt (Nat.lt_of_lt_of_le (proper.used name entry first)
            (newer other (reached ▸ final)))
        simp [ends, apart]

theorem Proper.reuses (proper : cache.Proper) {chunk : RawChunk} {entry : CacheEntry}
    (last : output.Last name chunk) (held : cache.entry? name = some entry)
    (same : chunk.hash = entry.hash) :
    cache.resolveChunk output name = ((entry.value, .reused), cache) := by
  have had := proper.held? (.refl name cache)
  simp [Cache.resolveChunk, CompilerOutput.chunk?_eq_some.mpr last, had, held, same,
    Option.filter_some]

theorem Proper.falls_back (proper : cache.Proper)
    (unread : ∀ chunk, output.Last name chunk →
      (∀ entry, cache.entry? name = some entry → chunk.hash ≠ entry.hash) ∧
        ChunkValue.decode? name chunk.payload = none) :
    cache.resolveChunk output name = (cache.fallback name, cache) := by
  unfold Cache.resolveChunk
  cases last : output.chunk? name with
  | none => rfl
  | some chunk =>
    obtain ⟨different, fails⟩ := unread chunk (CompilerOutput.chunk?_eq_some.mp last)
    have unheld : (Option.filter (·.hash = chunk.hash) <| cache.entry? name) = none := by
      simp only [Option.filter_eq_none_iff, decide_eq_true_eq]
      exact fun entry held same => different entry held same.symm
    simp only [proper.held? (.refl name cache), unheld, fails]

theorem Resolution.again (resolution : Resolution cache output name next shared how)
    (proper : next.Proper) : next.resolveChunk output name = ((shared, how.again), next) := by
  have held? := proper.held? (.refl name next)
  cases resolution with
  | reused last _ same kept => exact proper.reuses last kept same
  | resolved last _ _ _ _ stored => exact proper.reuses last stored rfl
  | retained _ unread kept =>
    rw [proper.falls_back]
    · simp [Cache.fallback, held?, kept, Provenance.again]
    · intro chunk last
      obtain ⟨different, fails⟩ := unread chunk last
      exact ⟨by simpa [kept] using different, fails⟩
  | defaulted _ unread kept =>
    rw [proper.falls_back]
    · simp [Cache.fallback, held?, kept, proper.defaultValue (.refl name next), Provenance.again]
    · exact fun chunk last => ⟨by simp [kept], unread chunk last⟩

private theorem resolveChunks_still {given : ChunkName → Shared ChunkValue × Provenance}
    (still : ∀ name, cache.resolveChunk output name = (given name, cache)) (names : List ChunkName)
    (results : PerChunk (Shared ChunkValue × Provenance)) :
    (resolveChunks output names results cache).2 = cache ∧
      ∀ name, (resolveChunks output names results cache).1.get name =
        if name ∈ names then given name else results.get name := by
  induction names generalizing results with
  | nil => exact ⟨rfl, by simp [resolveChunks]⟩
  | cons first rest ih =>
    have stepped : resolveChunks output (first :: rest) results cache =
        resolveChunks output rest (results.set first (given first)) cache := by
      simp [resolveChunks, still first]
    obtain ⟨kept, gave⟩ := ih (results.set first (given first))
    rw [stepped]
    refine ⟨kept, fun name => ?_⟩
    rw [gave name, PerChunk.get_set]
    by_cases same : name = first
    · subst same; simp
    · simp [same]

private theorem resolve_still {given : ChunkName → Shared ChunkValue × Provenance}
    (still : ∀ name, cache.resolveChunk output name = (given name, cache)) :
    cache.resolve output =
      ({ header := output.header
         values := .ofFn fun name => (given name).1
         provenance := .ofFn fun name => (given name).2 }, cache) := by
  obtain ⟨kept, gave⟩ := resolveChunks_still still ChunkName.all
    (.ofFn fun name => (cache.defaultValue name, .defaulted))
  simp only [Cache.resolve, kept, gave, ChunkName.mem_all, if_true]

theorem Proper.resolve_again (proper : cache.Proper) (output : CompilerOutput) :
    let first := (cache.resolve output).1
    (cache.resolve output).2.resolve output =
      ({ first with provenance := .ofFn fun name => (first.provenance.get name).again },
        (cache.resolve output).2) := by
  intro first
  have still : ∀ name, (cache.resolve output).2.resolveChunk output name =
      ((first.values.get name, (first.provenance.get name).again), (cache.resolve output).2) := by
    intro name
    obtain ⟨_, _, rfl, rfl, resolution⟩ := proper.resolution output name
    exact resolution.again (proper.resolve output)
  rw [resolve_still still]
  refine congrArg (·, _) ?_
  have values : PerChunk.ofFn (fun name => first.values.get name) = first.values :=
    PerChunk.ext_get fun name => PerChunk.get_ofFn _ name
  simp only [values]
  rfl

theorem Proper.typed (proper : cache.Proper) : cache.Typed := by
  refine ⟨fun name entry held => ?_, fun name => ?_⟩
  · simp [ChunkValue.ofName?, proper.named name entry held]
  · simp [ChunkValue.ofName?, proper.defaults, Cache.empty, ChunkValue.name_empty]

end

/-- After any outputs and clears an output is resolved, and after any more of them another one.
The two values of a name are one exactly if both are the default, or neither is, and in between
nothing was cleared and the name was not decoded, in the second output included. A value that
is decoded for the second output is none of those that the first one was given. An entry holds
the very value that was handed out. The first output resolved once more at once is given the
same values and leaves the cache as it is; what was decoded is then reused. And at no point, even
between two names of one output, is an entry or a default not a value of its name. -/
theorem identity_from_history (before between : List Operation) (first second : CompilerOutput) :
    let cache := Cache.empty.after before
    let old := (cache.resolve first).1
    let middle := (cache.resolve first).2
    let new := ((middle.after between).resolve second).1
    (∀ name, (old.values.get name).same (new.values.get name) = true ↔
        old.provenance.get name = .defaulted ∧ new.provenance.get name = .defaulted ∨
          old.provenance.get name ≠ .defaulted ∧ new.provenance.get name ≠ .defaulted ∧
            Lasts name middle (between ++ [.resolve second])) ∧
      (∀ name other, new.provenance.get name = .resolved →
        (new.values.get name).same (old.values.get other) = false) ∧
      (∀ name entry, middle.entry? name = some entry →
        entry.value.same (old.values.get name) = true) ∧
      middle.resolve first =
        ({ old with provenance := .ofFn fun name => (old.provenance.get name).again }, middle) ∧
      ∀ names results, Typed (resolveChunks first names results cache).2 := by
  intro cache old middle new
  have proper : cache.Proper := Proper.empty.after before
  have properMiddle : middle.Proper := proper.resolve first
  have properLater : (middle.after between).Proper := properMiddle.after between
  have reaches : middle = Cache.empty.after (before ++ [.resolve first]) := by
    simp [middle, cache]
  have filled : ChunkName.all.length ≤ middle.nextToken := by
    rw [reaches]
    exact (after_ages Cache.empty _).tokens
  have accounts := proper.accounts first
  have accountsLater := properLater.accounts second
  refine ⟨fun name => ?_, fun name other decoded => ?_, fun name entry held => ?_,
    proper.resolve_again first, fun names results =>
      (proper.resolveChunks_proper first names results).typed⟩
  · have last : middle.after (between ++ [.resolve second]) =
        ((middle.after between).resolve second).2 := by simp
    have low : Newer ChunkName.all.length middle name := by
      rw [reaches]
      exact reserved _ name
    have lowLast :
        Newer ChunkName.all.length (middle.after (between ++ [.resolve second])) name := by
      rw [reaches, ← after_append]
      exact reserved _ name
    rw [last] at lowLast
    exact (accounts name).same_iff (accountsLater name) properMiddle low lowLast last
  · obtain ⟨_, _, rfl, rfl, resolution⟩ := properLater.resolution second name
    have fresh := resolution.fresh decoded
    have used := (accounts other).used properMiddle filled
    have older := (after_ages middle between).tokens
    have apart : (old.values.get other).token < (new.values.get name).token :=
      Nat.lt_of_lt_of_le used (Nat.le_trans older fresh)
    simpa only [Shared.same, decide_eq_false_iff_not] using Nat.ne_of_gt apart
  · rw [(accounts name).held entry held]
    simp [Shared.same]

end Cache

end LiveCompile
