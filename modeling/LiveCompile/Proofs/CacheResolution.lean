import LiveCompile.Cache

/-! What a cache does with one chunk name. The names are resolved one after the other, but none
sees what was done for another: the value, its provenance and the entry of a name come from
the last chunk of that name and the entry it had. -/

namespace LiveCompile

namespace CompilerOutput

/-- The chunk is the last one of its name. -/
def Last (output : CompilerOutput) (name : ChunkName) (chunk : RawChunk) : Prop :=
  ∃ front back, output.chunks = front ++ chunk :: back ∧ chunk.name = name ∧
    ∀ other ∈ back, other.name ≠ name

theorem chunk?_eq_some {output : CompilerOutput} {name : ChunkName} {chunk : RawChunk} :
    output.chunk? name = some chunk ↔ output.Last name chunk := by
  simp only [chunk?, List.find?_eq_some_iff_append, decide_eq_true_eq, Bool.not_eq_true',
    decide_eq_false_iff_not]
  constructor
  · rintro ⟨named, back, front, split, unnamed⟩
    refine ⟨front.reverse, back.reverse, ?_, named, by simpa using unnamed⟩
    simpa using congrArg List.reverse split
  · rintro ⟨front, back, split, named, unnamed⟩
    exact ⟨named, back.reverse, front.reverse, by simp [split], by simpa using unnamed⟩

private theorem chunk?_eq_none {output : CompilerOutput} {name : ChunkName} :
    output.chunk? name = none ↔ ∀ chunk, ¬ output.Last name chunk := by
  simp only [← chunk?_eq_some, Option.eq_none_iff_forall_ne_some, ne_eq]

theorem Last.mem {output : CompilerOutput} {name : ChunkName} {chunk : RawChunk}
    (last : output.Last name chunk) : chunk ∈ output.chunks ∧ chunk.name = name := by
  obtain ⟨front, back, split, named, _⟩ := last
  exact ⟨by simp [split], named⟩

theorem Last.unique {output : CompilerOutput} {name : ChunkName} {chunk other : RawChunk}
    (last : output.Last name chunk) (again : output.Last name other) : chunk = other :=
  Option.some.inj ((chunk?_eq_some.mpr last).symm.trans (chunk?_eq_some.mpr again))

/-- The last chunk of a name carries the fingerprint and decodes to the value. -/
def Reads (output : CompilerOutput) (name : ChunkName) (hash : ContentHash) (value : ChunkValue) :
    Prop :=
  ∃ chunk, output.Last name chunk ∧ chunk.hash = hash ∧
    ChunkValue.decode? name chunk.payload = some value

end CompilerOutput

theorem ChunkValue.name_of_decode? {name : ChunkName} {payload : String} {value : ChunkValue}
    (decoded : ChunkValue.decode? name payload = some value) : value.name = name := by
  obtain ⟨document, _, read⟩ := Option.bind_eq_some_iff.mp decoded
  exact ChunkValue.name_of_ofDocument? read

namespace Cache

inductive Operation where
  | resolve (output : CompilerOutput)
  | clear

def perform (cache : Cache) : Operation → Cache
  | .resolve output => (cache.resolve output).2
  | .clear => cache.clear

def after (cache : Cache) (operations : List Operation) : Cache := operations.foldl perform cache

section
variable (cache : Cache) (operation : Operation) (operations others : List Operation)

@[simp] theorem perform_resolve (output : CompilerOutput) :
    cache.perform (.resolve output) = (cache.resolve output).2 := rfl

@[simp] theorem perform_clear : cache.perform .clear = cache.clear := rfl

@[simp] theorem after_nil : cache.after [] = cache := rfl

@[simp] theorem after_cons :
    cache.after (operation :: operations) = (cache.perform operation).after operations := rfl

@[simp] theorem after_append :
    cache.after (operations ++ others) = (cache.after operations).after others := List.foldl_append

end

/-- What holds of every cache that is made empty: entries have values of their names, tokens in
use are below the next one, and the defaults are the empty values. -/
structure Proper (cache : Cache) : Prop where
  named : ∀ name entry, cache.entry? name = some entry → entry.value.value.name = name
  used : ∀ name entry, cache.entry? name = some entry → entry.value.token < cache.nextToken
  defaults : cache.defaults = Cache.empty.defaults

theorem Proper.empty : Cache.empty.Proper := by
  constructor <;> simp [Cache.empty, entry?]

theorem Proper.clear {cache : Cache} (proper : cache.Proper) : cache.clear.Proper := by
  constructor <;> simp [Cache.clear, entry?]
  exact proper.defaults

/-- How the value of a name comes about when an output is resolved, and what is the entry of
the name in the next cache. -/
inductive Resolution (cache : Cache) (output : CompilerOutput) (name : ChunkName)
    (next : Cache) : Shared ChunkValue → Provenance → Prop where
  /-- the chunk has the fingerprint of the entry -/
  | reused {chunk entry} (last : output.Last name chunk) (held : cache.entry? name = some entry)
      (same : chunk.hash = entry.hash) (kept : next.entry? name = some entry) :
      Resolution cache output name next entry.value .reused
  /-- the chunk is decoded into a value of its own -/
  | resolved {chunk value token} (last : output.Last name chunk)
      (different : ∀ entry, cache.entry? name = some entry → chunk.hash ≠ entry.hash)
      (decoded : ChunkValue.decode? name chunk.payload = some value)
      (fresh : cache.nextToken ≤ token) (used : token < next.nextToken)
      (stored : next.entry? name = some ⟨chunk.hash, token, value⟩) :
      Resolution cache output name next ⟨token, value⟩ .resolved
  /-- there is no new chunk that decodes, but an entry -/
  | retained {entry} (held : cache.entry? name = some entry)
      (unread : ∀ chunk, output.Last name chunk → chunk.hash ≠ entry.hash ∧
        ChunkValue.decode? name chunk.payload = none)
      (kept : next.entry? name = some entry) :
      Resolution cache output name next entry.value .retained
  /-- there is no chunk that decodes and no entry -/
  | defaulted (bare : cache.entry? name = none)
      (unread : ∀ chunk, output.Last name chunk → ChunkValue.decode? name chunk.payload = none)
      (kept : next.entry? name = none) :
      Resolution cache output name next ⟨name.index, .empty name⟩ .defaulted

/-- The second cache has the same defaults and has made no fewer values. -/
structure Ages (cache later : Cache) : Prop where
  defaults : later.defaults = cache.defaults
  tokens : cache.nextToken ≤ later.nextToken

/-- The second cache has also the same entry of a name. -/
structure Beside (name : ChunkName) (cache later : Cache) : Prop extends Ages cache later where
  entry : later.entry? name = cache.entry? name

section
variable {cache later last : Cache} {output : CompilerOutput} {name other : ChunkName}

theorem Ages.refl (cache : Cache) : Ages cache cache := ⟨rfl, Nat.le_refl _⟩

theorem Ages.trans (first : Ages cache later) (second : Ages later last) : Ages cache last :=
  ⟨second.defaults.trans first.defaults, Nat.le_trans first.tokens second.tokens⟩

theorem Beside.refl (name : ChunkName) (cache : Cache) : Beside name cache cache :=
  ⟨.refl cache, rfl⟩

theorem Beside.trans (first : Beside name cache later) (second : Beside name later last) :
    Beside name cache last :=
  ⟨first.toAges.trans second.toAges, second.entry.trans first.entry⟩

theorem Proper.held? (proper : cache.Proper) (beside : Beside name cache later) :
    later.held? name = cache.entry? name := by
  cases entry : cache.entry? name with
  | none =>
    have bare : later.entries.get name = none := beside.entry.trans entry
    simp [Cache.held?, bare]
  | some held =>
    have holds : later.entries.get name = some held := beside.entry.trans entry
    simp [Cache.held?, holds, ChunkValue.ofName?, proper.named name held entry]

theorem Proper.defaultValue (proper : cache.Proper) (beside : Beside name cache later) :
    later.defaultValue name = ⟨name.index, .empty name⟩ := by
  simp [Cache.defaultValue, beside.defaults, proper.defaults, Cache.empty, ChunkValue.ofName?,
    ChunkValue.name_empty]

theorem Resolution.beside {shared : Shared ChunkValue} {how : Provenance}
    (resolution : Resolution cache output name later shared how) (beside : Beside name later last) :
    Resolution cache output name last shared how := by
  cases resolution with
  | reused chunk held same kept => exact .reused chunk held same (beside.entry.trans kept)
  | resolved chunk different decoded fresh used stored =>
    exact .resolved chunk different decoded fresh (Nat.lt_of_lt_of_le used beside.tokens)
      (beside.entry.trans stored)
  | retained held unread kept => exact .retained held unread (beside.entry.trans kept)
  | defaulted bare unread kept => exact .defaulted bare unread (beside.entry.trans kept)

theorem Proper.fallback (proper : cache.Proper) (beside : Beside name cache later)
    (unread : ∀ chunk, output.Last name chunk →
      (∀ entry, cache.entry? name = some entry → chunk.hash ≠ entry.hash) ∧
        ChunkValue.decode? name chunk.payload = none) :
    Resolution cache output name later (later.fallback name).1 (later.fallback name).2 := by
  rw [Cache.fallback, proper.held? beside]
  cases entry : cache.entry? name with
  | none =>
    simp only [proper.defaultValue beside]
    exact .defaulted entry (fun chunk last => (unread chunk last).2) (beside.entry.trans entry)
  | some held =>
    exact .retained entry (fun chunk last => ⟨(unread chunk last).1 held entry, (unread chunk last).2⟩)
      (beside.entry.trans entry)

theorem Proper.resolveChunk (proper : cache.Proper) (beside : Beside name cache later)
    (output : CompilerOutput) :
    Resolution cache output name (later.resolveChunk output name).2
      (later.resolveChunk output name).1.1 (later.resolveChunk output name).1.2 := by
  unfold Cache.resolveChunk
  cases last : output.chunk? name with
  | none =>
    have absent := CompilerOutput.chunk?_eq_none.mp last
    exact proper.fallback beside fun chunk last => absurd last (absent chunk)
  | some chunk =>
    have last := CompilerOutput.chunk?_eq_some.mp last
    simp only [proper.held? beside]
    cases matching : Option.filter (·.hash = chunk.hash) <| cache.entry? name with
    | some entry =>
      obtain ⟨held, same⟩ := Option.filter_eq_some_iff.mp matching
      exact .reused last held (by simpa using (of_decide_eq_true same).symm) (beside.entry.trans held)
    | none =>
      have different : ∀ entry, cache.entry? name = some entry → chunk.hash ≠ entry.hash := by
        intro entry held same
        simp [held, same] at matching
      cases decoded : ChunkValue.decode? name chunk.payload with
      | some value =>
        refine .resolved last different decoded beside.tokens (Nat.lt_succ_self _) ?_
        simp [store, entry?, PerChunk.get_set]
      | none =>
        refine proper.fallback beside fun other again => ?_
        obtain rfl := last.unique again
        exact ⟨different, decoded⟩

private theorem resolveChunk_other (cache : Cache) (output : CompilerOutput) (other : ChunkName) :
    Ages cache (cache.resolveChunk output other).2 ∧
      ∀ name, name ≠ other → Beside name cache (cache.resolveChunk output other).2 := by
  have same : Ages cache cache ∧ ∀ name, name ≠ other → Beside name cache cache :=
    ⟨.refl cache, fun name _ => .refl name cache⟩
  unfold Cache.resolveChunk
  split
  · exact same
  · split
    · exact same
    · split
      · refine ⟨⟨rfl, Nat.le_succ _⟩, fun name different => ⟨⟨rfl, Nat.le_succ _⟩, ?_⟩⟩
        simp [store, entry?, PerChunk.get_set, different]
      · exact same

private theorem resolveChunks_ages (output : CompilerOutput) (names : List ChunkName)
    (results : PerChunk (Shared ChunkValue × Provenance)) (cache : Cache) :
    Ages cache (resolveChunks output names results cache).2 := by
  induction names generalizing results cache with
  | nil => exact .refl cache
  | cons first rest ih => exact (resolveChunk_other cache output first).1.trans (ih _ _)

theorem resolveChunks_beside {names : List ChunkName} (absent : name ∉ names)
    (output : CompilerOutput) (results : PerChunk (Shared ChunkValue × Provenance))
    (cache : Cache) :
    Beside name cache (resolveChunks output names results cache).2 ∧
      (resolveChunks output names results cache).1.get name = results.get name := by
  induction names generalizing results cache with
  | nil => exact ⟨.refl name cache, rfl⟩
  | cons first rest ih =>
    rw [List.mem_cons, not_or] at absent
    obtain ⟨different, absent⟩ := absent
    obtain ⟨beside, same⟩ := ih absent (results.set first (cache.resolveChunk output first).1)
      (cache.resolveChunk output first).2
    refine ⟨((resolveChunk_other cache output first).2 name different).trans beside, same.trans ?_⟩
    simp [PerChunk.get_set, different]

theorem resolveChunks_append (output : CompilerOutput) (front back : List ChunkName)
    (results : PerChunk (Shared ChunkValue × Provenance)) (cache : Cache) :
    resolveChunks output (front ++ back) results cache =
      resolveChunks output back (resolveChunks output front results cache).1
        (resolveChunks output front results cache).2 := by
  simp [resolveChunks, List.foldl_append]

theorem all_split (name : ChunkName) :
    ∃ front back, ChunkName.all = front ++ name :: back ∧ name ∉ front ∧ name ∉ back := by
  obtain ⟨front, back, split⟩ := List.append_of_mem (ChunkName.mem_all name)
  have distinct : (front ++ name :: back).Nodup := split ▸ by decide
  simp only [List.nodup_append, List.nodup_cons] at distinct
  obtain ⟨_, ⟨later, _⟩, apart⟩ := distinct
  exact ⟨front, back, split, fun earlier => apart name earlier name List.mem_cons_self rfl, later⟩

/-- The values of an output, name by name. -/
theorem Proper.resolution (proper : cache.Proper) (output : CompilerOutput) (name : ChunkName) :
    ∃ shared how, (cache.resolve output).1.values.get name = shared ∧
      (cache.resolve output).1.provenance.get name = how ∧
      Resolution cache output name (cache.resolve output).2 shared how := by
  refine ⟨_, _, rfl, rfl, ?_⟩
  obtain ⟨front, back, split, earlier, later⟩ := all_split name
  simp only [Cache.resolve, PerChunk.get_ofFn, split, resolveChunks_append]
  generalize PerChunk.ofFn _ = start
  obtain ⟨before, _⟩ := resolveChunks_beside earlier output start cache
  generalize resolveChunks output front start cache = middle at before
  have resolution := proper.resolveChunk before output
  obtain ⟨beside, same⟩ := resolveChunks_beside later output
    (middle.1.set name (middle.2.resolveChunk output name).1) (middle.2.resolveChunk output name).2
  have gotten : (resolveChunks output (name :: back) middle.1 middle.2).1.get name =
      (middle.2.resolveChunk output name).1 := same.trans (by simp [PerChunk.get_set])
  rw [gotten]
  exact resolution.beside beside

theorem resolve_ages (cache : Cache) (output : CompilerOutput) :
    Ages cache (cache.resolve output).2 := by
  have ages := resolveChunks_ages output ChunkName.all
    (.ofFn fun name => (cache.defaultValue name, .defaulted)) cache
  simpa only [Cache.resolve] using ages

theorem Proper.resolveChunk_proper (proper : cache.Proper) (output : CompilerOutput)
    (name : ChunkName) : (cache.resolveChunk output name).2.Proper := by
  unfold Cache.resolveChunk
  split
  · exact proper
  · split
    · exact proper
    · split
      next value decoded =>
        refine ⟨?_, ?_, proper.defaults⟩ <;> intro other entry held <;>
          simp only [store, entry?, PerChunk.get_set] at held <;> split at held
        · obtain rfl := Option.some.inj held
          subst other
          exact ChunkValue.name_of_decode? decoded
        · exact proper.named other entry held
        · obtain rfl := Option.some.inj held
          exact Nat.lt_succ_self _
        · exact Nat.lt_succ_of_lt (proper.used other entry held)
      next => exact proper

theorem Proper.resolveChunks_proper (proper : cache.Proper) (output : CompilerOutput)
    (names : List ChunkName) (results : PerChunk (Shared ChunkValue × Provenance)) :
    (resolveChunks output names results cache).2.Proper := by
  induction names generalizing cache results with
  | nil => exact proper
  | cons first rest ih => exact ih (proper.resolveChunk_proper output first) _

theorem Proper.resolve (proper : cache.Proper) (output : CompilerOutput) :
    (cache.resolve output).2.Proper := by
  have kept := proper.resolveChunks_proper output ChunkName.all
    (.ofFn fun name => (cache.defaultValue name, .defaulted))
  simpa only [Cache.resolve] using kept

theorem Proper.perform (proper : cache.Proper) (operation : Operation) :
    (cache.perform operation).Proper := by
  cases operation with
  | resolve output => exact proper.resolve output
  | clear => exact proper.clear

theorem Proper.after (proper : cache.Proper) (operations : List Operation) :
    (cache.after operations).Proper := by
  induction operations generalizing cache with
  | nil => exact proper
  | cons operation rest ih => exact ih (proper.perform operation)

end

end Cache

end LiveCompile
