import LiveCompile.Proofs.CacheResolution

/-! What a cache remembers. After any outputs and clears the entry of a name comes from one of
the outputs since the last clear: the last chunk of the name was decoded there, and no later
output had a chunk of another fingerprint that decodes. Fingerprints may collide. -/

namespace LiveCompile.Cache

/-- The outputs since the last clear, after one more operation. -/
def recent (outputs : List CompilerOutput) : Operation → List CompilerOutput
  | .resolve output => outputs ++ [output]
  | .clear => []

/-- The outputs that were resolved since the last clear, in order. -/
def sinceClear (operations : List Operation) : List CompilerOutput := operations.foldl recent []

/-- The entry was made from one of the outputs. In every later output the chunk of the name is
absent, has the fingerprint of the entry or does not decode. -/
def Origin (outputs : List CompilerOutput) (name : ChunkName) (entry : CacheEntry) : Prop :=
  ∃ before output later, outputs = before ++ output :: later ∧
    output.Reads name entry.hash entry.value.value ∧
    ∀ other ∈ later, ∀ chunk, other.Last name chunk →
      chunk.hash = entry.hash ∨ ChunkValue.decode? name chunk.payload = none

/-- A cache has an entry of a name as soon as an output had a chunk of it that decodes, and the
entry has its origin in one of them. -/
structure History (outputs : List CompilerOutput) (cache : Cache) (name : ChunkName) : Prop where
  held : ∀ output ∈ outputs, ∀ hash value, output.Reads name hash value →
    ∃ entry, cache.entry? name = some entry
  origin : ∀ entry, cache.entry? name = some entry → Origin outputs name entry

section
variable {outputs : List CompilerOutput} {output : CompilerOutput} {cache : Cache}
variable {name : ChunkName} {entry : CacheEntry}

theorem Origin.append (origin : Origin outputs name entry)
    (agrees : ∀ chunk, output.Last name chunk →
      chunk.hash = entry.hash ∨ ChunkValue.decode? name chunk.payload = none) :
    Origin (outputs ++ [output]) name entry := by
  obtain ⟨before, source, later, rfl, reads, agree⟩ := origin
  refine ⟨before, source, later ++ [output], by simp, reads, ?_⟩
  intro other member
  rcases List.mem_append.mp member with member | member
  · exact agree other member
  · rw [List.mem_singleton.mp member]
    exact agrees

theorem Origin.reads (origin : Origin outputs name entry) :
    ∃ output ∈ outputs, ∃ hash value, output.Reads name hash value := by
  obtain ⟨before, source, later, rfl, reads, _⟩ := origin
  exact ⟨source, by simp, _, _, reads⟩

theorem History.empty (name : ChunkName) : History [] Cache.empty name := by
  constructor <;> simp [Cache.empty, entry?]

theorem History.clear (cache : Cache) (name : ChunkName) : History [] cache.clear name := by
  constructor <;> simp [Cache.clear, entry?]

theorem History.resolve (history : History outputs cache name) (proper : cache.Proper)
    (output : CompilerOutput) :
    History (outputs ++ [output]) (cache.resolve output).2 name := by
  obtain ⟨_, _, _, _, resolution⟩ := proper.resolution output name
  cases resolution with
  | @reused chunk entry last held same kept =>
    refine ⟨by simp [kept], ?_⟩
    intro other had
    obtain rfl := Option.some.inj (kept.symm.trans had)
    refine (history.origin entry held).append fun other again => .inl ?_
    rw [again.unique last, same]
  | @resolved chunk value token last _ decoded _ _ stored =>
    refine ⟨by simp [stored], ?_⟩
    intro other had
    obtain rfl := Option.some.inj (stored.symm.trans had)
    exact ⟨outputs, output, [], rfl, ⟨chunk, last, rfl, decoded⟩, by simp⟩
  | @retained entry held unread kept =>
    refine ⟨by simp [kept], ?_⟩
    intro other had
    obtain rfl := Option.some.inj (kept.symm.trans had)
    exact (history.origin entry held).append fun chunk last => .inr (unread chunk last).2
  | defaulted bare unread kept =>
    refine ⟨?_, by simp [kept]⟩
    intro other member hash value reads
    rcases List.mem_append.mp member with member | member
    · obtain ⟨entry, held⟩ := history.held other member hash value reads
      simp [bare] at held
    · obtain ⟨chunk, last, _, decoded⟩ := reads
      rw [List.mem_singleton.mp member] at last
      simp [unread chunk last] at decoded

theorem History.perform (history : History outputs cache name) (proper : cache.Proper)
    (operation : Operation) : History (recent outputs operation) (cache.perform operation) name := by
  cases operation with
  | resolve output => exact history.resolve proper output
  | clear => exact .clear cache name

theorem History.after (history : History outputs cache name) (proper : cache.Proper)
    (operations : List Operation) :
    History (operations.foldl recent outputs) (cache.after operations) name := by
  induction operations generalizing outputs cache with
  | nil => exact history
  | cons operation rest ih =>
    exact ih (history.perform proper operation) (proper.perform operation)

end

/-- What resolving an output gives for a name is the value of the entry of the next cache, or the
empty default if there is none, and the provenance says how it was obtained. -/
structure Accounts (cache : Cache) (output : CompilerOutput) (name : ChunkName) (next : Cache)
    (shared : Shared ChunkValue) (how : Provenance) : Prop where
  held : ∀ entry, next.entry? name = some entry → shared = entry.value
  empty : next.entry? name = none → shared = ⟨name.index, .empty name⟩
  defaulted : how = .defaulted ↔ next.entry? name = none
  resolved : how = .resolved ↔ next.entry? name ≠ cache.entry? name
  /-- a new entry is made from the output -/
  written : how = .resolved →
    ∃ entry, next.entry? name = some entry ∧ output.Reads name entry.hash entry.value.value
  reused : how = .reused ↔
    ∃ chunk entry, output.Last name chunk ∧ cache.entry? name = some entry ∧
      chunk.hash = entry.hash
  retained : how = .retained ↔
    ∃ entry, next.entry? name = some entry ∧ cache.entry? name = some entry ∧
      ∀ chunk, output.Last name chunk → chunk.hash ≠ entry.hash

section
variable {cache next : Cache} {output : CompilerOutput} {name : ChunkName}
variable {shared : Shared ChunkValue} {how : Provenance}

theorem Proper.rewritten (proper : cache.Proper) {hash : ContentHash} {token : Nat}
    {value : ChunkValue} (fresh : cache.nextToken ≤ token)
    (stored : next.entry? name = some ⟨hash, token, value⟩) :
    next.entry? name ≠ cache.entry? name := by
  intro same
  have used := proper.used name _ (same.symm.trans stored)
  exact absurd fresh (Nat.not_le_of_lt used)

theorem Resolution.accounts (resolution : Resolution cache output name next shared how)
    (proper : cache.Proper) : Accounts cache output name next shared how := by
  cases resolution with
  | @reused chunk entry last held same kept =>
    have unretained : ¬ ∃ entry, next.entry? name = some entry ∧ cache.entry? name = some entry ∧
        ∀ chunk, output.Last name chunk → chunk.hash ≠ entry.hash := by
      rintro ⟨other, _, had, differs⟩
      obtain rfl := Option.some.inj (held.symm.trans had)
      exact differs chunk last same
    exact {
      held := by simp [kept]
      empty := by simp [kept]
      defaulted := by simp [kept]
      resolved := by simp [kept, held]
      written := nofun
      reused := ⟨fun _ => ⟨chunk, entry, last, held, same⟩, fun _ => rfl⟩
      retained := ⟨nofun, fun retained => absurd retained unretained⟩ }
  | @resolved chunk value token last different decoded fresh used stored =>
    have rewritten := proper.rewritten fresh stored
    have unused : ¬ ∃ chunk entry, output.Last name chunk ∧ cache.entry? name = some entry ∧
        chunk.hash = entry.hash := by
      rintro ⟨other, entry, again, held, same⟩
      obtain rfl := last.unique again
      exact different entry held same
    have unretained : ¬ ∃ entry, next.entry? name = some entry ∧ cache.entry? name = some entry ∧
        ∀ chunk, output.Last name chunk → chunk.hash ≠ entry.hash := by
      rintro ⟨entry, kept, held, _⟩
      exact rewritten (kept.trans held.symm)
    exact {
      held := by simp [stored]
      empty := by simp [stored]
      defaulted := by simp [stored]
      resolved := ⟨fun _ => rewritten, fun _ => rfl⟩
      written := fun _ => ⟨_, stored, chunk, last, rfl, decoded⟩
      reused := ⟨nofun, fun reused => absurd reused unused⟩
      retained := ⟨nofun, fun retained => absurd retained unretained⟩ }
  | @retained entry held unread kept =>
    have unused : ¬ ∃ chunk entry, output.Last name chunk ∧ cache.entry? name = some entry ∧
        chunk.hash = entry.hash := by
      rintro ⟨chunk, other, last, had, same⟩
      obtain rfl := Option.some.inj (held.symm.trans had)
      exact (unread chunk last).1 same
    exact {
      held := by simp [kept]
      empty := by simp [kept]
      defaulted := by simp [kept]
      resolved := by simp [kept, held]
      written := nofun
      reused := ⟨nofun, fun reused => absurd reused unused⟩
      retained := ⟨fun _ => ⟨entry, kept, held, fun chunk last => (unread chunk last).1⟩,
        fun _ => rfl⟩ }
  | defaulted bare unread kept =>
    exact {
      held := by simp [kept]
      empty := by simp
      defaulted := by simp [kept]
      resolved := by simp [kept, bare]
      written := nofun
      reused := by simp [bare]
      retained := by simp [bare] }

theorem Proper.accounts (proper : cache.Proper) (output : CompilerOutput) (name : ChunkName) :
    Accounts cache output name (cache.resolve output).2
      ((cache.resolve output).1.values.get name) ((cache.resolve output).1.provenance.get name) := by
  obtain ⟨_, _, rfl, rfl, resolution⟩ := proper.resolution output name
  exact resolution.accounts proper

end

/-- After any outputs and clears a cache that was made empty has an entry of a name exactly if
an output since the last clear had a last chunk of that name that decodes. The entry was made
from one of them, and since then no other fingerprint came with a payload that decodes. The
next output is given the value of the entry that there is then, or the empty default, and the
provenance says which of the cases it was. -/
theorem entries_from_history (operations : List Operation) (name : ChunkName) :
    let cache := Cache.empty.after operations
    let outputs := sinceClear operations
    ((∃ entry, cache.entry? name = some entry) ↔
        ∃ output ∈ outputs, ∃ hash value, output.Reads name hash value) ∧
      (∀ entry, cache.entry? name = some entry → Origin outputs name entry) ∧
      ∀ output, Accounts cache output name (cache.resolve output).2
        ((cache.resolve output).1.values.get name)
        ((cache.resolve output).1.provenance.get name) := by
  intro cache outputs
  have proper : cache.Proper := Proper.empty.after operations
  have history : History outputs cache name := (History.empty name).after .empty operations
  refine ⟨⟨?_, ?_⟩, history.origin, ?_⟩
  · rintro ⟨entry, held⟩
    exact (history.origin entry held).reads
  · rintro ⟨output, member, hash, value, reads⟩
    exact history.held output member hash value reads
  · intro output
    obtain ⟨_, _, rfl, rfl, resolution⟩ := proper.resolution output name
    exact resolution.accounts proper

end LiveCompile.Cache
