import LiveCompile.Proofs.CacheHistory
import LiveCompile.Proofs.PipelineRequests

/-! What a pipeline leaves behind: the cache and the output that is held. Both follow from the
outputs of the compiles that succeeded and from the clears of the cache, in the order in which
the actor handled them. Nothing else changes either. -/

namespace LiveCompile

def Cache.world (cache : Cache) : ResolvedWorld :=
  match cache.entry? .compiledWorld with
  | some ⟨_, _, .compiledWorld world⟩ => world
  | _ => .empty

theorem Cache.Proper.world {cache : Cache} (proper : cache.Proper) (output : CompilerOutput) :
    (cache.resolve output).1.world = (cache.resolve output).2.world := by
  have accounts := proper.accounts output .compiledWorld
  simp only [ResolvedOutput.world, ResolvedOutput.value, Cache.world]
  cases entry : Cache.entry? (cache.resolve output).2 .compiledWorld with
  | none => simp [accounts.empty entry, ChunkValue.empty]
  | some held =>
    rw [accounts.held held entry]
    obtain ⟨hash, token, value⟩ := held
    obtain ⟨world, rfl⟩ :=
      ChunkValue.compiledWorld_of_name ((proper.resolve output).named .compiledWorld _ entry)
    rfl

namespace Pipeline

/-- What a wake asks of the cache. -/
def Wake.operation? : Wake → Option Cache.Operation
  | .finished (.ok output) => some (.resolve output)
  | .command (.clearCache _) => some .clear
  | _ => none

def operations (turns : List Turn) : List Cache.Operation := turns.filterMap (·.wake.operation?)

theorem operations_cons (turn : Turn) (rest : List Turn) :
    operations (turn :: rest) = turn.wake.operation?.toList ++ operations rest := by
  cases asked : turn.wake.operation? <;> simp [operations, asked]

namespace Actor

section
variable {now : Nat} {files : List (Path × String)} {wake : Wake}
variable {actor next : Actor} {effects : List Effect}

private theorem verdict_downstream (now : Nat) (actor : Actor) (flight : Flight)
    (result : CompileResult) : let verdict := actor.verdict now flight result
    verdict.cache = actor.cache.after (Wake.finished result).operation?.toList ∧
      verdict.held = verdict.outcome.shared?.or actor.held := by
  cases result <;> exact ⟨rfl, rfl⟩

theorem Attempt.downstream {callers : List Nat}
    (tried : Attempt now files callers actor next effects) :
    next.cache = actor.cache ∧ next.held = actor.held := by
  cases tried <;> exact ⟨rfl, rfl⟩

/-- A turn does to the cache what its wake asks for, and holds the output that is told in it. -/
theorem Move.downstream (move : Move now files actor wake next effects) :
    next.cache = actor.cache.after wake.operation?.toList ∧
      next.held = ((actor.outcome? now wake).bind Outcome.shared?).or actor.held := by
  cases move with
  | pass ignored cached =>
    cases wake with
    | command command => cases command <;> exact ⟨cached, rfl⟩
    | finished => cases ignored
    | _ => exact ⟨cached, rfl⟩
  | queue => exact ⟨rfl, rfl⟩
  | arm told | defer told | halt told | rest told =>
    cases wake with
    | command command => cases command <;> first | exact ⟨rfl, rfl⟩ | cases told
    | finished => cases told
    | _ => exact ⟨rfl, rfl⟩
  | attempt demanded _ tried =>
    cases wake with
    | command command => cases command <;> first | exact tried.downstream | cases demanded
    | deadline => exact tried.downstream
    | _ => cases demanded
  | @settle result flight flying =>
    have told := verdict_downstream now actor flight result
    simpa [outcome?, flying, landed] using told
  | @serve result flight _ _ flying _ tried =>
    have told := verdict_downstream now actor flight result
    simpa [outcome?, flying, landed, tried.downstream] using told

theorem Attempt.unended {callers : List Nat}
    (tried : Attempt now files callers actor next effects) :
    ∀ event ∈ events effects, event.isTerminal = false := by
  cases tried <;> simp [Event.isTerminal]

private theorem verdict_completed {flight : Flight} {result : CompileResult} {compileId : Nat}
    {duration : Binary64} {hashes : PerChunk (Option ContentHash)} {counts : WorldSummary}
    (published : .compilerCompleted compileId duration hashes counts =
      (actor.verdict now flight result).event) :
    ∃ output, result = .ok output ∧ compileId = flight.compileId ∧
      hashes = output.chunkHashes ∧
      counts = .ofCounts (actor.cache.resolve output).1.worldCounts := by
  cases result with
  | ok output =>
    obtain ⟨rfl, _, rfl, rfl⟩ := Event.compilerCompleted.inj published
    exact ⟨output, rfl, rfl, rfl, rfl⟩
  | error failure => cases published

theorem Move.completed (move : Move now files actor wake next effects) {compileId : Nat}
    {duration : Binary64} {hashes : PerChunk (Option ContentHash)} {counts : WorldSummary}
    (published : .compilerCompleted compileId duration hashes counts ∈ events effects) :
    ∃ output flight, wake = .finished (.ok output) ∧ actor.flight = some flight ∧
      compileId = flight.compileId ∧ hashes = output.chunkHashes ∧
      counts = .ofCounts (actor.cache.resolve output).1.worldCounts := by
  cases move with
  | pass _ _ _ reports => simp [(reports_silent reports).2.1] at published
  | arm | defer | queue | halt | rest => cases published
  | attempt _ _ tried => cases tried.unended _ published
  | settle flying =>
    rw [events_farewell, List.mem_singleton] at published
    obtain ⟨output, rfl, same, hashes, counts⟩ := verdict_completed published
    exact ⟨output, _, rfl, flying, same, hashes, counts⟩
  | serve flying _ tried =>
    rw [events_append, events_farewell, List.mem_append, List.mem_singleton] at published
    rcases published with published | started
    · obtain ⟨output, rfl, same, hashes, counts⟩ := verdict_completed published
      exact ⟨output, _, rfl, flying, same, hashes, counts⟩
    · cases tried.unended _ started

end

/-- A compile ends with an output: it is resolved, and one and the same value is held and told
to all who wait for it. Its event tells of the fingerprints of the output and of the sizes of
the world that is held. -/
structure Delivered (actor : Actor) (turn : Turn) (output : CompilerOutput) (flight : Flight) :
    Prop where
  flying : actor.flight = some flight
  cache : (actor.next turn).cache = (actor.cache.resolve output).2
  held : (actor.next turn).held = some ⟨flight.compileId, (actor.cache.resolve output).1⟩
  told : ∃ rest, actor.output turn =
    .publish (.compilerCompleted flight.compileId (.ofNat (turn.now - flight.started))
        output.chunkHashes (.ofCounts (actor.cache.resolve output).1.worldCounts)) ::
      actor.waiters.map (.answer ·
        (.completed flight.compileId ⟨flight.compileId, (actor.cache.resolve output).1⟩)) ++ rest

section
variable {actor : Actor} {turns : List Turn} {turn : Turn}

theorem Coherent.delivered (coherent : actor.Coherent) {output : CompilerOutput}
    (awaited : actor.awaits turn.wake = true) (ended : turn.wake = .finished (.ok output)) :
    ∃ flight, Delivered actor turn output flight := by
  have move := coherent.turn awaited
  rw [ended] at awaited move
  obtain ⟨flight, flying⟩ : ∃ flight, actor.flight = some flight := by
    simpa [awaits, Option.isSome_iff_exists] using (Bool.and_eq_true_iff.mp awaited).2
  obtain ⟨cache, held⟩ := move.downstream
  obtain ⟨rest, told, _⟩ := move.of_finished flying
  refine ⟨flight, flying, cache, ?_, rest, told⟩
  simpa [outcome?, flying, verdict, conclude, Outcome.shared?] using held

theorem Coherent.downstream (coherent : actor.Coherent) (admitted : actor.Admits turns) :
    (actor.after turns).cache = actor.cache.after (operations turns) ∧
      (actor.after turns).held =
        ((actor.outcomes turns).filterMap Outcome.shared?).getLast?.or actor.held := by
  induction turns generalizing actor with
  | nil => exact ⟨rfl, rfl⟩
  | cons turn rest ih =>
    obtain ⟨cache, held⟩ := (coherent.turn admitted.1).downstream
    obtain ⟨caches, helds⟩ := ih (coherent.next admitted.1) admitted.2
    rw [after_cons, caches, helds, cache, held, operations_cons, outcomes, List.filterMap_append,
      List.getLast?_append]
    refine ⟨by simp [Cache.after], ?_⟩
    cases told : actor.outcome? turn.now turn.wake with
    | none => simp
    | some outcome => cases shared : outcome.shared? <;> simp [shared]

private theorem untold {now : Nat} {wake : Wake}
    (unresolved : ∀ output, wake ≠ .finished (.ok output)) :
    (actor.outcome? now wake).bind Outcome.shared? = none := by
  cases wake with
  | finished result =>
    cases result with
    | ok output => exact absurd rfl (unresolved output)
    | error failure =>
      cases flight : actor.flight <;> simp [outcome?, flight, verdict, conclude, Outcome.shared?]
  | _ => rfl

theorem Coherent.completed (coherent : actor.Coherent) (admitted : actor.Admits turns)
    {compileId : Nat} {duration : Binary64} {hashes : PerChunk (Option ContentHash)}
    {counts : WorldSummary}
    (published : .compilerCompleted compileId duration hashes counts ∈
      events (actor.effects turns)) :
    ∃ before turn later output flight, turns = before ++ turn :: later ∧
      turn.wake = .finished (.ok output) ∧ (actor.after before).flight = some flight ∧
      compileId = flight.compileId ∧ hashes = output.chunkHashes ∧
      counts = .ofCounts ((actor.after before).cache.resolve output).1.worldCounts := by
  induction turns generalizing actor with
  | nil => cases published
  | cons turn rest ih =>
    rw [effects, events_append, List.mem_append] at published
    rcases published with first | published
    · obtain ⟨output, flight, facts⟩ := (coherent.turn admitted.1).completed first
      exact ⟨[], turn, rest, output, flight, rfl, facts⟩
    · obtain ⟨before, ending, later, output, flight, rfl, facts⟩ :=
        ih (coherent.next admitted.1) admitted.2 published
      exact ⟨turn :: before, ending, later, output, flight, rfl, facts⟩

end

end Actor

end Pipeline

end LiveCompile
