import LiveCompile.Proofs.PipelineMove

/-! Runs keep the two records of the actor in agreement, so at most one compile runs. The
refusal of a schedule to begin a compile is for a state that no run reaches. -/

namespace LiveCompile.Pipeline.Actor

section
variable {actor : Actor} {turns : List Turn}

theorem Coherent.next (coherent : actor.Coherent) {turn : Turn}
    (awaited : actor.awaits turn.wake = true) : (actor.next turn).Coherent :=
  (coherent.turn awaited).coherent coherent

theorem Coherent.after (coherent : actor.Coherent) (admitted : actor.Admits turns) :
    (actor.after turns).Coherent := by
  induction turns generalizing actor with
  | nil => exact coherent
  | cons turn rest ih => exact ih (coherent.next admitted.1) admitted.2

/-- What every move of a coherent actor keeps holds after a run, of the actor and of its
effects so far. -/
theorem Coherent.track (property : Actor → List Effect → Prop) (coherent : actor.Coherent)
    (admitted : actor.Admits turns) (initial : property actor [])
    (kept : ∀ {now files wake actor next before effects}, actor.Coherent →
      property actor before → Move now files actor wake next effects →
      property next (before ++ effects)) :
    property (actor.after turns) (actor.effects turns) := by
  have both : (actor.after turns).Coherent ∧ property (actor.after turns) (actor.effects turns) := by
    refine admitted.invariant (fun actor effects => actor.Coherent ∧ property actor effects)
      ⟨coherent, initial⟩ ?_
    rintro actor before turn awaited ⟨coherent, held⟩
    exact ⟨coherent.next awaited, kept coherent held (coherent.turn awaited)⟩
  exact both.2

end

section
variable {now : Nat} {files : List (Path × String)} {wake : Wake} {callers : List Nat}
variable {actor next : Actor} {before effects : List Effect}

theorem Attempt.counts (tried : Attempt now files callers actor next effects) :
    next.lastCompileId = actor.lastCompileId + (calls effects).length := by
  cases tried <;> simp

theorem Move.counts (move : Move now files actor wake next effects) :
    next.lastCompileId = actor.lastCompileId + (calls effects).length := by
  cases move with
  | pass _ _ _ reports => simp [(reports_silent reports).2.2.1]
  | arm | defer | queue | halt | rest => simp
  | attempt _ _ tried => exact tried.counts
  | settle => simp [landed]
  | serve _ _ tried => simpa [landed] using tried.counts

theorem Coherent.prepared_free (coherent : actor.Coherent) (awaited : actor.awaits wake = true)
    (due : (actor.prepare now wake).callers = some callers) :
    (actor.prepare now wake).actor.flight = none ∧
      (actor.prepare now wake).actor.schedule.phase ≠ .compiling := by
  cases wake with
  | command command =>
    cases command with
    | compileNow caller =>
      cases flight : actor.flight with
      | none => simpa [prepare, handle, compileNow, flight] using coherent.phase_of_free flight
      | some _ => simp [prepare, handle, compileNow, flight] at due
    | _ => simp [prepare, handle] at due
  | deadline =>
    have free := coherent.free_of_armed (by simp_all [awaits])
    exact ⟨free, coherent.phase_of_free free⟩
  | finished result =>
    cases flying : actor.flight with
    | none => simp [awaits, flying] at awaited
    | some flight =>
      have compiling := coherent.flying.mp (by simp [flying])
      have gone := followUp_queued now (actor.landed (actor.verdict now flight result)) compiling
      have unarmed := followUp_unqueued now (actor.landed (actor.verdict now flight result))
        compiling (coherent.deadline_of_busy (by simp [flying]))
      by_cases unqueued : actor.queued = []
      · simp [prepare, finish_eq flying, unarmed unqueued] at due
      · simp only [prepare, finish_eq flying, gone unqueued]
        refine ⟨rfl, ?_⟩
        cases (actor.landed (actor.verdict now flight result)).schedule.pending <;> simp
  | event event => cases event <;> simp [prepare] at due
  | closed | lagged | busClosed => simp [prepare] at due

private theorem calls_prepared (actor : Actor) (now : Nat) (wake : Wake) :
    calls (actor.prepare now wake).effects = [] := by
  cases wake with
  | command command =>
    cases command with
    | compileNow caller =>
      simp only [prepare, handle, compileNow]
      split <;> rfl
    | _ => rfl
  | finished result =>
    cases flying : actor.flight with
    | none => simp [prepare, finish, flying]
    | some flight => simp [prepare, finish_eq flying]
  | event event => cases event <;> rfl
  | closed | deadline | lagged | busClosed => rfl

private theorem calls_compileFor (now : Nat) (files : List (Path × String)) (callers : List Nat)
    (actor : Actor) (free : actor.schedule.phase ≠ .compiling) :
    (calls (actor.compileFor now files callers).2).length = if files = [] then 0 else 1 := by
  obtain ⟨schedule, begun⟩ : ∃ schedule, actor.schedule.begin = (true, schedule) :=
    ⟨_, Prod.ext (Schedule.begin_iff.mpr free) rfl⟩
  by_cases empty : files = [] <;> simp [compileFor, beginCompile, begun, empty]

private theorem calls_output (turn : Turn)
    (free : ∀ callers, (actor.prepare turn.now turn.wake).callers = some callers →
      (actor.prepare turn.now turn.wake).actor.schedule.phase ≠ .compiling) :
    (calls (actor.output turn)).length =
      if (actor.prepare turn.now turn.wake).callers.isSome ∧ turn.files ≠ [] then 1 else 0 := by
  cases due : (actor.prepare turn.now turn.wake).callers with
  | none => simp [output, step, due, calls_prepared]
  | some callers =>
    have counted := calls_compileFor turn.now turn.files callers _ (free callers due)
    simp [output, step, due, calls_prepared, counted]

end

theorem Admits.counts {config : PipelineConfig} {cache : Cache} {turns : List Turn}
    (admitted : (start config cache).Admits turns) :
    ((start config cache).after turns).lastCompileId =
      (calls ((start config cache).effects turns)).length := by
  refine (Coherent.start config cache).track
    (fun actor effects => actor.lastCompileId = (calls effects).length) admitted rfl ?_
  intro now files wake actor next before effects _ held move
  rw [move.counts, held, calls_append, List.length_append]

/-- In every state that a run reaches the flight and the deadline of the actor agree with its
schedule, callers wait only while a compile runs, and the number of the last compile counts
the calls of the compiler. So the compiler is called only when no compile runs: whenever a
wake is prepared for a compile, none is in flight and the schedule does not refuse to begin
it, and the call is made if there are buffers. -/
theorem coherent_single_flight (config : PipelineConfig) (cache : Cache) (turns : List Turn)
    (admitted : (start config cache).Admits turns) :
    let actor := (start config cache).after turns
    (actor.flight.isSome ↔ actor.schedule.phase = .compiling) ∧
      (actor.deadline.isSome ↔ actor.schedule.phase = .debouncing) ∧
      (actor.schedule.pending = true → actor.schedule.phase = .compiling) ∧
      (actor.waiters ≠ [] ∨ actor.queued ≠ [] → actor.flight.isSome) ∧
      actor.lastCompileId = (calls ((start config cache).effects turns)).length ∧
      ∀ turn, actor.awaits turn.wake = true →
        (∀ callers, (actor.prepare turn.now turn.wake).callers = some callers →
          (actor.prepare turn.now turn.wake).actor.flight = none ∧
            (actor.prepare turn.now turn.wake).actor.schedule.begin.1 = true) ∧
        (calls (actor.output turn)).length =
          if (actor.prepare turn.now turn.wake).callers.isSome ∧ turn.files ≠ [] then 1 else 0 := by
  intro actor
  have coherent : actor.Coherent := (Coherent.start config cache).after admitted
  refine ⟨coherent.flying, coherent.armed, coherent.pending, coherent.waiting, admitted.counts, ?_⟩
  intro turn awaited
  refine ⟨?_, calls_output turn fun callers due => (coherent.prepared_free awaited due).2⟩
  intro callers due
  obtain ⟨free, idle⟩ := coherent.prepared_free awaited due
  exact ⟨free, Schedule.begin_iff.mpr idle⟩

/-- The end of a compile for which a caller waits that came while it ran. -/
theorem coherent_single_flight_queued :
    let files : List (Path × String) := [(⟨[97]⟩, "x")]
    let turns : List Turn :=
      [⟨0, files, .command (.compileNow 0)⟩, ⟨1, files, .command (.compileNow 1)⟩]
    let actor := (start {} .empty).after turns
    let ending : Turn := ⟨2, files, .finished (.error .encode)⟩
    (start {} .empty).Admits turns ∧ actor.awaits ending.wake = true ∧
      (actor.prepare ending.now ending.wake).callers = some [1] ∧
      (actor.prepare ending.now ending.wake).actor.schedule.begin.1 = true := by
  intro files turns actor ending
  have admitted : (start {} .empty).Admits turns := ⟨rfl, rfl, trivial⟩
  have awaited : actor.awaits ending.wake = true := rfl
  have due : (actor.prepare ending.now ending.wake).callers = some [1] := rfl
  have reached := coherent_single_flight {} .empty turns admitted
  exact ⟨admitted, awaited, due, ((reached.2.2.2.2.2 ending awaited).1 [1] due).2⟩

end LiveCompile.Pipeline.Actor
