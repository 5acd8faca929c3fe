import LiveCompile.Proofs.PipelineRun

/-! What one turn of a pipeline's actor can do. The actor keeps two records of what it is
at: its schedule, and its own flight and deadline. While they agree, a wake leads to one of
a few moves, and every move keeps them in agreement. Invariants of runs are proved by
cases on the moves, so that the handlers are opened here only. -/

namespace LiveCompile.Pipeline.Actor

/-- The two records agree, callers wait only while a compile runs, and the compile that
runs is the one that started last. -/
structure Coherent (actor : Actor) : Prop where
  flying : actor.flight.isSome ↔ actor.schedule.phase = .compiling
  armed : actor.deadline.isSome ↔ actor.schedule.phase = .debouncing
  pending : actor.schedule.pending = true → actor.schedule.phase = .compiling
  waiting : actor.waiters ≠ [] ∨ actor.queued ≠ [] → actor.flight.isSome
  numbered : ∀ flight, actor.flight = some flight → flight.compileId = actor.lastCompileId

theorem Coherent.start (config : PipelineConfig) (cache : Cache) :
    (start config cache).Coherent := by
  constructor <;> simp [Actor.start]

section
variable {actor : Actor}

theorem Coherent.phase_of_free (coherent : actor.Coherent) (free : actor.flight = none) :
    actor.schedule.phase ≠ .compiling := by
  intro compiling
  have flying := coherent.flying.mpr compiling
  simp [free] at flying

theorem Coherent.pending_of_free (coherent : actor.Coherent) (free : actor.flight = none) :
    actor.schedule.pending = false := by
  cases pending : actor.schedule.pending with
  | false => rfl
  | true => exact absurd (coherent.pending pending) (coherent.phase_of_free free)

theorem Coherent.waiters_of_free (coherent : actor.Coherent) (free : actor.flight = none) :
    actor.waiters = [] := by
  apply Classical.byContradiction
  intro waiting
  have flying := coherent.waiting (Or.inl waiting)
  simp [free] at flying

theorem Coherent.queued_of_free (coherent : actor.Coherent) (free : actor.flight = none) :
    actor.queued = [] := by
  apply Classical.byContradiction
  intro waiting
  have flying := coherent.waiting (Or.inr waiting)
  simp [free] at flying

theorem Coherent.deadline_of_busy (coherent : actor.Coherent) (busy : actor.flight.isSome) :
    actor.deadline = none := by
  cases deadline : actor.deadline with
  | none => rfl
  | some time =>
    have debouncing := coherent.armed.mp (by simp [deadline])
    have compiling := coherent.flying.mp busy
    rw [debouncing] at compiling
    cases compiling

theorem Coherent.free_of_armed (coherent : actor.Coherent) (armed : actor.deadline.isSome) :
    actor.flight = none := by
  cases flight : actor.flight with
  | none => rfl
  | some _ => simp [coherent.deadline_of_busy (by simp [flight])] at armed

end

/-- Wakes that ask for nothing: reports, changes after the stop, files that are no source
files, and events that concern no file. -/
def ignores (actor : Actor) : Wake → Bool
  | .command (.bufferChanged _) => actor.stopped
  | .command (.status _) | .command (.cacheSize _) | .command (.clearCache _) => true
  | .event (.activeFileChanged path) => !path.isSource actor.config.extensions
  | .event _ | .lagged _ | .busClosed => true
  | _ => false

/-- Wakes that note a change, with the file to start from after them. -/
def notes (actor : Actor) : Wake → Option Path → Prop
  | .command (.bufferChanged _), file => actor.stopped = false ∧ file = actor.activeFile
  | .event (.activeFileChanged path), file =>
    path.isSource actor.config.extensions = true ∧ file = some path
  | _, _ => False

/-- Wakes that start a compile at once if none runs, with the callers it is for. -/
def demands : Wake → List Nat → Prop
  | .deadline, callers => callers = []
  | .command (.compileNow caller), callers => callers = [caller]
  | _, _ => False

/-- Wakes that stop the pipeline, with what they leave of the inbox. -/
def halts (actor : Actor) : Wake → Bool → Prop
  | .command .stop, inboxOpen => inboxOpen = actor.inboxOpen
  | .closed, inboxOpen => inboxOpen = false
  | _, _ => False

section
variable {actor : Actor} {wake : Wake}

theorem quiet_of_ignores (ignored : actor.ignores wake = true) :
    wake.ends = false ∧ wake.caller? = none := by
  cases wake with
  | command command => cases command <;> simp_all [ignores, Wake.ends, Wake.caller?]
  | _ => simp_all [ignores, Wake.ends, Wake.caller?]

theorem quiet_of_notes {file : Option Path} (noted : actor.notes wake file) :
    wake.ends = false ∧ wake.caller? = none := by
  cases wake with
  | command command => cases command <;> simp_all [notes, Wake.ends, Wake.caller?]
  | _ => simp_all [notes, Wake.ends, Wake.caller?]

theorem quiet_of_halts {inboxOpen : Bool} (halted : actor.halts wake inboxOpen) :
    wake.ends = false ∧ wake.caller? = none := by
  cases wake with
  | command command => cases command <;> simp_all [halts, Wake.ends, Wake.caller?]
  | _ => simp_all [halts, Wake.ends, Wake.caller?]

theorem halts_iff : wake.halts = true ↔ ∃ inboxOpen, actor.halts wake inboxOpen := by
  cases wake with
  | command command => cases command <;> simp [halts, Wake.halts]
  | _ => simp [halts, Wake.halts]

theorem not_halts (unhalted : wake.halts = false) (inboxOpen : Bool) :
    ¬ actor.halts wake inboxOpen := by
  intro halted
  have halts := halts_iff.mpr ⟨inboxOpen, halted⟩
  simp [unhalted] at halts

theorem callers_of_demands {callers : List Nat} (demanded : demands wake callers) :
    wake.ends = false ∧ callers = wake.caller?.toList := by
  cases wake with
  | command command => cases command <;> simp_all [demands, Wake.ends, Wake.caller?]
  | _ => simp_all [demands, Wake.ends, Wake.caller?]

end

/-- A try to start a compile for some callers while none runs. -/
inductive Attempt (now : Nat) (files : List (Path × String)) (callers : List Nat)
    (actor : Actor) : Actor → List Effect → Prop where
  | skip (empty : files = []) :
      Attempt now files callers actor
        { actor with deadline := none, schedule := ⟨.idle, false⟩ }
        (.read files :: callers.map (.answer · .skipped))
  | start (filled : files ≠ []) :
      Attempt now files callers actor
        { actor with
          deadline := none
          schedule := ⟨.compiling, false⟩
          lastCompileId := actor.lastCompileId + 1
          flight := some ⟨actor.lastCompileId + 1, now⟩
          waiters := callers }
        [.read files, .publish (.compilerStarted (actor.lastCompileId + 1) now files.length),
          .call (actor.lastCompileId + 1) ⟨files, actor.entryHint⟩]

section
variable {now : Nat} {files : List (Path × String)} {callers : List Nat}
variable {actor next : Actor} {effects : List Effect}

theorem Attempt.skipped (tried : Attempt now files callers actor next effects)
    (empty : files = []) :
    next = { actor with deadline := none, schedule := ⟨.idle, false⟩ } ∧
      effects = .read files :: callers.map (.answer · .skipped) := by
  cases tried with
  | skip => exact ⟨rfl, rfl⟩
  | start filled => exact absurd empty filled

theorem Attempt.started (tried : Attempt now files callers actor next effects)
    (filled : files ≠ []) :
    next.flight = some ⟨actor.lastCompileId + 1, now⟩ ∧ next.waiters = callers ∧
      next.queued = actor.queued ∧
      effects = [.read files, .publish (.compilerStarted (actor.lastCompileId + 1) now files.length),
        .call (actor.lastCompileId + 1) ⟨files, actor.entryHint⟩] := by
  cases tried with
  | skip empty => exact absurd empty filled
  | start => exact ⟨rfl, rfl, rfl, rfl⟩

theorem Attempt.keeps (tried : Attempt now files callers actor next effects) :
    next.queued = actor.queued ∧ next.config = actor.config ∧ next.stopped = actor.stopped ∧
      next.inboxOpen = actor.inboxOpen ∧ next.listening = actor.listening := by
  cases tried <;> exact ⟨rfl, rfl, rfl, rfl, rfl⟩

end

/-- The end of a compile: what its callers are told, what is published, and the cache and
the output that are held from then on. -/
structure Verdict where
  outcome : Outcome
  event : Event
  cache : Cache
  held : Option (Shared ResolvedOutput)

def verdict (now : Nat) (flight : Flight) (result : CompileResult) (actor : Actor) : Verdict :=
  let (outcome, concluded, event) := actor.conclude now flight result
  ⟨outcome, event, concluded.cache, concluded.held⟩

/-- The actor after the end of a compile, before it goes on. -/
def landed (actor : Actor) (verdict : Verdict) : Actor :=
  { actor with
    flight := none, waiters := [], cache := verdict.cache, held := verdict.held }

/-- What is told at the end of a compile. -/
def farewell (actor : Actor) (verdict : Verdict) : List Effect :=
  .publish verdict.event :: actor.waiters.map (.answer · verdict.outcome)

@[simp] theorem events_farewell (actor : Actor) (verdict : Verdict) :
    events (actor.farewell verdict) = [verdict.event] := by simp [farewell]

@[simp] theorem calls_farewell (actor : Actor) (verdict : Verdict) :
    calls (actor.farewell verdict) = [] := by simp [farewell]

@[simp] theorem answers_farewell (actor : Actor) (verdict : Verdict) :
    answers (actor.farewell verdict) = actor.waiters.map (·, verdict.outcome) := by simp [farewell]

/-- What a turn of a coherent actor can do. -/
inductive Move (now : Nat) (files : List (Path × String)) (actor : Actor) :
    Wake → Actor → List Effect → Prop where
  /-- nothing is scheduled, started or ended -/
  | pass {wake cache listening effects} (ignored : actor.ignores wake = true)
      (cached : cache = if wake.clears then actor.cache.clear else actor.cache)
      (hears : listening = true → actor.listening = true)
      (reports : ∀ effect ∈ effects, effect.isReport = true) :
      Move now files actor wake { actor with cache, listening } effects
  /-- the quiet period starts anew -/
  | arm {wake activeFile} (noted : actor.notes wake activeFile) (free : actor.flight = none) :
      Move now files actor wake
        { actor with
          activeFile
          schedule := ⟨.debouncing, false⟩
          deadline := some (now + actor.config.debounce) } []
  /-- one more compile is owed -/
  | defer {wake activeFile} (noted : actor.notes wake activeFile)
      (busy : actor.flight.isSome) :
      Move now files actor wake { actor with activeFile, schedule := ⟨.compiling, true⟩ } []
  /-- a caller waits for the compile after the running one -/
  | queue {caller} (busy : actor.flight.isSome) :
      Move now files actor (.command (.compileNow caller))
        { actor with schedule := ⟨.compiling, true⟩, queued := actor.queued ++ [caller] } []
  | halt {wake inboxOpen} (halted : actor.halts wake inboxOpen) (going : actor.stopped = false) :
      Move now files actor wake
        { actor with
          inboxOpen
          stopped := true
          deadline := none
          schedule := actor.schedule.cancel
          listening := false } []
  /-- a stopped pipeline is stopped again -/
  | rest {wake inboxOpen} (halted : actor.halts wake inboxOpen) (stopped : actor.stopped = true) :
      Move now files actor wake { actor with inboxOpen } []
  | attempt {wake callers next effects} (demanded : demands wake callers)
      (free : actor.flight = none) (tried : Attempt now files callers actor next effects) :
      Move now files actor wake next effects
  /-- a compile ends and no caller waits for another one -/
  | settle {result flight} (flying : actor.flight = some flight) (unqueued : actor.queued = []) :
      Move now files actor (.finished result)
        { actor.landed (actor.verdict now flight result) with
          schedule := ⟨if actor.schedule.pending then .debouncing else .idle, false⟩
          deadline := if actor.schedule.pending then some (now + actor.config.debounce) else none }
        (actor.farewell (actor.verdict now flight result))
  /-- a compile ends and callers wait for another one -/
  | serve {result flight next effects} (flying : actor.flight = some flight)
      (waiting : actor.queued ≠ [])
      (tried : Attempt now files actor.queued
        { actor.landed (actor.verdict now flight result) with queued := [] } next effects) :
      Move now files actor (.finished result) next
        (actor.farewell (actor.verdict now flight result) ++ effects)

section
variable {now : Nat} {files : List (Path × String)} {wake : Wake}

private theorem trigger_free (actor : Actor) (free : actor.schedule.phase ≠ .compiling)
    (settled : actor.schedule.pending = false) :
    actor.trigger now = { actor with
      schedule := ⟨.debouncing, false⟩, deadline := some (now + actor.config.debounce) } := by
  rw [trigger, Schedule.trigger_free free settled]
  rfl

private theorem trigger_busy (actor : Actor) (compiling : actor.schedule.phase = .compiling) :
    actor.trigger now = { actor with schedule := ⟨.compiling, true⟩ } := by
  simp [trigger, Schedule.trigger, compiling]

theorem Attempt.of_compileFor (actor : Actor) (free : actor.schedule.phase ≠ .compiling)
    (settled : actor.schedule.pending = false) (unwaited : actor.waiters = [])
    (callers : List Nat) :
    Attempt now files callers actor (actor.compileFor now files callers).1
      (actor.compileFor now files callers).2 := by
  by_cases empty : files = []
  · have skipped := Schedule.skip_free free settled
    subst empty
    simpa [compileFor, beginCompile, skipped] using Attempt.skip rfl
  · have begun := Schedule.begin_free free settled
    simp only [compileFor, beginCompile, List.isEmpty_iff, empty, if_false, begun, unwaited,
      List.nil_append]
    exact .start empty

theorem followUp_unqueued (now : Nat) (actor : Actor)
    (compiling : actor.schedule.phase = .compiling)
    (unarmed : actor.deadline = none) (unqueued : actor.queued = []) :
    actor.followUp now = { actor := { actor with
      schedule := ⟨if actor.schedule.pending then .debouncing else .idle, false⟩
      deadline := if actor.schedule.pending then some (now + actor.config.debounce) else none } } := by
  have finished := Schedule.finish_compiling compiling
  cases pending : actor.schedule.pending <;>
    simp [followUp, finished, unqueued, unarmed, pending, debounce]

theorem followUp_queued (now : Nat) (actor : Actor)
    (compiling : actor.schedule.phase = .compiling)
    (waiting : actor.queued ≠ []) :
    actor.followUp now =
      { actor := { actor with
          schedule := ⟨if actor.schedule.pending then .debouncing else .idle, false⟩, queued := [] }
        callers := some actor.queued } := by
  simp [followUp, Schedule.finish_compiling compiling, waiting]

variable {actor : Actor}

theorem Coherent.move_trigger (coherent : actor.Coherent) {activeFile : Option Path}
    (noted : actor.notes wake activeFile) :
    Move now files actor wake ({ actor with activeFile }.trigger now) [] := by
  by_cases busy : actor.flight.isSome
  · rw [trigger_busy { actor with activeFile } (coherent.flying.mp busy)]
    exact .defer noted busy
  · have free : actor.flight = none := by simpa using busy
    rw [trigger_free { actor with activeFile } (coherent.phase_of_free free)
      (coherent.pending_of_free free)]
    exact .arm noted free

private theorem move_stop {inboxOpen : Bool} (halted : actor.halts wake inboxOpen) :
    Move now files actor wake { actor with inboxOpen }.stop [] := by
  cases stopped : actor.stopped with
  | false => simpa [stop, stopped] using Move.halt halted stopped
  | true => simpa [stop, stopped] using Move.rest halted stopped

theorem Coherent.move_demand (coherent : actor.Coherent) {callers : List Nat}
    (demanded : demands wake callers) (free : actor.flight = none) :
    Move now files actor wake (actor.compileFor now files callers).1
      (actor.compileFor now files callers).2 :=
  .attempt demanded free (.of_compileFor actor (coherent.phase_of_free free)
    (coherent.pending_of_free free) (coherent.waiters_of_free free) callers)

private theorem conclude_eq (flight : Flight) (result : CompileResult) :
    actor.conclude now flight result =
      ((actor.verdict now flight result).outcome,
        { actor with
          cache := (actor.verdict now flight result).cache
          held := (actor.verdict now flight result).held },
        (actor.verdict now flight result).event) := by
  cases result <;> rfl

private theorem verdict_free (flight : Flight) (result : CompileResult) :
    { actor with flight := none }.verdict now flight result = actor.verdict now flight result := by
  cases result <;> rfl

theorem finish_eq {flight : Flight} (flying : actor.flight = some flight) (result : CompileResult) :
    actor.finish now result =
      { (actor.landed (actor.verdict now flight result)).followUp now with
        effects := actor.farewell (actor.verdict now flight result) } := by
  simp only [finish, flying, conclude_eq, verdict_free]
  rfl

theorem Attempt.reschedule {schedule : Schedule} {callers : List Nat} {next : Actor}
    {effects : List Effect}
    (tried : Attempt now files callers { actor with schedule } next effects) :
    Attempt now files callers actor next effects := by
  cases tried with
  | skip empty => exact .skip empty
  | start filled => exact .start filled

theorem Coherent.move_finish (coherent : actor.Coherent) {flight : Flight}
    (flying : actor.flight = some flight) (result : CompileResult) :
    Move now files actor (.finished result)
      (actor.step now files (.finished result)).1 (actor.step now files (.finished result)).2 := by
  have compiling := coherent.flying.mp (by simp [flying])
  by_cases unqueued : actor.queued = []
  · have unarmed := coherent.deadline_of_busy (by simp [flying])
    have gone := followUp_unqueued now (actor.landed (actor.verdict now flight result))
      compiling unarmed unqueued
    simp only [step, prepare, finish_eq flying, gone]
    exact .settle flying unqueued
  · have gone := followUp_queued now (actor.landed (actor.verdict now flight result))
      compiling unqueued
    simp only [step, prepare, finish_eq flying, gone]
    refine .serve flying unqueued (.reschedule (.of_compileFor _ ?_ rfl rfl _))
    cases (actor.landed (actor.verdict now flight result)).schedule.pending <;> simp

private theorem move_ignored (ignored : actor.ignores wake = true) (kept : wake.clears = false) :
    Move now files actor wake actor [] :=
  .pass ignored (by simp [kept]) id (by simp)

theorem Coherent.move_changed (coherent : actor.Coherent) (path : Path) :
    Move now files actor (.command (.bufferChanged path))
      (actor.step now files (.command (.bufferChanged path))).1
      (actor.step now files (.command (.bufferChanged path))).2 := by
  cases stopped : actor.stopped with
  | false =>
    have stepped : actor.step now files (.command (.bufferChanged path)) =
        (actor.trigger now, []) := by simp [step, prepare, handle, stopped]
    rw [stepped]
    exact coherent.move_trigger ⟨stopped, rfl⟩
  | true =>
    have stepped : actor.step now files (.command (.bufferChanged path)) = (actor, []) := by
      simp [step, prepare, handle, stopped]
    rw [stepped]
    exact move_ignored stopped rfl

theorem Coherent.move_asked (coherent : actor.Coherent) (caller : Nat) :
    Move now files actor (.command (.compileNow caller))
      (actor.step now files (.command (.compileNow caller))).1
      (actor.step now files (.command (.compileNow caller))).2 := by
  cases flight : actor.flight with
  | none =>
    have stepped : actor.step now files (.command (.compileNow caller)) =
        actor.compileFor now files [caller] := by
      simp [step, prepare, handle, compileNow, flight]
    rw [stepped]
    exact coherent.move_demand (by rfl) flight
  | some _ =>
    have busy : actor.flight.isSome := by simp [flight]
    have triggered : actor.schedule.trigger.2 = ⟨.compiling, true⟩ := by
      simp [Schedule.trigger, coherent.flying.mp busy]
    have stepped : actor.step now files (.command (.compileNow caller)) =
        ({ actor with
          schedule := ⟨.compiling, true⟩, queued := actor.queued ++ [caller] }, []) := by
      simp [step, prepare, handle, compileNow, busy, triggered]
    rw [stepped]
    exact .queue busy

theorem Coherent.move_shown (coherent : actor.Coherent) (path : Path) :
    Move now files actor (.event (.activeFileChanged path))
      (actor.step now files (.event (.activeFileChanged path))).1
      (actor.step now files (.event (.activeFileChanged path))).2 := by
  cases source : path.isSource actor.config.extensions with
  | true =>
    have stepped : actor.step now files (.event (.activeFileChanged path)) =
        ({ actor with activeFile := some path }.trigger now, []) := by
      simp [step, prepare, showFile, source]
    rw [stepped]
    exact coherent.move_trigger ⟨source, rfl⟩
  | false =>
    have stepped : actor.step now files (.event (.activeFileChanged path)) = (actor, []) := by
      simp [step, prepare, showFile, source]
    rw [stepped]
    exact move_ignored (by simp [ignores, source]) rfl

theorem Coherent.move (coherent : actor.Coherent) (awaited : actor.awaits wake = true) :
    Move now files actor wake (actor.step now files wake).1 (actor.step now files wake).2 := by
  cases wake with
  | command command =>
    cases command with
    | bufferChanged path => exact coherent.move_changed path
    | compileNow caller => exact coherent.move_asked caller
    | stop => exact move_stop (by rfl)
    | status caller | cacheSize caller =>
      exact .pass (by rfl) (by rfl) id (by simp [step, prepare, handle, Effect.isReport])
    | clearCache caller =>
      exact .pass (by rfl) (by rfl) id (by simp [step, prepare, handle, Effect.isReport])
  | closed => exact move_stop (by rfl)
  | deadline =>
    have free := coherent.free_of_armed (by simp_all [awaits])
    exact coherent.move_demand (by rfl) free
  | finished result =>
    cases flight : actor.flight with
    | none => simp [awaits, flight] at awaited
    | some flight => exact coherent.move_finish ‹_› result
  | event event =>
    cases event with
    | activeFileChanged path => exact coherent.move_shown path
    | _ => exact move_ignored (by rfl) (by rfl)
  | lagged missed => exact move_ignored (by rfl) (by rfl)
  | busClosed => exact .pass (by rfl) (by rfl) (fun heard => by cases heard) (by simp [step, prepare])

theorem Coherent.turn (coherent : actor.Coherent) {turn : Turn}
    (awaited : actor.awaits turn.wake = true) :
    Move turn.now turn.files actor turn.wake (actor.next turn) (actor.output turn) :=
  coherent.move awaited

theorem Move.of_asked_free {caller : Nat} {next : Actor} {effects : List Effect}
    (move : Move now files actor (.command (.compileNow caller)) next effects)
    (free : actor.flight = none) : Attempt now files [caller] actor next effects := by
  cases move with
  | pass ignored => cases ignored
  | arm noted | defer noted => cases noted
  | halt halted | rest halted => cases halted
  | queue busy => simp [free] at busy
  | attempt demanded _ tried =>
    cases demanded
    exact tried

theorem Move.of_asked_busy {caller : Nat} {next : Actor} {effects : List Effect}
    (move : Move now files actor (.command (.compileNow caller)) next effects)
    (busy : actor.flight.isSome) :
    effects = [] ∧ next = { actor with
      schedule := ⟨.compiling, true⟩, queued := actor.queued ++ [caller] } := by
  cases move with
  | pass ignored => cases ignored
  | arm noted | defer noted => cases noted
  | halt halted | rest halted => cases halted
  | queue => exact ⟨rfl, rfl⟩
  | attempt _ free => simp [free] at busy

theorem Move.flies {next : Actor} {effects : List Effect}
    (move : Move now files actor wake next effects) (unended : wake.ends = false)
    {flight : Flight} (flying : actor.flight = some flight) :
    next.flight = some flight ∧ actor.queued ⊆ next.queued := by
  cases move with
  | pass | defer | halt | rest => exact ⟨flying, List.Subset.refl _⟩
  | queue => exact ⟨flying, List.subset_append_left _ _⟩
  | arm _ free | attempt _ free => simp [free] at flying
  | settle | serve => cases unended

/-- The end of a compile is published first and told to every caller that waits for it. Then
those who wait for another one are served. -/
theorem Move.of_finished {next : Actor} {effects : List Effect} {result : CompileResult}
    (move : Move now files actor (.finished result) next effects) {flight : Flight}
    (flying : actor.flight = some flight) :
    ∃ rest, effects = actor.farewell (actor.verdict now flight result) ++ rest ∧
      (actor.queued ≠ [] → Attempt now files actor.queued
        { actor.landed (actor.verdict now flight result) with queued := [] } next rest) := by
  cases move with
  | pass ignored => cases ignored
  | arm noted | defer noted => cases noted
  | halt halted | rest halted => cases halted
  | attempt demanded => cases demanded
  | settle other unqueued =>
    obtain rfl := Option.some.inj (flying.symm.trans other)
    exact ⟨[], by simp, absurd unqueued⟩
  | serve other _ tried =>
    obtain rfl := Option.some.inj (flying.symm.trans other)
    exact ⟨_, rfl, fun _ => tried⟩

end

section
variable {now : Nat} {files : List (Path × String)} {wake : Wake}
variable {actor next : Actor} {effects : List Effect}

theorem Attempt.coherent {callers : List Nat}
    (tried : Attempt now files callers actor next effects) (free : actor.flight = none)
    (unwaited : actor.waiters = []) (unqueued : actor.queued = []) : next.Coherent := by
  cases tried with
  | skip => constructor <;> simp [free, unwaited, unqueued]
  | start => constructor <;> simp

theorem Move.coherent (move : Move now files actor wake next effects)
    (coherent : actor.Coherent) : next.Coherent := by
  cases move with
  | pass | rest =>
    exact ⟨coherent.flying, coherent.armed, coherent.pending, coherent.waiting,
      coherent.numbered⟩
  | arm _ free =>
    constructor <;> simp [free, coherent.waiters_of_free free, coherent.queued_of_free free]
  | defer _ busy =>
    constructor <;> simp [busy, coherent.deadline_of_busy busy]
    exact coherent.numbered
  | queue busy =>
    constructor <;> simp [busy, coherent.deadline_of_busy busy]
    exact coherent.numbered
  | halt =>
    exact ⟨by simpa using coherent.flying, by simp, by simp, coherent.waiting,
      coherent.numbered⟩
  | attempt demanded free tried =>
    exact tried.coherent free (coherent.waiters_of_free free) (coherent.queued_of_free free)
  | settle flying unqueued =>
    cases pending : actor.schedule.pending <;>
      constructor <;> simp [landed, unqueued]
  | serve flying waiting tried => exact tried.coherent rfl rfl rfl

end

end LiveCompile.Pipeline.Actor
