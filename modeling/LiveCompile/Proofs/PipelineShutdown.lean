import LiveCompile.Proofs.PipelineStop

/-! How a pipeline ends. Once no one is left to send commands, the only wakes that come are the ends
of compiles: of the one that runs, and of one more if callers wait for it. Then the actor is through,
every compile has ended, and everyone who asked was told. -/

namespace LiveCompile.Pipeline.Actor

/-- An actor that gets no more commands: only compiles that end can wake it. -/
structure Closing (actor : Actor) : Prop where
  coherent : actor.Coherent
  stopped : actor.stopped = true
  halted : actor.Halted
  closed : actor.inboxOpen = false

/-- How many compiles have yet to end, at most, if no commands come any more: the one that runs, and
one for the callers who wait for the compile after it. -/
def left (actor : Actor) : Nat :=
  match actor.flight, actor.queued with
  | none, _ => 0
  | some _, [] => 1
  | some _, _ :: _ => 2

private theorem left_le (actor : Actor) : actor.left ≤ 2 := by
  unfold left
  split <;> decide

private theorem left_free {actor : Actor} (free : actor.flight = none) : actor.left = 0 := by
  simp [left, free]

private theorem left_unqueued {actor : Actor} (unqueued : actor.queued = []) : actor.left ≤ 1 := by
  unfold left
  split <;> simp_all

private theorem left_queued {actor : Actor} {flight : Flight} (flying : actor.flight = some flight)
    (waiting : actor.queued ≠ []) : actor.left = 2 := by
  unfold left
  split <;> simp_all

/-- The compiles that start after the last command, while these turns pass: one, in the turn in which
the running compile ends, if callers wait for it and there is something to compile. -/
def lastCalls (actor : Actor) : List Turn → List CompileRequest
  | [] => []
  | ending :: _ =>
    if actor.flight.isSome ∧ actor.queued ≠ [] ∧ ending.files ≠ [] then
      [⟨ending.files, actor.entryHint⟩]
    else []

section
variable {now : Nat} {files : List (Path × String)} {wake : Wake}
variable {actor next : Actor} {effects : List Effect}

theorem Move.closes (move : Move now files actor .closed next effects) :
    effects = [] ∧ next.inboxOpen = false ∧ next.flight = actor.flight ∧
      next.queued = actor.queued ∧ next.entryHint = actor.entryHint := by
  cases move with
  | pass ignored => cases ignored
  | arm noted | defer noted => cases noted
  | halt halted | rest halted =>
    cases halted
    exact ⟨rfl, rfl, rfl, rfl, rfl⟩
  | attempt demanded => cases demanded

/-- Where a compile ends, another one starts if callers wait for it and there is something to compile,
and no one waits for a third one. -/
theorem Move.ends_for (move : Move now files actor wake next effects) (ends : wake.ends = true) :
    next.queued = [] ∧
      if actor.queued ≠ [] ∧ files ≠ [] then
        calls effects = [⟨files, actor.entryHint⟩] ∧ next.flight.isSome
      else calls effects = [] ∧ next.flight = none := by
  cases move with
  | pass ignored => simp [(quiet_of_ignores ignored).1] at ends
  | arm noted | defer noted => simp [(quiet_of_notes noted).1] at ends
  | queue => cases ends
  | halt halted | rest halted => simp [(quiet_of_halts halted).1] at ends
  | attempt demanded => simp [(callers_of_demands demanded).1] at ends
  | settle _ unqueued => simp [landed, unqueued]
  | serve _ waiting tried =>
    refine ⟨tried.keeps.1, ?_⟩
    cases tried with
    | skip empty => simp [landed, empty]
    | start filled => simp [landed, entryHint, waiting, filled]

end

section
variable {actor : Actor} {turn : Turn} {turns : List Turn}

theorem Closing.awaits_eq (closing : actor.Closing) (wake : Wake) :
    actor.awaits wake = (actor.flight.isSome && wake.ends) := by
  cases wake <;>
    simp [awaits, running, closing.closed, closing.halted.unarmed, closing.halted.deaf, Wake.ends]

theorem Closing.running_eq (closing : actor.Closing) : actor.running = actor.flight.isSome := by
  simp [running, closing.closed]

theorem Closing.next (closing : actor.Closing) (awaited : actor.awaits turn.wake = true) :
    (actor.next turn).Closing := by
  have move := closing.coherent.turn awaited
  have stopped := move.stays_stopped closing.stopped
  refine ⟨closing.coherent.next awaited, stopped,
    move.halted awaited (fun _ => closing.halted) stopped, ?_⟩
  have ends : turn.wake.ends = true := by
    rw [closing.awaits_eq, Bool.and_eq_true] at awaited
    exact awaited.2
  cases finished : turn.wake with
  | finished result =>
    rw [finished] at move
    generalize actor.next turn = next at move
    generalize actor.output turn = effects at move
    cases move with
    | pass ignored => cases ignored
    | arm noted | defer noted => cases noted
    | halt halted | rest halted => cases halted
    | attempt demanded => cases demanded
    | settle => exact closing.closed
    | serve _ _ tried => exact tried.keeps.2.2.2.1.trans closing.closed
  | _ => simp [finished, Wake.ends] at ends

theorem Closing.after (closing : actor.Closing) (admitted : actor.Admits turns) :
    (actor.after turns).Closing := by
  induction turns generalizing actor with
  | nil => exact closing
  | cons turn rest ih => exact ih (closing.next admitted.1) admitted.2

theorem Closing.sinks (closing : actor.Closing) (awaited : actor.awaits turn.wake = true) :
    turn.wake.ends = true ∧ (actor.next turn).left + 1 ≤ actor.left := by
  have move := closing.coherent.turn awaited
  rw [closing.awaits_eq, Bool.and_eq_true] at awaited
  obtain ⟨flying, ends⟩ := awaited
  obtain ⟨flight, flying⟩ := Option.isSome_iff_exists.mp flying
  obtain ⟨unqueued, started⟩ := move.ends_for ends
  refine ⟨ends, ?_⟩
  split at started
  case isTrue both =>
    have few := left_unqueued unqueued
    rw [left_queued flying both.1]
    omega
  case isFalse =>
    rw [left_free started.2]
    unfold left
    split <;> simp_all

theorem Closing.length_le (closing : actor.Closing) (admitted : actor.Admits turns) :
    (∀ turn ∈ turns, turn.wake.ends = true) ∧
      turns.length + (actor.after turns).left ≤ actor.left := by
  induction turns generalizing actor with
  | nil => simp
  | cons turn rest ih =>
    obtain ⟨ends, sinks⟩ := closing.sinks admitted.1
    obtain ⟨each, few⟩ := ih (closing.next admitted.1) admitted.2
    refine ⟨List.forall_mem_cons.mpr ⟨ends, each⟩, ?_⟩
    rw [List.length_cons, after_cons]
    omega

theorem Closing.uncalled (closing : actor.Closing) (admitted : actor.Admits turns)
    (unqueued : actor.queued = []) : calls (actor.effects turns) = [] := by
  induction turns generalizing actor with
  | nil => rfl
  | cons turn rest ih =>
    have ends := (closing.sinks admitted.1).1
    obtain ⟨unqueueds, started⟩ := (closing.coherent.turn admitted.1).ends_for ends
    rw [if_neg (by simp [unqueued])] at started
    simp [effects, started.1, ih (closing.next admitted.1) admitted.2 unqueueds]

theorem Closing.calls_eq (closing : actor.Closing) (admitted : actor.Admits turns) :
    calls (actor.effects turns) = actor.lastCalls turns := by
  cases turns with
  | nil => rfl
  | cons turn rest =>
    have ends := (closing.sinks admitted.1).1
    have flying : actor.flight.isSome := by
      have awaited := admitted.1
      rw [closing.awaits_eq, Bool.and_eq_true] at awaited
      exact awaited.1
    obtain ⟨unqueued, started⟩ := (closing.coherent.turn admitted.1).ends_for ends
    have later := (closing.next admitted.1).uncalled admitted.2 unqueued
    rw [effects, calls_append, later, List.append_nil, lastCalls]
    split at started
    case isTrue both => rw [if_pos ⟨flying, both⟩, started.1]
    case isFalse neither => rw [if_neg fun all => neither all.2, started.1]

theorem Coherent.closing (coherent : actor.Coherent) (halted : actor.stopped = true → actor.Halted)
    (closes : turn.wake = .closed) (awaited : actor.awaits turn.wake = true) :
    (actor.next turn).Closing := by
  have move := coherent.turn awaited
  have halts : turn.wake.halts = true := by rw [closes]; rfl
  have stopped := move.stops halts
  exact ⟨coherent.next awaited, stopped, move.halted awaited halted stopped,
    (closes ▸ move).closes.2.1⟩

theorem Course.ended {effects : List Effect} (course : Course actor effects)
    (free : actor.flight = none) {compileId : Nat} (positive : 0 < compileId)
    (started : compileId ≤ actor.lastCompileId) :
    ∃ event ∈ events effects, event.isTerminal = true ∧ event.compileId? = some compileId := by
  have length := course.length
  simp only [free, Option.isSome_none, Bool.false_eq_true, if_false, Nat.add_zero] at length
  have inside : 2 * compileId - 1 < (events effects).length := by omega
  obtain ⟨numbered, terminal⟩ := course.follows _ _ (List.getElem?_eq_getElem inside)
  rw [if_neg (by omega)] at terminal
  refine ⟨_, List.getElem_mem inside, terminal, ?_⟩
  rw [numbered]
  congr 1
  omega

end

/-- Once the inbox has ended the actor waits for the end of the compile that runs and for nothing
else. At most two compiles end then, none if no compile runs, and one more starts exactly if callers
waited for it and there are buffers when the running one ends. When none runs any more the actor is
through: no one waits, the end of every compile that started is published, and every caller was told
as often as it asked. -/
theorem shutdown_drains (config : PipelineConfig) (cache : Cache) (before later : List Turn)
    (closing : Turn) (admitted : (start config cache).Admits (before ++ closing :: later))
    (closes : closing.wake = .closed) :
    let first := start config cache
    let standing := first.after before
    let actor := first.after (before ++ closing :: later)
    let effects := first.effects (before ++ closing :: later)
    (∀ wake, actor.awaits wake = (actor.flight.isSome && wake.ends)) ∧
      (∀ turn ∈ later, turn.wake.ends = true) ∧
      later.length + actor.left ≤ standing.left ∧ standing.left ≤ 2 ∧
      calls effects = calls (first.effects before) ++ standing.lastCalls later ∧
      (standing.flight = none → later = [] ∧ actor.running = false) ∧
      (actor.running = false →
        actor.flight = none ∧ actor.waiters = [] ∧ actor.queued = [] ∧
        (∀ compileId, 0 < compileId → compileId ≤ (calls effects).length →
          ∃ event ∈ events effects, event.isTerminal = true ∧
            event.compileId? = some compileId) ∧
        ∀ caller, (replies caller effects).length =
          (requests (before ++ closing :: later)).count caller) := by
  intro first standing actor effects
  have fresh : first.Coherent := .start config cache
  obtain ⟨reached, awaited, onward⟩ := admits_append.mp admitted
  have stands : standing.Coherent := fresh.after reached
  obtain ⟨silent, _, flight, queued, hint⟩ := (closes ▸ stands.turn awaited).closes
  have closed : (standing.next closing).Closing :=
    stands.closing (fresh.halted reached nofun) closes awaited
  have reaches : actor = (standing.next closing).after later := by simp [actor, standing]
  have ending : actor.Closing := reaches ▸ closed.after onward
  obtain ⟨each, few⟩ := closed.length_le onward
  have bound : later.length + actor.left ≤ standing.left := by
    have same : (standing.next closing).left = standing.left := by
      simp only [left, flight, queued]
    rw [reaches, ← same]
    exact few
  have called : calls effects = calls (first.effects before) ++ standing.lastCalls later := by
    have same : (standing.next closing).lastCalls later = standing.lastCalls later := by
      cases later with
      | nil => rfl
      | cons turn rest => simp only [lastCalls, flight, queued, hint]
    rw [← same, ← closed.calls_eq onward]
    simp only [effects, effects_append, Actor.effects, calls_append]
    rw [show calls (standing.output closing) = [] by rw [silent]; rfl, List.nil_append]
  refine ⟨ending.awaits_eq, each, bound, left_le _, called, ?_, ?_⟩
  · intro free
    have none : later.length + actor.left = 0 := by
      have nothing := left_free free
      omega
    have empty : later = [] := List.length_eq_zero_iff.mp (by omega)
    refine ⟨empty, ?_⟩
    rw [ending.running_eq, reaches, empty, after_nil, flight, free]
    rfl
  · intro through
    have free : actor.flight = none := by
      rw [ending.running_eq] at through
      simpa using through
    have unwaited := ending.coherent.waiters_of_free free
    have unqueued := ending.coherent.queued_of_free free
    have course : Course actor effects :=
      fresh.track Course admitted (.start config cache)
        fun coherent course move => course.move coherent move
    refine ⟨free, unwaited, unqueued, ?_, ?_⟩
    · intro compileId positive started
      exact course.ended free positive (admitted.counts.symm ▸ started)
    · intro caller
      have conserved := fresh.conserved admitted caller
      have initial : first.waiters = [] ∧ first.queued = [] := ⟨rfl, rfl⟩
      rw [show (first.after (before ++ closing :: later)).waiters = [] from unwaited,
        show (first.after (before ++ closing :: later)).queued = [] from unqueued, initial.1,
        initial.2] at conserved
      simpa using conserved

/-- The inbox ends during a compile that fails. A caller who asked meanwhile gets one more. -/
theorem shutdown_drains_queued :
    let files : List (Path × String) := [(⟨[97]⟩, "x")]
    let before : List Turn :=
      [⟨0, files, .command (.compileNow 0)⟩, ⟨1, files, .command (.compileNow 1)⟩]
    let closing : Turn := ⟨2, files, .closed⟩
    let later : List Turn :=
      [⟨3, files, .finished (.error .encode)⟩, ⟨4, [], .finished (.ok default)⟩]
    let first := start {} .empty
    let actor := first.after (before ++ closing :: later)
    first.Admits (before ++ closing :: later) ∧ closing.wake = .closed ∧
      (first.after before).left = 2 ∧ actor.running = false ∧ actor.queued = [] ∧
      (calls (first.effects (before ++ closing :: later))).length = 2 ∧
      (replies 1 (first.effects (before ++ closing :: later))).length = 1 := by
  intro files before closing later first actor
  have admitted : first.Admits (before ++ closing :: later) := ⟨rfl, rfl, rfl, rfl, rfl, trivial⟩
  obtain ⟨_, _, _, _, called, _, through⟩ :=
    shutdown_drains {} .empty before later closing admitted rfl
  obtain ⟨_, _, unqueued, _, told⟩ := through rfl
  exact ⟨admitted, rfl, rfl, rfl, unqueued, congrArg List.length called, told 1⟩

end LiveCompile.Pipeline.Actor
