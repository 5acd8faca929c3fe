import LiveCompile.Proofs.PipelineAnswers
import LiveCompile.Proofs.PipelineDownstream

/-! What a pipeline does once it is asked to stop, or once no one is left to send commands.
Nothing that was scheduled happens any more: whatever compile starts afterwards answers a
caller. A compile that runs goes on to its end. -/

namespace LiveCompile.Pipeline.Actor

/-- No timer is armed, no event is received, and what is still noted is noted for callers. -/
structure Halted (actor : Actor) : Prop where
  unarmed : actor.deadline = none
  deaf : actor.listening = false
  backed : actor.schedule.pending = true → actor.queued ≠ []

/-- A compile starts for callers: for one who asks while none runs, or in the turn in which a
compile ends for those who asked during it. -/
def StartsFor (actor : Actor) (turn : Turn) (callers : List Nat) : Prop :=
  (∃ caller, callers = [caller] ∧ turn.wake = .command (.compileNow caller) ∧
      actor.flight = none) ∨
    callers = actor.queued ∧ callers ≠ [] ∧ turn.wake.ends = true

section
variable {now : Nat} {files : List (Path × String)} {wake : Wake} {callers : List Nat}
variable {actor next : Actor} {effects : List Effect}

theorem Attempt.halted (tried : Attempt now files callers actor next effects)
    (deaf : actor.listening = false) : next.Halted := by
  cases tried <;> exact ⟨rfl, deaf, nofun⟩

theorem Halted.unnoted (halted : actor.Halted) (stopped : actor.stopped = true)
    (awaited : actor.awaits wake = true) (file : Option Path) : ¬ actor.notes wake file := by
  intro noted
  cases wake with
  | command command =>
    cases command with
    | bufferChanged path =>
      have going : actor.stopped = false := noted.1
      simp [stopped] at going
    | _ => cases noted
  | event event =>
    have listening : actor.listening = true := (Bool.and_eq_true_iff.mp awaited).2
    simp [halted.deaf] at listening
  | _ => cases noted

theorem Move.stays_stopped (move : Move now files actor wake next effects)
    (stopped : actor.stopped = true) : next.stopped = true := by
  cases move with
  | pass | arm | defer | queue | rest | settle => exact stopped
  | halt => rfl
  | attempt _ _ tried | serve _ _ tried => exact tried.keeps.2.2.1.trans stopped

private theorem only_halts (actor : Actor) (halts : wake.halts = true) :
    actor.ignores wake = false ∧ (∀ file, ¬ actor.notes wake file) ∧
      (∀ callers, ¬ demands wake callers) ∧ wake.ends = false := by
  cases wake with
  | command command =>
    cases command with
    | stop => exact ⟨rfl, nofun, nofun, rfl⟩
    | _ => cases halts
  | closed => exact ⟨rfl, nofun, nofun, rfl⟩
  | _ => cases halts

theorem Move.stops (move : Move now files actor wake next effects) (halts : wake.halts = true) :
    next.stopped = true := by
  obtain ⟨unignored, unnoted, undemanded, _⟩ := only_halts actor halts
  cases move with
  | pass ignored => simp [unignored] at ignored
  | arm noted | defer noted => exact absurd noted (unnoted _)
  | attempt demanded => exact absurd demanded (undemanded _)
  | queue | settle | serve => cases halts
  | halt => rfl
  | rest _ stopped => exact stopped

/-- Every turn keeps a stopped actor without a timer and without a note for anyone but callers,
and a turn that stops the actor leaves it so. -/
theorem Move.halted (move : Move now files actor wake next effects)
    (awaited : actor.awaits wake = true) (halted : actor.stopped = true → actor.Halted)
    (stopped : next.stopped = true) : next.Halted := by
  cases move with
  | pass _ _ hears =>
    have halted := halted stopped
    refine ⟨halted.unarmed, ?_, halted.backed⟩
    simpa [halted.deaf] using hears
  | arm noted | defer noted => exact absurd noted ((halted stopped).unnoted stopped awaited _)
  | queue => exact ⟨(halted stopped).unarmed, (halted stopped).deaf, by simp⟩
  | halt => exact ⟨rfl, rfl, by simp⟩
  | rest _ stopped => exact ⟨(halted stopped).unarmed, (halted stopped).deaf, (halted stopped).backed⟩
  | attempt _ _ tried => exact tried.halted (halted (tried.keeps.2.2.1.symm.trans stopped)).deaf
  | settle _ unqueued =>
    have halted := halted stopped
    have settled : actor.schedule.pending = false := by
      cases pending : actor.schedule.pending with
      | false => rfl
      | true => exact absurd unqueued (halted.backed pending)
    exact ⟨by simp [settled], halted.deaf, nofun⟩
  | serve _ _ tried => exact tried.halted (halted (tried.keeps.2.2.1.symm.trans stopped)).deaf

theorem Move.starts_for (move : Move now files actor wake next effects) (halted : actor.Halted)
    (awaited : actor.awaits wake = true) (called : calls effects ≠ []) :
    StartsFor actor ⟨now, files, wake⟩ next.waiters := by
  cases move with
  | pass _ _ _ reports => exact absurd (reports_silent reports).2.2.1 called
  | arm | defer | queue | halt | rest => exact absurd rfl called
  | attempt demanded free tried =>
    cases tried with
    | skip => simp at called
    | start =>
      cases wake with
      | command command =>
        cases command with
        | compileNow caller => exact .inl ⟨caller, demanded, rfl, free⟩
        | _ => cases demanded
      | deadline =>
        have armed : actor.deadline.isSome := (Bool.and_eq_true_iff.mp awaited).2
        simp [halted.unarmed] at armed
      | _ => cases demanded
  | settle => exact absurd (calls_farewell ..) called
  | serve _ waiting tried =>
    cases tried with
    | skip => simp at called
    | start => exact .inr ⟨rfl, waiting, rfl⟩

theorem Move.waits (move : Move now files actor wake next effects) (unended : wake.ends = false)
    (busy : actor.flight.isSome) : next.waiters = actor.waiters := by
  cases move with
  | pass | defer | queue | halt | rest => rfl
  | arm _ free | attempt _ free => simp [free] at busy
  | settle | serve => cases unended

end

/-- A compile goes on: its end is awaited, and will be published and told to the callers. An
output will be resolved and held. -/
structure GoesOn (actor : Actor) (flight : Flight) (callers : List Nat) : Prop where
  flying : actor.flight = some flight
  waiters : actor.waiters = callers
  awaited : ∀ result, actor.awaits (.finished result) = true
  told : ∀ now files result, ∃ event outcome rest,
    actor.output ⟨now, files, .finished result⟩ =
      .publish event :: callers.map (.answer · outcome) ++ rest ∧
    event.isTerminal = true ∧ event.compileId? = some flight.compileId ∧
    Tells flight.compileId outcome event
  delivered : ∀ now files output,
    Delivered actor ⟨now, files, .finished (.ok output)⟩ output flight

section
variable {actor : Actor} {turns : List Turn}

theorem Coherent.goes_on (coherent : actor.Coherent) {flight : Flight}
    (flying : actor.flight = some flight) : GoesOn actor flight actor.waiters := by
  have awaited (result : CompileResult) : actor.awaits (.finished result) = true := by
    simp [awaits, running, flying]
  refine ⟨flying, rfl, awaited, ?_, ?_⟩
  · intro now files result
    have move : Move now files actor (.finished result) _ _ := coherent.move_finish flying result
    obtain ⟨rest, told, _⟩ := move.of_finished flying
    obtain ⟨terminal, numbered, _, _, tells⟩ := verdict_tells now flight result actor
    exact ⟨_, _, rest, told, terminal, numbered, tells⟩
  · intro now files output
    obtain ⟨other, delivered⟩ :
        ∃ other, Delivered actor ⟨now, files, .finished (.ok output)⟩ output other :=
      coherent.delivered (awaited _) rfl
    obtain rfl := Option.some.inj (flying.symm.trans delivered.flying)
    exact delivered

theorem Coherent.waits (coherent : actor.Coherent) (admitted : actor.Admits turns)
    (unended : endings turns = []) {flight : Flight} (flying : actor.flight = some flight) :
    (actor.after turns).flight = some flight ∧ (actor.after turns).waiters = actor.waiters := by
  induction turns generalizing actor with
  | nil => exact ⟨flying, rfl⟩
  | cons turn rest ih =>
    obtain ⟨ongoing, unendeds⟩ := List.forall_mem_cons.mp (List.filter_eq_nil_iff.mp unended)
    have ongoing : turn.wake.ends = false := by simpa using ongoing
    have move := coherent.turn admitted.1
    obtain ⟨flown, waited⟩ := ih (coherent.next admitted.1) admitted.2
      (List.filter_eq_nil_iff.mpr unendeds) (move.flies ongoing flying).1
    exact ⟨flown, waited.trans (move.waits ongoing (by simp [flying]))⟩

theorem Coherent.stays_stopped (coherent : actor.Coherent) (admitted : actor.Admits turns)
    (stopped : actor.stopped = true) : (actor.after turns).stopped = true := by
  induction turns generalizing actor with
  | nil => exact stopped
  | cons turn rest ih =>
    exact ih (coherent.next admitted.1) admitted.2
      ((coherent.turn admitted.1).stays_stopped stopped)

theorem Coherent.halted (coherent : actor.Coherent) (admitted : actor.Admits turns)
    (halted : actor.stopped = true → actor.Halted) (stopped : (actor.after turns).stopped = true) :
    (actor.after turns).Halted := by
  induction turns generalizing actor with
  | nil => exact halted stopped
  | cons turn rest ih =>
    exact ih (coherent.next admitted.1) admitted.2
      ((coherent.turn admitted.1).halted admitted.1 halted) stopped

theorem Admits.asked {config : PipelineConfig} {cache : Cache}
    (admitted : (start config cache).Admits turns) {caller : Nat}
    (waiting : caller ∈ ((start config cache).after turns).waiters) : caller ∈ requests turns := by
  apply Classical.byContradiction
  intro unasked
  have unwaited := (admitted.unasked unasked).2.1
  exact List.count_eq_zero.mp unwaited waiting

end

/-- Once a pipeline was asked to stop, or no one is left to send commands, no timer is armed
any more and no event of the editor is received, whatever comes. A change that is noted is
noted for callers who wait for the next compile, and a compile that starts does so for
callers who asked for it. The compile that ran goes on to its end. -/
theorem stop_is_final (config : PipelineConfig) (cache : Cache) (before later : List Turn)
    (halting : Turn) (admitted : (start config cache).Admits (before ++ halting :: later))
    (halts : halting.wake.halts = true) :
    let first := start config cache
    let actor := first.after (before ++ halting :: later)
    actor.stopped = true ∧ actor.deadline = none ∧ actor.listening = false ∧
      (actor.schedule.pending = true → actor.queued ≠ []) ∧
      (∀ turn, actor.awaits turn.wake = true → calls (actor.output turn) ≠ [] →
        StartsFor actor turn (actor.next turn).waiters ∧
          ∀ caller ∈ (actor.next turn).waiters,
            caller ∈ requests (before ++ halting :: later ++ [turn])) ∧
      ∀ flight, (first.after before).flight = some flight → endings later = [] →
        GoesOn actor flight (first.after before).waiters := by
  intro first actor
  have coherent : first.Coherent := .start config cache
  obtain ⟨reached, onward⟩ := admits_append.mp admitted
  have standing := coherent.after reached
  have reaches : actor = ((first.after before).next halting).after later := by simp [actor]
  have ends : actor.Coherent := coherent.after admitted
  have stopped : actor.stopped = true := by
    rw [reaches]
    exact (standing.next onward.1).stays_stopped onward.2 ((standing.turn onward.1).stops halts)
  have halted : actor.Halted := coherent.halted admitted nofun stopped
  refine ⟨stopped, halted.unarmed, halted.deaf, halted.backed, ?_, ?_⟩
  · intro turn awaited called
    refine ⟨(ends.turn awaited).starts_for halted awaited called, ?_⟩
    intro caller waiting
    have on : first.Admits (before ++ halting :: later ++ [turn]) :=
      admits_append.mpr ⟨admitted, awaited, trivial⟩
    exact on.asked (by simpa [actor] using waiting)
  · intro flight flying unended
    have unendeds : endings (halting :: later) = [] := by
      simpa [endings, (only_halts actor halts).2.2.2] using unended
    obtain ⟨flown, waited⟩ := standing.waits onward unendeds flying
    rw [after_cons, ← reaches] at flown waited
    rw [← waited]
    exact ends.goes_on flown

/-- A pipeline stops while it compiles. A change comes too late, a caller does not. -/
theorem stop_is_final_queued :
    let files : List (Path × String) := [(⟨[97]⟩, "x")]
    let before : List Turn := [⟨0, files, .command (.compileNow 0)⟩]
    let halting : Turn := ⟨1, files, .command .stop⟩
    let later : List Turn :=
      [⟨2, files, .command (.bufferChanged ⟨[97]⟩)⟩, ⟨3, files, .command (.compileNow 1)⟩]
    let ending : Turn := ⟨4, files, .finished (.error .encode)⟩
    let actor := (start {} .empty).after (before ++ halting :: later)
    (start {} .empty).Admits (before ++ halting :: later) ∧ halting.wake.halts = true ∧
      actor.deadline = none ∧ GoesOn actor ⟨1, 0⟩ [0] ∧ StartsFor actor ending [1] := by
  intro files before halting later ending actor
  have admitted : (start {} .empty).Admits (before ++ halting :: later) :=
    ⟨rfl, rfl, rfl, rfl, trivial⟩
  obtain ⟨_, unarmed, _, _, starts, goes⟩ :=
    stop_is_final {} .empty before later halting admitted rfl
  exact ⟨admitted, rfl, unarmed, goes ⟨1, 0⟩ rfl rfl,
    (starts ending rfl (List.cons_ne_nil _ _)).1⟩

end LiveCompile.Pipeline.Actor
