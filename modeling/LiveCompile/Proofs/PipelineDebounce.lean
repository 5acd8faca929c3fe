import LiveCompile.Proofs.PipelineFollowUp
import LiveCompile.Proofs.PipelineTriggers

/-! When the quiet period of a pipeline ends. It is measured from the last turn in which it was
started: a trigger while no compile runs, or the end of a compile that owes another one. What
triggers came before that does not matter, neither to the end of the period nor to the
schedule. -/

namespace LiveCompile.Pipeline

/-- The clock never goes back. -/
def Forward (turns : List Turn) : Prop := turns.Pairwise fun one later => one.now ≤ later.now

theorem Tried.not_untried {files : List (Path × String)} {effects : List Effect}
    (tried : Tried files effects) : ¬ Untried effects := by
  intro untried
  have read := tried.1
  simp [untried.1] at read

namespace Actor

/-- The quiet period starts anew: with a trigger while no compile runs and the pipeline goes on,
or with the end of a compile that owes another one for which no caller waits. -/
def Arms (actor : Actor) (wake : Wake) : Prop :=
  wake.triggers actor.config = true ∧ actor.flight = none ∧ actor.stopped = false ∨
    wake.ends = true ∧ actor.schedule.pending = true ∧ actor.queued = []

/-- The quiet period does not start, no compile is tried, and nothing is stopped or closed. -/
def Spares (actor : Actor) (wake : Wake) (effects : List Effect) : Prop :=
  ¬ actor.Arms wake ∧ Untried effects ∧ wake.halts = false

/-- Some turns leave the quiet period as it is, one after the other. -/
def Undisturbed (actor : Actor) : List Turn → Prop
  | [] => True
  | turn :: rest => actor.Spares turn.wake (actor.output turn) ∧ (actor.next turn).Undisturbed rest

/-- The quiet period starts in a turn, and the later turns leave it as it is. -/
def LastArmed (actor : Actor) (before : List Turn) (arming : Turn) (later : List Turn) : Prop :=
  (actor.after before).Arms arming.wake ∧ ((actor.after before).next arming).Undisturbed later

section
variable {now : Nat} {files : List (Path × String)} {wake : Wake}
variable {actor next : Actor} {effects : List Effect}

theorem Attempt.disarms {callers : List Nat}
    (tried : Attempt now files callers actor next effects) : next.deadline = none := by
  cases tried <;> rfl

private theorem spares_of_ignores (ignored : actor.ignores wake = true)
    (untried : Untried effects) : actor.Spares wake effects := by
  have quiet : ¬ actor.Arms wake ∧ wake.halts = false := by
    cases wake with
    | command command =>
      cases command <;> simp_all [ignores, Arms, Wake.triggers, Wake.ends, Wake.halts]
    | event event => cases event <;> simp_all [ignores, Arms, Wake.triggers, Wake.ends, Wake.halts]
    | lagged | busClosed => simp [Arms, Wake.triggers, Wake.ends, Wake.halts]
    | _ => cases ignored
  exact ⟨quiet.1, untried, quiet.2⟩

private theorem disturbed_of_halts (halts : wake.halts = true) (effects : List Effect) :
    ¬ actor.Arms wake ∧ ¬ actor.Spares wake effects := by
  refine ⟨?_, fun spared => by simp [Spares, halts] at spared⟩
  cases wake with
  | command command => cases command <;> simp_all [Arms, Wake.triggers, Wake.ends, Wake.halts]
  | closed => simp [Arms, Wake.triggers, Wake.ends]
  | _ => cases halts

private theorem not_arms_of_demands {callers : List Nat} (demanded : demands wake callers) :
    ¬ actor.Arms wake := by
  cases wake with
  | command command => cases command <;> simp_all [Arms, demands, Wake.triggers, Wake.ends]
  | deadline => simp [Arms, Wake.triggers, Wake.ends]
  | _ => cases demanded

/-- A turn that starts the quiet period sets its end. One that leaves it alone does not move its
end, and any other turn ends it. -/
theorem Move.deadline (move : Move now files actor wake next effects) (steady : actor.Steady)
    (awaited : actor.awaits wake = true) :
    actor.Arms wake ∧ next.deadline = some (now + actor.config.debounce) ∨
      actor.Spares wake effects ∧ next.deadline = actor.deadline ∨
      ¬ actor.Arms wake ∧ ¬ actor.Spares wake effects ∧ next.deadline = none := by
  cases move with
  | pass ignored _ _ reports =>
    exact .inr (.inl ⟨spares_of_ignores ignored (untried_reports reports), rfl⟩)
  | arm noted free =>
    exact .inl ⟨.inl ⟨triggers_of_notes noted, free, steady.going awaited noted⟩, rfl⟩
  | defer noted busy =>
    obtain ⟨unended, unhalted⟩ := Wake.quiet_of_triggers (triggers_of_notes noted)
    refine .inr (.inl ⟨⟨?_, ⟨rfl, rfl⟩, unhalted⟩, rfl⟩)
    rintro (⟨_, free, _⟩ | ⟨ended, _⟩)
    · simp [free] at busy
    · simp [unended] at ended
  | @queue caller =>
    have unarmed : ¬ actor.Arms (.command (.compileNow caller)) := by
      simp [Arms, Wake.triggers, Wake.ends]
    exact .inr (.inl ⟨⟨unarmed, ⟨rfl, rfl⟩, rfl⟩, rfl⟩)
  | halt halted =>
    obtain ⟨unarmed, unspared⟩ := disturbed_of_halts (halts_iff.mpr ⟨_, halted⟩) []
    exact .inr (.inr ⟨unarmed, unspared, rfl⟩)
  | rest halted stopped =>
    obtain ⟨unarmed, unspared⟩ := disturbed_of_halts (halts_iff.mpr ⟨_, halted⟩) []
    exact .inr (.inr ⟨unarmed, unspared, (steady.halted stopped).unarmed⟩)
  | attempt demanded free tried =>
    have unspared : ¬ actor.Spares wake effects :=
      fun spared => tried.tries.not_untried spared.2.1
    exact .inr (.inr ⟨not_arms_of_demands demanded, unspared, tried.disarms⟩)
  | @settle result _ flying unqueued =>
    cases pending : actor.schedule.pending with
    | false =>
      have unarmed := steady.coherent.deadline_of_busy (by simp [flying])
      have spared : ¬ actor.Arms (.finished result) := by simp [Arms, Wake.triggers, pending]
      exact .inr (.inl ⟨⟨spared, untried_farewell .., rfl⟩, by simp [unarmed]⟩)
    | true => exact .inl ⟨.inr ⟨rfl, pending, unqueued⟩, by simp⟩
  | serve flying waiting tried =>
    refine .inr (.inr ⟨by simp [Arms, Wake.triggers, waiting], fun spared => ?_, tried.disarms⟩)
    have read := spared.2.1.1
    simp [tried.tries.1] at read

theorem Move.fires (move : Move now files actor .deadline next effects) : Tried files effects := by
  cases move with
  | pass ignored => cases ignored
  | arm noted | defer noted => cases noted
  | halt halted | rest halted => cases halted
  | attempt _ _ tried => exact tried.tries

end

section
variable {actor : Actor} {turns : List Turn} {time : Nat}

theorem Steady.deadline (steady : actor.Steady) {turn : Turn}
    (awaited : actor.awaits turn.wake = true) :
    actor.Arms turn.wake ∧ (actor.next turn).deadline = some (turn.now + actor.config.debounce) ∨
      actor.Spares turn.wake (actor.output turn) ∧ (actor.next turn).deadline = actor.deadline ∨
      ¬ actor.Arms turn.wake ∧ ¬ actor.Spares turn.wake (actor.output turn) ∧
        (actor.next turn).deadline = none :=
  (steady.coherent.turn awaited).deadline steady awaited

theorem Undisturbed.deadline (undisturbed : actor.Undisturbed turns) (steady : actor.Steady)
    (admitted : actor.Admits turns) : (actor.after turns).deadline = actor.deadline := by
  induction turns generalizing actor with
  | nil => rfl
  | cons turn rest ih =>
    have onward := ih undisturbed.2 (steady.next admitted.1) admitted.2
    rcases steady.deadline admitted.1 with ⟨arms, _⟩ | ⟨_, kept⟩ | ⟨_, unspared, _⟩
    · exact absurd arms undisturbed.1.1
    · exact onward.trans kept
    · exact absurd undisturbed.1 unspared

/-- The end of a quiet period was set in the turn in which it started last, unless it is the
first one that there was. -/
theorem Steady.armed (steady : actor.Steady) (admitted : actor.Admits turns)
    (armed : (actor.after turns).deadline = some time) :
    (∃ before arming later, turns = before ++ arming :: later ∧
        actor.LastArmed before arming later ∧ time = arming.now + actor.config.debounce) ∨
      actor.Undisturbed turns ∧ actor.deadline = some time := by
  induction turns generalizing actor with
  | nil => exact .inr ⟨trivial, armed⟩
  | cons turn rest ih =>
    have config := (steady.coherent.turn admitted.1).config
    rcases ih (steady.next admitted.1) admitted.2 armed with
      ⟨before, arming, later, rfl, last, due⟩ | ⟨undisturbed, still⟩
    · exact .inl ⟨turn :: before, arming, later, rfl, last, by rw [due, config]⟩
    · rcases steady.deadline admitted.1 with ⟨arms, set⟩ | ⟨spared, kept⟩ | ⟨_, _, ended⟩
      · rw [set] at still
        exact .inl ⟨[], turn, rest, rfl, ⟨arms, undisturbed⟩, (Option.some.inj still).symm⟩
      · exact .inr ⟨⟨spared, undisturbed⟩, kept.symm.trans still⟩
      · simp [ended] at still

/-- Once the quiet period was started, its end is known as long as nothing disturbs it. -/
theorem LastArmed.deadline {before later : List Turn} {arming : Turn}
    (last : actor.LastArmed before arming later) (steady : actor.Steady)
    (admitted : actor.Admits (before ++ arming :: later)) :
    (actor.after (before ++ arming :: later)).deadline =
      some (arming.now + actor.config.debounce) := by
  obtain ⟨reached, awaited, onward⟩ := admits_append.mp admitted
  have standing := steady.after reached
  have kept := last.2.deadline (standing.next awaited) onward
  rw [after_append, after_cons, kept]
  rcases standing.deadline awaited with ⟨_, set⟩ | ⟨spared, _⟩ | ⟨unarmed, _⟩
  · rw [set, steady.config_after reached]
  · exact absurd last.1 spared.1
  · exact absurd last.1 unarmed

theorem Steady.arms (steady : actor.Steady) (armed : actor.deadline = some time) {wake : Wake}
    (trigger : wake.triggers actor.config = true) : actor.Arms wake := by
  refine .inl ⟨trigger, steady.coherent.free_of_armed (by simp [armed]), ?_⟩
  cases stopped : actor.stopped with
  | false => rfl
  | true => simp [(steady.halted stopped).unarmed] at armed

theorem Undisturbed.untriggered (undisturbed : actor.Undisturbed turns) (steady : actor.Steady)
    (admitted : actor.Admits turns) (armed : actor.deadline = some time) :
    ∀ turn ∈ turns, turn.wake.triggers actor.config = false := by
  induction turns generalizing actor with
  | nil => simp
  | cons turn rest ih =>
    obtain ⟨spared, onward⟩ := undisturbed
    have move := steady.coherent.turn admitted.1
    have alone : actor.Undisturbed [turn] := ⟨spared, trivial⟩
    have kept : (actor.next turn).deadline = actor.deadline :=
      alone.deadline steady ⟨admitted.1, trivial⟩
    have quiet := ih onward (steady.next admitted.1) admitted.2 (kept.trans armed)
    rw [move.config] at quiet
    refine List.forall_mem_cons.mpr ⟨?_, quiet⟩
    exact Bool.eq_false_iff.mpr fun trigger => spared.1 (steady.arms armed trigger)

theorem LastArmed.triggered_before {before later : List Turn} {arming : Turn}
    (last : actor.LastArmed before arming later) (steady : actor.Steady)
    (admitted : actor.Admits (before ++ arming :: later))
    (forward : Forward (before ++ arming :: later)) :
    ∀ turn ∈ before ++ arming :: later, turn.wake.triggers actor.config = true →
      turn.now ≤ arming.now := by
  obtain ⟨reached, awaited, onward⟩ := admits_append.mp admitted
  have standing := steady.after reached
  have config : ((actor.after before).next arming).config = actor.config :=
    (standing.coherent.turn awaited).config.trans (steady.config_after reached)
  have set : ((actor.after before).next arming).deadline =
      some (arming.now + actor.config.debounce) := by
    have first : actor.LastArmed before arming [] := ⟨last.1, trivial⟩
    simpa using first.deadline steady (admits_append.mpr ⟨reached, awaited, trivial⟩)
  have quiet := last.2.untriggered (standing.next awaited) onward set
  intro turn member trigger
  rcases List.mem_append.mp member with earlier | member
  · exact (List.pairwise_append.mp forward).2.2 turn earlier arming List.mem_cons_self
  · rcases List.mem_cons.mp member with rfl | after
    · exact Nat.le_refl _
    · have untriggered := quiet turn after
      rw [config, trigger] at untriggered
      cases untriggered

end

/-- A timer is armed exactly if the quiet period was started and was left as it is since: no
compile was tried, and nothing was stopped or closed. It goes off one debounce period after
the last turn in which the period was started. So a compile that it starts comes after a debounce
period without a trigger, and after a trigger the schedule and the timer show nothing of the
earlier ones. -/
theorem trailing_debounce (config : PipelineConfig) (cache : Cache) (turns : List Turn)
    (admitted : (start config cache).Admits turns) (forward : Forward turns) :
    let first := start config cache
    let actor := first.after turns
    (∀ time, actor.deadline = some time ↔ ∃ before arming later,
      turns = before ++ arming :: later ∧ first.LastArmed before arming later ∧
        time = arming.now + config.debounce) ∧
    (∀ time firing, actor.deadline = some time → firing.wake = .deadline →
      actor.awaits firing.wake = true → Tried firing.files (actor.output firing) ∧
        ∀ turn ∈ turns, turn.wake.triggers config = true → turn.now + config.debounce ≤ time) ∧
    ∀ others last, SameButTriggers config turns others → last.wake.triggers config = true →
      first.Admits (turns ++ [last]) → first.Admits (others ++ [last]) →
      (first.after (turns ++ [last])).schedule = (first.after (others ++ [last])).schedule ∧
        (first.after (turns ++ [last])).deadline = (first.after (others ++ [last])).deadline := by
  intro first actor
  have steady : first.Steady := .start config cache
  have armed {time : Nat} (due : actor.deadline = some time) : ∃ before arming later,
      turns = before ++ arming :: later ∧ first.LastArmed before arming later ∧
        time = arming.now + config.debounce := by
    rcases steady.armed admitted due with last | ⟨_, early⟩
    · exact last
    · cases early
  refine ⟨fun time => ⟨armed, ?_⟩, ?_, ?_⟩
  · rintro ⟨before, arming, later, rfl, last, rfl⟩
    exact last.deadline steady admitted
  · rintro time ⟨now, files, wake⟩ due rfl awaited
    refine ⟨((steady.after admitted).coherent.turn awaited).fires, ?_⟩
    obtain ⟨before, arming, later, rfl, last, rfl⟩ := armed due
    intro turn member trigger
    have early := last.triggered_before steady admitted forward turn member trigger
    exact Nat.add_le_add_right early config.debounce
  · intro others last same trigger going goes
    obtain ⟨_, awaited, _⟩ := admits_append.mp going
    obtain ⟨allowed, awaits, _⟩ := admits_append.mp goes
    have standing := steady.after admitted
    have stands := steady.after allowed
    have configured := steady.config_after admitted
    have configures := steady.config_after allowed
    have stage := stage_of_sameButTriggers same steady steady rfl rfl admitted allowed
    have reached := (standing.coherent.turn awaited).triggered standing awaited
      (by rw [configured]; exact trigger)
    have reaches := (stands.coherent.turn awaits).triggered stands awaits
      (by rw [configures]; exact trigger)
    rw [stage, configured, ← configures, ← reaches] at reached
    simpa using reached

/-- Two changes while nothing runs, of which only the second one decides on the timer. -/
theorem trailing_debounce_changed :
    let files : List (Path × String) := [(⟨[97]⟩, "x")]
    let change (now : Nat) : Turn := ⟨now, files, .command (.bufferChanged ⟨[97]⟩)⟩
    let firing : Turn := ⟨170, files, .deadline⟩
    let turns : List Turn := [change 0, change 20]
    let first := start {} .empty
    first.Admits turns ∧ Forward turns ∧ first.LastArmed [change 0] (change 20) [] ∧
      (first.after turns).deadline = some 170 ∧
      Tried files ((first.after turns).output firing) ∧
      (first.after (turns ++ [change 40])).deadline =
        (first.after ([change 20] ++ [change 40])).deadline := by
  intro files change firing turns first
  have admitted : first.Admits turns := ⟨rfl, rfl, trivial⟩
  have forward : Forward turns := by simp [Forward, turns, change]
  have last : first.LastArmed [change 0] (change 20) [] := ⟨.inl ⟨rfl, rfl, rfl⟩, trivial⟩
  obtain ⟨armed, fires, alike⟩ := trailing_debounce {} .empty turns admitted forward
  have due : (first.after turns).deadline = some 170 :=
    (armed 170).mpr ⟨[change 0], change 20, [], rfl, last, rfl⟩
  have same : SameButTriggers {} turns [change 20] := .left rfl (.both .done)
  exact ⟨admitted, forward, last, due, (fires 170 firing due rfl rfl).1,
    (alike [change 20] (change 40) same rfl ⟨rfl, rfl, rfl, trivial⟩ ⟨rfl, rfl, trivial⟩).2⟩

end Actor

end LiveCompile.Pipeline
