import LiveCompile.Proofs.PipelineStop

/-! What triggers do to a pipeline. They decide when a compile is due, but not which compiles run,
who waits for them or whether the pipeline is stopped: these make up its stage, which every
wake changes in a way of its own and no trigger changes. So triggers that come on top of
others leave nothing behind once a later one was handled. -/

namespace LiveCompile.Pipeline

/-- A buffer changed or the editor shows a source file. -/
def Wake.triggers (config : PipelineConfig) : Wake → Bool
  | .command (.bufferChanged _) => true
  | .event (.activeFileChanged path) => path.isSource config.extensions
  | _ => false

theorem Wake.quiet_of_triggers {config : PipelineConfig} {wake : Wake}
    (trigger : wake.triggers config = true) : wake.ends = false ∧ wake.halts = false := by
  cases wake with
  | command command => cases command <;> simp_all [Wake.triggers, Wake.ends, Wake.halts]
  | event => exact ⟨rfl, rfl⟩
  | _ => cases trigger

/-- Two lists of turns that have the same ones in the same order, except for triggers that only
one of them has. -/
inductive SameButTriggers (config : PipelineConfig) : List Turn → List Turn → Prop where
  | done : SameButTriggers config [] []
  | both {turn first second} (onward : SameButTriggers config first second) :
      SameButTriggers config (turn :: first) (turn :: second)
  | left {turn first second} (extra : turn.wake.triggers config = true)
      (onward : SameButTriggers config first second) :
      SameButTriggers config (turn :: first) second
  | right {turn first second} (extra : turn.wake.triggers config = true)
      (onward : SameButTriggers config first second) :
      SameButTriggers config first (turn :: second)

namespace Actor

/-- What every run keeps: the records agree, and whoever is stopped has nothing due. -/
structure Steady (actor : Actor) : Prop where
  coherent : actor.Coherent
  halted : actor.stopped = true → actor.Halted

theorem Steady.start (config : PipelineConfig) (cache : Cache) : (start config cache).Steady :=
  ⟨.start config cache, nofun⟩

section
variable {now : Nat} {files : List (Path × String)} {wake : Wake}
variable {actor next : Actor} {effects : List Effect}

theorem triggers_of_notes {file : Option Path} (noted : actor.notes wake file) :
    wake.triggers actor.config = true := by
  cases wake with
  | command command => cases command <;> simp_all [notes, Wake.triggers]
  | event event => cases event <;> simp_all [notes, Wake.triggers]
  | _ => cases noted

private theorem not_demands_of_triggers {config : PipelineConfig}
    (trigger : wake.triggers config = true) (callers : List Nat) : ¬ demands wake callers := by
  intro demanded
  cases wake with
  | command command => cases command <;> simp_all [demands, Wake.triggers]
  | deadline => cases trigger
  | _ => cases demanded

theorem Move.config (move : Move now files actor wake next effects) :
    next.config = actor.config := by
  cases move with
  | attempt _ _ tried | serve _ _ tried => exact tried.keeps.2.1
  | _ => rfl

theorem Steady.going (steady : actor.Steady) (awaited : actor.awaits wake = true)
    {file : Option Path} (noted : actor.notes wake file) : actor.stopped = false := by
  cases stopped : actor.stopped with
  | false => rfl
  | true => exact absurd noted ((steady.halted stopped).unnoted stopped awaited file)

end

section
variable {actor : Actor} {turns : List Turn}

theorem Steady.next (steady : actor.Steady) {turn : Turn}
    (awaited : actor.awaits turn.wake = true) : (actor.next turn).Steady :=
  ⟨steady.coherent.next awaited,
    (steady.coherent.turn awaited).halted awaited steady.halted⟩

theorem Steady.after (steady : actor.Steady) (admitted : actor.Admits turns) :
    (actor.after turns).Steady :=
  ⟨steady.coherent.after admitted, steady.coherent.halted admitted steady.halted⟩

theorem Steady.config_after (steady : actor.Steady) (admitted : actor.Admits turns) :
    (actor.after turns).config = actor.config := by
  induction turns generalizing actor with
  | nil => rfl
  | cons turn rest ih =>
    exact (ih (steady.next admitted.1) admitted.2).trans (steady.coherent.turn admitted.1).config

end

/-- What decides on the course of an actor, whatever triggers it had. -/
structure Stage where
  flying : Bool
  waiting : Bool
  stopped : Bool
  /-- a compile is owed though the pipeline is stopped -/
  owed : Bool

def stage (actor : Actor) : Stage where
  flying := actor.flight.isSome
  waiting := !actor.queued.isEmpty
  stopped := actor.stopped
  owed := actor.stopped && actor.schedule.pending

namespace Stage

/-- The stage after a wake. It starts a compile only if there are buffers. -/
def next (files : List (Path × String)) (stage : Stage) : Wake → Stage
  | .command (.compileNow _) =>
    { stage with
      flying := stage.flying || !files.isEmpty
      waiting := stage.waiting || stage.flying
      owed := stage.stopped && stage.flying }
  | .deadline => { stage with flying := !files.isEmpty, owed := false }
  | .finished _ =>
    { stage with flying := stage.waiting && !files.isEmpty, waiting := false, owed := false }
  | .command .stop | .closed => { stage with stopped := true }
  | _ => stage

/-- The schedule and the end of the quiet period after a trigger. -/
def triggered (config : PipelineConfig) (now : Nat) (stage : Stage) : Schedule × Option Nat :=
  if stage.stopped then (⟨if stage.flying then .compiling else .idle, stage.owed⟩, none)
  else if stage.flying then (⟨.compiling, true⟩, none)
  else (⟨.debouncing, false⟩, some (now + config.debounce))

private theorem next_trigger {config : PipelineConfig} {wake : Wake} (stage : Stage)
    (trigger : wake.triggers config = true) (files : List (Path × String)) :
    stage.next files wake = stage := by
  cases wake with
  | command command => cases command <;> first | rfl | cases trigger
  | event => rfl
  | _ => cases trigger

end Stage

section
variable {now : Nat} {files : List (Path × String)} {wake : Wake}
variable {actor next : Actor} {effects : List Effect}

private theorem stage_ignored (ignored : actor.ignores wake = true) (files : List (Path × String)) :
    actor.stage.next files wake = actor.stage := by
  cases wake with
  | command command => cases command <;> first | rfl | cases ignored
  | event | lagged | busClosed => rfl
  | _ => cases ignored

private theorem stage_halted {inboxOpen : Bool} (halted : actor.halts wake inboxOpen)
    (files : List (Path × String)) :
    actor.stage.next files wake = { actor.stage with stopped := true } := by
  cases wake with
  | command command => cases command <;> first | rfl | cases halted
  | closed => rfl
  | _ => cases halted

/-- The stage after a turn follows from the stage before it. -/
theorem Move.stage (move : Move now files actor wake next effects) (steady : actor.Steady)
    (awaited : actor.awaits wake = true) : next.stage = actor.stage.next files wake := by
  have coherent := steady.coherent
  cases move with
  | pass ignored => exact (stage_ignored ignored files).symm
  | arm noted free =>
    rw [Stage.next_trigger _ (triggers_of_notes noted)]
    simp [Actor.stage, coherent.pending_of_free free]
  | defer noted busy =>
    rw [Stage.next_trigger _ (triggers_of_notes noted)]
    simp [Actor.stage, steady.going awaited noted]
  | queue busy => simp [Actor.stage, Stage.next, busy]
  | halt halted going =>
    rw [stage_halted halted]
    simp [Actor.stage, going]
  | rest halted stopped =>
    rw [stage_halted halted]
    simp [Actor.stage, stopped]
  | attempt demanded free tried =>
    have unqueued := coherent.queued_of_free free
    cases wake with
    | command command =>
      cases command with
      | compileNow caller =>
        cases tried with
        | skip empty => simp [Actor.stage, Stage.next, free, unqueued, empty]
        | start filled => simp [Actor.stage, Stage.next, free, unqueued, filled]
      | _ => cases demanded
    | deadline =>
      cases tried with
      | skip empty => simp [Actor.stage, Stage.next, free, unqueued, empty]
      | start filled => simp [Actor.stage, Stage.next, unqueued, filled]
    | _ => cases demanded
  | settle flying unqueued => simp [Actor.stage, Stage.next, landed, unqueued]
  | serve flying waiting tried =>
    cases tried with
    | skip empty => simp [Actor.stage, Stage.next, landed, empty]
    | start filled => simp [Actor.stage, Stage.next, landed, waiting, filled]

theorem Steady.schedule_of_stopped (steady : actor.Steady) (stopped : actor.stopped = true) :
    (actor.schedule, actor.deadline) = actor.stage.triggered actor.config now := by
  have unarmed := (steady.halted stopped).unarmed
  have flying := steady.coherent.flying
  have armed := steady.coherent.armed
  rcases schedule : actor.schedule with ⟨phase, pending⟩
  cases phase <;> simp_all [Stage.triggered, Actor.stage]

/-- The schedule and the timer after a trigger follow from the stage before it. -/
theorem Move.triggered (move : Move now files actor wake next effects) (steady : actor.Steady)
    (awaited : actor.awaits wake = true) (trigger : wake.triggers actor.config = true) :
    (next.schedule, next.deadline) = actor.stage.triggered actor.config now := by
  cases move with
  | pass ignored =>
    cases wake with
    | command command =>
      cases command with
      | bufferChanged => exact steady.schedule_of_stopped ignored
      | _ => cases trigger
    | event event =>
      cases event with
      | activeFileChanged path =>
        have source : path.isSource actor.config.extensions = true := trigger
        simp [ignores, source] at ignored
      | _ => cases trigger
    | _ => cases trigger
  | arm noted free =>
    simp [Stage.triggered, Actor.stage, steady.going awaited noted, free]
  | defer noted busy =>
    have unarmed := steady.coherent.deadline_of_busy busy
    simp [Stage.triggered, Actor.stage, steady.going awaited noted, busy, unarmed]
  | halt halted | rest halted =>
    exact absurd halted (not_halts (Wake.quiet_of_triggers trigger).2 _)
  | attempt demanded => exact absurd demanded (not_demands_of_triggers trigger _)
  | _ => cases trigger

end

section
variable {one other : Actor}

/-- Triggers that only one of two runs has leave no trace in the stage. -/
theorem stage_of_sameButTriggers {turns others : List Turn}
    (same : SameButTriggers one.config turns others) (steady : one.Steady) (still : other.Steady)
    (config : one.config = other.config) (stage : one.stage = other.stage)
    (admitted : one.Admits turns) (allowed : other.Admits others) :
    (one.after turns).stage = (other.after others).stage := by
  generalize kept : one.config = settings at same
  induction same generalizing one other with
  | done => exact stage
  | both onward ih =>
    have move := steady.coherent.turn admitted.1
    have step := still.coherent.turn allowed.1
    refine ih (steady.next admitted.1) (still.next allowed.1) ?_ ?_ admitted.2 allowed.2
      (move.config.trans kept)
    · rw [move.config, step.config, config]
    · rw [move.stage steady admitted.1, step.stage still allowed.1, stage]
  | left extra onward ih =>
    have move := steady.coherent.turn admitted.1
    refine ih (steady.next admitted.1) still ?_ ?_ admitted.2 allowed (move.config.trans kept)
    · rw [move.config, config]
    · rw [move.stage steady admitted.1, Stage.next_trigger _ extra, stage]
  | right extra onward ih =>
    have step := still.coherent.turn allowed.1
    refine ih steady (still.next allowed.1) ?_ ?_ admitted allowed.2 kept
    · rw [step.config, config]
    · rw [step.stage still allowed.1, Stage.next_trigger _ extra, stage]

end

end Actor

end LiveCompile.Pipeline
