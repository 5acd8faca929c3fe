import LiveCompile.Pipeline.Actor

/-! Runs of the actor of a pipeline. A turn is a wake together with the time and the buffers
at which it is handled. Neither is constrained, and a compile may end with any result, so
the runs cover every clock, every course of the buffers and every compiler. -/

namespace LiveCompile.Pipeline

structure Turn where
  now : Nat
  files : List (Path × String)
  wake : Wake

def Wake.ends : Wake → Bool
  | .finished _ => true
  | _ => false

def Wake.caller? : Wake → Option Nat
  | .command (.compileNow caller) => some caller
  | _ => none

/-- Whether the pipeline is asked to stop. -/
def Wake.halts : Wake → Bool
  | .command .stop | .closed => true
  | _ => false

def Wake.clears : Wake → Bool
  | .command (.clearCache _) => true
  | _ => false

def endings (turns : List Turn) : List Turn := turns.filter (·.wake.ends)

def requests (turns : List Turn) : List Nat := turns.filterMap (·.wake.caller?)

theorem requests_cons (turn : Turn) (rest : List Turn) :
    requests (turn :: rest) = turn.wake.caller?.toList ++ requests rest := by
  cases asked : turn.wake.caller? <;> simp [requests, asked]

theorem requests_append (front back : List Turn) :
    requests (front ++ back) = requests front ++ requests back := List.filterMap_append

theorem endings_append (front back : List Turn) :
    endings (front ++ back) = endings front ++ endings back := List.filter_append ..

namespace Effect

@[simp] def read? : Effect → Option (List (Path × String))
  | .read files => some files
  | _ => none

@[simp] def event? : Effect → Option Event
  | .publish event => some event
  | _ => none

@[simp] def call? : Effect → Option CompileRequest
  | .call _ request => some request
  | _ => none

@[simp] def answer? : Effect → Option (Nat × Outcome)
  | .answer caller outcome => some (caller, outcome)
  | _ => none

/-- Whether the effect only tells a caller about the pipeline. -/
def isReport : Effect → Bool
  | .report .. | .reportSize .. | .confirm _ => true
  | _ => false

end Effect

/-- What the actor reads, publishes, calls and answers in some effects, in order. -/
def reads (effects : List Effect) : List (List (Path × String)) := effects.filterMap Effect.read?
def events (effects : List Effect) : List Event := effects.filterMap Effect.event?
def calls (effects : List Effect) : List CompileRequest := effects.filterMap Effect.call?
def answers (effects : List Effect) : List (Nat × Outcome) := effects.filterMap Effect.answer?

@[simp] theorem reads_nil : reads [] = [] := rfl

@[simp] theorem reads_cons (effect : Effect) (rest : List Effect) :
    reads (effect :: rest) = effect.read?.toList ++ reads rest := by
  cases effect <;> rfl

@[simp] theorem events_nil : events [] = [] := rfl

@[simp] theorem events_cons (effect : Effect) (rest : List Effect) :
    events (effect :: rest) = effect.event?.toList ++ events rest := by
  cases effect <;> rfl

@[simp] theorem calls_nil : calls [] = [] := rfl

@[simp] theorem calls_cons (effect : Effect) (rest : List Effect) :
    calls (effect :: rest) = effect.call?.toList ++ calls rest := by
  cases effect <;> rfl

@[simp] theorem answers_nil : answers [] = [] := rfl

@[simp] theorem answers_cons (effect : Effect) (rest : List Effect) :
    answers (effect :: rest) = effect.answer?.toList ++ answers rest := by
  cases effect <;> rfl

@[simp] theorem reads_append (before after : List Effect) :
    reads (before ++ after) = reads before ++ reads after := List.filterMap_append

@[simp] theorem events_append (before after : List Effect) :
    events (before ++ after) = events before ++ events after := List.filterMap_append

@[simp] theorem calls_append (before after : List Effect) :
    calls (before ++ after) = calls before ++ calls after := List.filterMap_append

@[simp] theorem answers_append (before after : List Effect) :
    answers (before ++ after) = answers before ++ answers after := List.filterMap_append

section
variable {effects : List Effect} {callers : List Nat} {outcome : Outcome}

theorem reports_silent (reports : ∀ effect ∈ effects, effect.isReport = true) :
    reads effects = [] ∧ events effects = [] ∧ calls effects = [] ∧ answers effects = [] := by
  simp only [reads, events, calls, answers, List.filterMap_eq_nil_iff]
  refine ⟨?_, ?_, ?_, ?_⟩ <;> intro effect member <;> have report := reports effect member <;>
    cases effect <;> first | rfl | cases report

@[simp] theorem reads_told : reads (callers.map (.answer · outcome)) = [] := by
  simp [reads, Effect.read?, List.filterMap_map, Function.comp_def]

@[simp] theorem events_told : events (callers.map (.answer · outcome)) = [] := by
  simp [events, Effect.event?, List.filterMap_map, Function.comp_def]

@[simp] theorem calls_told : calls (callers.map (.answer · outcome)) = [] := by
  simp [calls, Effect.call?, List.filterMap_map, Function.comp_def]

@[simp] theorem answers_told :
    answers (callers.map (.answer · outcome)) = callers.map (·, outcome) := by
  simp [answers, Effect.answer?, List.filterMap_map, Function.comp_def]

end

namespace Actor

/-- The wakes that can come next. -/
def awaits (actor : Actor) (wake : Wake) : Bool :=
  actor.running && match wake with
    | .command _ | .closed => actor.inboxOpen
    | .deadline => actor.deadline.isSome
    | .finished _ => actor.flight.isSome
    | .event _ | .lagged _ | .busClosed => actor.listening

def next (actor : Actor) (turn : Turn) : Actor := (actor.step turn.now turn.files turn.wake).1

def output (actor : Actor) (turn : Turn) : List Effect :=
  (actor.step turn.now turn.files turn.wake).2

def after (actor : Actor) (turns : List Turn) : Actor := turns.foldl next actor

def effects (actor : Actor) : List Turn → List Effect
  | [] => []
  | turn :: rest => actor.output turn ++ (actor.next turn).effects rest

/-- Every turn comes when the actor waits for its wake. -/
def Admits (actor : Actor) : List Turn → Prop
  | [] => True
  | turn :: rest => actor.awaits turn.wake = true ∧ (actor.next turn).Admits rest

variable {actor : Actor}

@[simp] theorem after_nil : actor.after [] = actor := rfl

@[simp] theorem after_cons {turn : Turn} {rest : List Turn} :
    actor.after (turn :: rest) = (actor.next turn).after rest := rfl

@[simp] theorem after_append {front back : List Turn} :
    actor.after (front ++ back) = (actor.after front).after back := List.foldl_append

theorem effects_append {front back : List Turn} :
    actor.effects (front ++ back) = actor.effects front ++ (actor.after front).effects back := by
  induction front generalizing actor with
  | nil => rfl
  | cons turn rest ih => simp [effects, ih]

theorem admits_append {front back : List Turn} :
    actor.Admits (front ++ back) ↔ actor.Admits front ∧ (actor.after front).Admits back := by
  induction front generalizing actor with
  | nil => simp [Admits]
  | cons turn rest ih => simp [Admits, ih, and_assoc]

/-- What holds at the start and is kept by every turn holds after a run, of the actor and of
its effects so far. -/
theorem Admits.invariant (property : Actor → List Effect → Prop) {turns : List Turn}
    (admitted : actor.Admits turns) (initial : property actor [])
    (kept : ∀ actor effects turn, actor.awaits turn.wake = true → property actor effects →
      property (actor.next turn) (effects ++ actor.output turn)) :
    property (actor.after turns) (actor.effects turns) := by
  suffices general : ∀ before, property actor before →
      property (actor.after turns) (before ++ actor.effects turns) from general [] initial
  clear initial
  induction turns generalizing actor with
  | nil =>
    intro before held
    simpa [effects] using held
  | cons turn rest ih =>
    intro before held
    have stepped := kept actor before turn admitted.1 held
    simpa [effects] using ih admitted.2 (before ++ actor.output turn) stepped

end Actor

end LiveCompile.Pipeline
