import LiveCompile.Pipeline.Timeline
import LiveCompile.Proofs.ChannelReceivers
import LiveCompile.Proofs.PipelineCoherence

/-! A pipeline among its channels. The editor's events and the commands come on channels of their
own, and of the wakes that are ready the actor may take any. Whatever it takes, the events that
reach it are those that were published, in their order and each at its place. -/

namespace LiveCompile

namespace Pipeline

/-- What happens to a pipeline: an event is published, a command is sent, or the actor handles a
wake. -/
inductive Incident where
  | published (event : Event)
  | sent (command : Command)
  | handled (turn : Turn)

/-- The turns of the actor. -/
def turns (history : List Incident) : List Turn :=
  history.filterMap fun
    | .handled turn => some turn
    | _ => none

/-- The events that are published for the actor. -/
def arrived (history : List Incident) : List Event :=
  history.filterMap fun
    | .published event => if event.isEditor then some event else none
    | _ => none

theorem turns_append (front back : List Incident) :
    turns (front ++ back) = turns front ++ turns back := List.filterMap_append

theorem arrived_append (front back : List Incident) :
    arrived (front ++ back) = arrived front ++ arrived back := List.filterMap_append

/-- How many events a wake takes, or tells to be missed. -/
def Wake.passes : Wake → Nat
  | .event _ => 1
  | .lagged missed => missed
  | _ => 0

/-- How far the actor has come in the events. -/
def passed : List Turn → Nat
  | [] => 0
  | turn :: rest => turn.wake.passes + passed rest

theorem passed_append (front back : List Turn) :
    passed (front ++ back) = passed front + passed back := by
  induction front with
  | nil => simp [passed]
  | cons turn rest ih => simp [passed, ih, Nat.add_assoc]

/-- The events that the actor took are those that were published, each at its place. -/
def Delivered (log : List Event) (turns : List Turn) : Prop :=
  ∀ before taking after event, turns = before ++ taking :: after → taking.wake = .event event →
    log[passed before]? = some event

namespace Delivered

variable {log : List Event} {earlier : List Turn}

private theorem more (delivered : Delivered log earlier) (events : List Event) :
    Delivered (log ++ events) earlier := by
  intro before taking after event split takes
  have found := delivered before taking after event split takes
  have inside := (List.getElem?_eq_some_iff.mp found).1
  rwa [List.getElem?_append_left inside]

theorem front {before rest : List Turn} (delivered : Delivered log earlier)
    (split : earlier = before ++ rest) : Delivered log before := by
  rintro front taking after event rfl takes
  exact delivered front taking (after ++ rest) event (by simp [split]) takes

private theorem concat (delivered : Delivered log earlier) {turn : Turn}
    (last : ∀ event, turn.wake = .event event → log[passed earlier]? = some event) :
    Delivered log (earlier ++ [turn]) := by
  intro before taking after event split takes
  rcases List.append_eq_append_iff.mp split with ⟨inner, rfl, rest⟩ | ⟨inner, rfl, rest⟩
  · cases inner with
    | nil =>
      obtain ⟨rfl, _⟩ := List.cons.inj rest
      simpa using last event takes
    | cons first inner => simp at rest
  · cases inner with
    | nil =>
      obtain ⟨rfl, _⟩ := List.cons.inj rest
      simpa using last event takes
    | cons first inner =>
      obtain ⟨rfl, _⟩ := List.cons.inj rest
      exact delivered before taking inner event rfl takes

end Delivered

/-- The pipeline publishes no events of the editor. -/
def Unedited (effects : List Effect) : Prop :=
  ∀ event, Effect.publish event ∈ effects → event.isEditor = false

namespace Actor

section
variable {now : Nat} {files : List (Path × String)} {wake : Wake}
variable {actor next : Actor} {effects : List Effect}

theorem Attempt.unedited {callers : List Nat}
    (tried : Attempt now files callers actor next effects) : Unedited effects := by
  intro event member
  cases tried with
  | skip => simp at member
  | start =>
    simp only [List.mem_cons, reduceCtorEq, Effect.publish.injEq, List.not_mem_nil, or_false,
      false_or] at member
    rw [member]
    rfl

private theorem unedited_farewell (actor : Actor) (flight : Flight) (result : CompileResult) :
    Unedited (actor.farewell (actor.verdict now flight result)) := by
  intro event member
  simp only [farewell, List.mem_cons, Effect.publish.injEq, List.mem_map, reduceCtorEq, and_false,
    exists_false, or_false] at member
  rw [member]
  cases result <;> rfl

theorem Move.unedited (move : Move now files actor wake next effects) : Unedited effects := by
  cases move with
  | pass _ _ _ reports =>
    intro event member
    cases reports _ member
  | arm | defer | queue | halt | rest => exact fun event member => nomatch member
  | attempt _ _ tried => exact tried.unedited
  | settle => exact unedited_farewell actor _ _
  | serve _ _ tried =>
    intro event member
    rcases List.mem_append.mp member with ending | begins
    · exact unedited_farewell _ _ _ event ending
    · exact tried.unedited event begins

theorem Attempt.flies {callers : List Nat} (tried : Attempt now files callers actor next effects)
    (called : calls effects ≠ []) : next.flight.isSome := by
  cases tried with
  | skip => simp at called
  | start => rfl

theorem Move.calls_flies (move : Move now files actor wake next effects)
    (called : calls effects ≠ []) : next.flight.isSome := by
  cases move with
  | pass _ _ _ reports => exact absurd (reports_silent reports).2.2.1 called
  | arm | defer | queue | halt | rest => exact absurd rfl called
  | attempt _ _ tried => exact tried.flies called
  | settle => exact absurd (calls_farewell ..) called
  | serve _ _ tried => exact tried.flies (by simpa using called)

theorem Move.listened (move : Move now files actor wake next effects)
    (listening : next.listening = true) : actor.listening = true := by
  cases move with
  | pass _ _ hears => exact hears listening
  | arm | defer | queue | rest | settle => exact listening
  | halt => cases listening
  | attempt _ _ tried => exact tried.keeps.2.2.2.2.symm.trans listening
  | serve _ _ tried => exact tried.keeps.2.2.2.2.symm.trans listening

end

end Actor

namespace Timeline

/-- A wake that is ready, and what is left when the actor takes it. -/
inductive Ready (line : Timeline) : Wake → Timeline → Prop where
  | finished {arrival} (there : line.arrival = some arrival) (due : arrival.due ≤ line.now) :
      Ready line (.finished arrival.result) { line with arrival := none }
  | command {command inbox} (opened : line.actor.inboxOpen = true)
      (there : line.inbox = command :: inbox) : Ready line (.command command) { line with inbox }
  | closed (opened : line.actor.inboxOpen = true) (empty : line.inbox = [])
      (unheld : line.held = false) : Ready line .closed line
  | event {event bus} (listening : line.actor.listening = true)
      (there : line.bus.receive line.editor = (.event event, bus)) :
      Ready line (.event event) { line with bus }
  | lagged {missed bus} (listening : line.actor.listening = true)
      (there : line.bus.receive line.editor = (.lagged missed, bus)) :
      Ready line (.lagged missed) { line with bus }
  | busClosed {bus} (listening : line.actor.listening = true)
      (there : line.bus.receive line.editor = (.closed, bus)) :
      Ready line .busClosed { line with bus }
  | deadline {deadline} (armed : line.actor.deadline = some deadline)
      (due : deadline ≤ line.now) : Ready line .deadline line

/-- A step of a pipeline and of those around it. The actor handles any wake that is ready. -/
inductive Step (line : Timeline) : List Incident → Timeline → Prop where
  | publish (event : Event) : Step line [.published event] (line.publish event)
  | send (command : Command) : Step line [.sent command] (line.send command)
  | operate (operation : BufferMap.Operation) : Step line [] (line.operate operation)
  | unwatch : Step line [] line.unwatch
  | release : Step line [] line.release
  /-- others come, receive and go -/
  | attend {bus : EventBus} (apart : bus.editor = line.bus.editor) (observer : Option Receiver)
      (seen : List (Nat × Reception Event)) : Step line [] { line with bus, observer, seen }
  | wait {now : Nat} (later : line.now ≤ now) : Step line [] { line with now }
  | handle {wake : Wake} {taken : Timeline} (running : line.actor.running = true)
      (ready : line.Ready wake taken) :
      Step line [.handled ⟨taken.now, taken.files, wake⟩] (taken.handle wake)

/-- Any number of steps in any order. -/
inductive Run (first : Timeline) : List Incident → Timeline → Prop where
  | start : Run first [] first
  | step {history recent : List Incident} {line next : Timeline} (run : Run first history line)
      (step : Step line recent next) : Run first (history ++ recent) next

section
variable {line taken : Timeline} {wake : Wake}

private theorem ready_of_finished? (found : line.finished? = some (wake, taken)) :
    line.Ready wake taken := by
  unfold finished? at found
  split at found
  case h_1 => cases found
  case h_2 arrival there =>
    split at found
    case isTrue due =>
      cases found
      exact .finished there due
    case isFalse => cases found

private theorem ready_of_commandWake? (found : line.commandWake? = some (wake, taken)) :
    line.Ready wake taken := by
  unfold commandWake? at found
  split at found
  case isTrue => cases found
  case isFalse opened =>
    have opened : line.actor.inboxOpen = true := by simpa using opened
    split at found
    case h_1 there =>
      cases found
      exact .command opened there
    case h_2 empty =>
      split at found
      case isTrue => cases found
      case isFalse unheld =>
        cases found
        exact .closed opened empty (by simpa using unheld)

private theorem ready_of_busWake? (found : line.busWake? = some (wake, taken)) :
    line.Ready wake taken := by
  unfold busWake? at found
  split at found
  case isTrue => cases found
  case isFalse deaf =>
    have listening : line.actor.listening = true := by simpa using deaf
    split at found
    case h_1 there =>
      cases found
      exact .event listening there
    case h_2 there =>
      cases found
      exact .lagged listening there
    case h_3 there =>
      cases found
      exact .busClosed listening there
    case h_4 => cases found

private theorem ready_of_deadlineWake? (found : line.deadlineWake? = some (wake, taken)) :
    line.Ready wake taken := by
  unfold deadlineWake? at found
  split at found
  case h_1 => cases found
  case h_2 armed =>
    split at found
    case isTrue due =>
      cases found
      exact .deadline armed due
    case isFalse => cases found

theorem ready_of_ready? (found : line.ready? = some (wake, taken)) :
    line.actor.running = true ∧ line.Ready wake taken := by
  unfold ready? at found
  by_cases running : line.actor.running = true
  · refine ⟨running, ?_⟩
    simp only [if_pos running, Option.orElse_eq_orElse, Option.orElse_eq_or,
      Option.or_eq_some_iff] at found
    rcases found with found | ⟨_, found | ⟨_, found | ⟨_, found⟩⟩⟩
    · exact ready_of_finished? found
    · exact ready_of_commandWake? found
    · exact ready_of_busWake? found
    · exact ready_of_deadlineWake? found
  · simp [running] at found

end

theorem Run.of_run {first line : Timeline} {history : List Incident} (run : Run first history line)
    (steps : Nat) : ∃ more, Run first (history ++ more) (line.run steps) := by
  induction steps generalizing history line with
  | zero => exact ⟨[], by simpa [Timeline.run] using run⟩
  | succ steps ih =>
    unfold Timeline.run
    cases found : line.ready? with
    | none => exact ⟨[], by simpa using run⟩
    | some next =>
      obtain ⟨wake, taken⟩ := next
      obtain ⟨running, ready⟩ := ready_of_ready? found
      obtain ⟨more, onwards⟩ := ih (run.step (.handle running ready))
      exact ⟨_, by simpa using onwards⟩

/-- The answers that were given, without their times. -/
def told (line : Timeline) : List (Nat × Outcome) :=
  line.answers.map fun answer => (answer.caller, answer.outcome)

/-- What the effects of a turn do to a timeline, as far as the actor can see it. -/
structure Performed (effects : List Effect) (line after : Timeline) : Prop where
  actor : after.actor = line.actor
  receiver : after.editor = line.editor
  channel : after.bus.editor = line.bus.editor
  called : after.calls.map (·.request) = line.calls.map (·.request) ++ Pipeline.calls effects
  told : after.told = line.told ++ Pipeline.answers effects
  arrival : after.arrival.isSome → line.arrival.isSome ∨ Pipeline.calls effects ≠ []

theorem performed {effects : List Effect} (unedited : Unedited effects) (line : Timeline) :
    Performed effects line (effects.foldl perform line) := by
  induction effects generalizing line with
  | nil => exact ⟨rfl, rfl, rfl, by simp, by simp, .inl⟩
  | cons effect rest ih =>
    have onwards := ih (fun event member => unedited event (List.mem_cons_of_mem _ member))
      (line.perform effect)
    obtain ⟨actor, receiver, channel, called, told, arrival⟩ := onwards
    rw [List.foldl_cons]
    cases effect with
    | publish event =>
      have other := unedited event List.mem_cons_self
      refine ⟨actor, receiver, channel.trans ?_, called, told, arrival⟩
      simp [perform, EventBus.publish, EventBus.emit, other]
    | call compileId request =>
      refine ⟨actor, receiver, channel, ?_, told, fun _ => .inr (by simp)⟩
      rw [called]
      simp [perform]
    | answer caller outcome =>
      refine ⟨actor, receiver, channel, called, ?_, arrival⟩
      rw [told]
      simp [perform, Timeline.told]
    | read | report | reportSize | confirm =>
      exact ⟨actor, receiver, channel, called, told, arrival⟩

/-- What the actor finds when it takes a wake. -/
structure Taken (line : Timeline) (wake : Wake) (taken : Timeline) : Prop where
  actor : taken.actor = line.actor
  receiver : taken.editor = line.editor
  calls : taken.calls = line.calls
  answers : taken.answers = line.answers
  arrival : taken.arrival.isSome → line.arrival.isSome ∧ wake.ends = false

section
variable {line taken : Timeline} {wake : Wake} {receiver base place : Nat} {older log : List Event}

theorem Ready.finds (ready : line.Ready wake taken) : Taken line wake taken := by
  cases ready with
  | finished => exact ⟨rfl, rfl, rfl, rfl, nofun⟩
  | _ => exact ⟨rfl, rfl, rfl, rfl, fun arrived => ⟨arrived, rfl⟩⟩

theorem Ready.awaits (ready : line.Ready wake taken) (running : line.actor.running = true)
    (flying : line.arrival.isSome → line.actor.flight.isSome) :
    line.actor.awaits wake = true := by
  simp only [Actor.awaits, running, Bool.true_and]
  cases ready with
  | finished there => exact flying (by simp [there])
  | command opened | closed opened => exact opened
  | event listening | lagged listening | busClosed listening => exact listening
  | deadline armed => simp [armed]

private theorem receive_editor {bus next : EventBus} {reception : Reception Event}
    (received : bus.receive (.editor receiver) = (reception, next)) :
    bus.editor.receive receiver bus.alive = (reception, next.editor) := by
  cases received
  rfl

/-- The actor takes the event at its place, or goes on behind those it missed. -/
theorem Ready.follows (ready : line.Ready wake taken) (own : line.editor = .editor receiver)
    (bounded : older.length ≤ base)
    (follows : line.actor.listening = true →
      line.bus.editor.Follows receiver base older log place) :
    (∀ event, wake = .event event → log[place]? = some event) ∧
      (line.actor.listening = true →
        taken.bus.editor.Follows receiver base older log (place + wake.passes)) := by
  cases ready with
  | finished | command | closed | deadline =>
    refine ⟨fun event other => ?_, follows⟩
    cases other
  | event listening there =>
    rw [own] at there
    obtain ⟨found, onwards⟩ := (follows listening).receive_event bounded (receive_editor there)
    refine ⟨?_, fun _ => onwards⟩
    rintro _ ⟨⟩
    exact found
  | lagged listening there =>
    rw [own] at there
    have onwards := (follows listening).receive_lagged bounded (receive_editor there)
    refine ⟨fun event other => ?_, fun _ => ?_⟩
    · cases other
    · exact onwards
  | busClosed listening there =>
    rw [own] at there
    have same := (follows listening).receive_closed bounded (receive_editor there)
    refine ⟨fun event other => ?_, fun _ => ?_⟩
    · cases other
    · rw [same]
      exact follows listening

end

/-- Whatever the actor gives up, it has a timeline that listens left as it was. -/
structure Settled (line settled : Timeline) : Prop where
  actor : settled.actor = line.actor
  receiver : settled.editor = line.editor
  calls : settled.calls = line.calls
  answers : settled.answers = line.answers
  arrival : settled.arrival = line.arrival
  bus : line.actor.listening = true → settled.bus = line.bus

theorem settled (line : Timeline) : Settled line line.settleReceiver := by
  unfold settleReceiver
  split
  case isTrue => exact ⟨rfl, rfl, rfl, rfl, rfl, fun _ => rfl⟩
  case isFalse deaf => exact ⟨rfl, rfl, rfl, rfl, rfl, fun listening => absurd listening deaf⟩

/-- What a run keeps: the actor has come where its turns lead, and its receiver follows what is
published. -/
structure Tracked (first : Actor) (receiver base : Nat) (older : List Event)
    (history : List Incident) (line : Timeline) : Prop where
  own : line.editor = .editor receiver
  admitted : first.Admits (turns history)
  actor : line.actor = first.after (turns history)
  flying : line.arrival.isSome → line.actor.flight.isSome
  called : line.calls.map (·.request) = Pipeline.calls (first.effects (turns history))
  told : line.told = Pipeline.answers (first.effects (turns history))
  delivered : Delivered (arrived history) (turns history)
  follows : line.actor.listening = true →
    line.bus.editor.Follows receiver base older (arrived history) (passed (turns history))

namespace Tracked

variable {first : Actor} {receiver base : Nat} {older : List Event}
variable {history recent : List Incident} {line next : Timeline}

private theorem aside (tracked : Tracked first receiver base older history line)
    (unturned : turns recent = []) (unarrived : arrived recent = [])
    (editor : next.editor = line.editor) (actor : next.actor = line.actor)
    (arrival : next.arrival = line.arrival) (calls : next.calls = line.calls)
    (answers : next.answers = line.answers) (channel : next.bus.editor = line.bus.editor) :
    Tracked first receiver base older (history ++ recent) next := by
  have turned : turns (history ++ recent) = turns history := by simp [turns_append, unturned]
  have logged : arrived (history ++ recent) = arrived history := by
    simp [arrived_append, unarrived]
  constructor
  · rw [editor, tracked.own]
  · rw [turned]
    exact tracked.admitted
  · rw [turned, actor, tracked.actor]
  · rw [arrival, actor]
    exact tracked.flying
  · rw [turned, calls, tracked.called]
  · rw [turned, ← tracked.told]
    exact congrArg (List.map _) answers
  · rw [turned, logged]
    exact tracked.delivered
  · rw [turned, logged, actor, channel]
    exact tracked.follows

private theorem publish (tracked : Tracked first receiver base older history line) (event : Event) :
    Tracked first receiver base older (history ++ [.published event]) (line.publish event) := by
  cases edits : event.isEditor with
  | false =>
    refine tracked.aside rfl (by simp [arrived, edits]) rfl rfl rfl rfl rfl ?_
    simp [Timeline.publish, EventBus.publish, EventBus.emit, edits]
  | true =>
    have turned : turns (history ++ [.published event]) = turns history := by simp [turns]
    have logged : arrived (history ++ [.published event]) = arrived history ++ [event] := by
      simp [arrived, edits]
    have channel : (line.publish event).bus.editor = (line.bus.editor.send event).2 := by
      simp [Timeline.publish, EventBus.publish, EventBus.emit, edits]
    constructor
    · exact tracked.own
    · rw [turned]
      exact tracked.admitted
    · rw [turned]
      exact tracked.actor
    · exact tracked.flying
    · rw [turned]
      exact tracked.called
    · rw [turned]
      exact tracked.told
    · rw [turned, logged]
      exact tracked.delivered.more [event]
    · intro listening
      rw [turned, logged, channel]
      exact (tracked.follows listening).send event

private theorem handle (tracked : Tracked first receiver base older history line)
    (bounded : older.length ≤ base) (coherent : first.Coherent) {wake : Wake} {taken : Timeline}
    (running : line.actor.running = true) (ready : line.Ready wake taken) :
    Tracked first receiver base older (history ++ [.handled ⟨taken.now, taken.files, wake⟩])
      (taken.handle wake) := by
  have found := ready.finds
  have awaited : line.actor.awaits (Turn.mk taken.now taken.files wake).wake = true :=
    ready.awaits running tracked.flying
  have reached : line.actor.Coherent := by
    rw [tracked.actor]
    exact coherent.after tracked.admitted
  have move := reached.turn awaited
  have handled : taken.handle wake =
      ((line.actor.output ⟨taken.now, taken.files, wake⟩).foldl perform
        { taken with actor := line.actor.next ⟨taken.now, taken.files, wake⟩ }).settleReceiver := by
    rw [← found.actor]
    rfl
  have done := performed move.unedited
    { taken with actor := line.actor.next ⟨taken.now, taken.files, wake⟩ }
  have rest := settled ((line.actor.output ⟨taken.now, taken.files, wake⟩).foldl perform
    { taken with actor := line.actor.next ⟨taken.now, taken.files, wake⟩ })
  rw [← handled] at rest
  have turned : turns (history ++ [.handled ⟨taken.now, taken.files, wake⟩]) =
      turns history ++ [⟨taken.now, taken.files, wake⟩] := by simp [turns]
  have logged : arrived (history ++ [.handled ⟨taken.now, taken.files, wake⟩]) =
      arrived history := by simp [arrived]
  have actor : (taken.handle wake).actor = line.actor.next ⟨taken.now, taken.files, wake⟩ := by
    rw [rest.actor, done.actor]
  have output : first.effects (turns history ++ [⟨taken.now, taken.files, wake⟩]) =
      first.effects (turns history) ++ line.actor.output ⟨taken.now, taken.files, wake⟩ := by
    rw [Actor.effects_append, ← tracked.actor]
    simp [Actor.effects]
  obtain ⟨delivers, onwards⟩ := ready.follows tracked.own bounded tracked.follows
  constructor
  · rw [rest.receiver, done.receiver]
    exact found.receiver.trans tracked.own
  · rw [turned, Actor.admits_append, ← tracked.actor]
    exact ⟨tracked.admitted, awaited, trivial⟩
  · rw [turned, actor, Actor.after_append, ← tracked.actor]
    rfl
  · rw [rest.arrival, actor]
    intro arrives
    rcases done.arrival arrives with still | called
    · obtain ⟨there, unended⟩ := found.arrival still
      obtain ⟨flight, flying⟩ := Option.isSome_iff_exists.mp (tracked.flying there)
      rw [(move.flies unended flying).1]
      rfl
    · exact move.calls_flies called
  · rw [turned, output, Pipeline.calls_append, ← tracked.called, ← found.calls, rest.calls]
    exact done.called
  · rw [turned, output, Pipeline.answers_append, ← tracked.told]
    have same : (taken.handle wake).told = _ := congrArg (List.map _) rest.answers
    have before : taken.told = line.told := congrArg (List.map _) found.answers
    rw [same, ← before]
    exact done.told
  · rw [turned, logged]
    exact tracked.delivered.concat delivers
  · intro listening
    rw [actor] at listening
    have listened : line.actor.listening = true := move.listened listening
    rw [turned, logged, passed_append, rest.bus (by rw [done.actor]; exact listening), done.channel]
    simpa [passed] using onwards listened

private theorem step (tracked : Tracked first receiver base older history line)
    (bounded : older.length ≤ base) (coherent : first.Coherent) (step : Step line recent next) :
    Tracked first receiver base older (history ++ recent) next := by
  cases step with
  | publish event => exact tracked.publish event
  | send | operate | unwatch | release | wait =>
    exact tracked.aside rfl rfl rfl rfl rfl rfl rfl rfl
  | attend apart => exact tracked.aside rfl rfl rfl rfl rfl rfl rfl apart
  | handle running ready => exact tracked.handle bounded coherent running ready

end Tracked

theorem Run.tracked {space : Workspace Watcher} {compiler : Compiler} {bus : EventBus}
    {config : PipelineConfig} {history : List Incident} {line : Timeline}
    (made : bus.editor.Made) (run : Run (Timeline.start space compiler bus config) history line) :
    Tracked (.start config .empty) bus.editor.nextReceiver bus.editor.sent bus.editor.held
      history line := by
  induction run with
  | start =>
    refine ⟨rfl, trivial, rfl, fun arrived => ?_, rfl, rfl, ?_, fun _ => made.sound.subscribe⟩
    · cases arrived
    · intro before taking after event split
      simp [turns] at split
  | step _ step ih => exact ih.step made.sound.held_le (.start config .empty) step

end Timeline

end Pipeline

end LiveCompile
