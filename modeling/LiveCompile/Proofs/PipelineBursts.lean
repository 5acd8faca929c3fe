import LiveCompile.Proofs.BusDelivery
import LiveCompile.Proofs.PipelineHints

/-! Bursts of active-file events. When the actor comes to them, as many as the bus has room for are
left, whatever files they are about; of these the last source file counts. -/

namespace LiveCompile.Pipeline

/-- The event that the actor takes. -/
def Wake.event? : Wake → Option Event
  | .event told => some told
  | _ => none

/-- Whether the actor hears of events, or of events that it missed. -/
def Wake.hears : Wake → Bool
  | .event _ | .lagged _ => true
  | _ => false

/-- The events that the actor takes in some turns. -/
def taken (turns : List Turn) : List Event := turns.filterMap (·.wake.event?)

theorem taken_append (front back : List Turn) :
    taken (front ++ back) = taken front ++ taken back := List.filterMap_append

private theorem taken_handled (turn : Turn) :
    taken (turns [.handled turn]) = turn.wake.event?.toList := by
  cases took : turn.wake.event? <;> simp [turns, taken, took]

/-- The source files among those that the actor is told of are the ones it is shown. -/
theorem shown_of_taken {turns : List Turn} {files : List Path} (config : PipelineConfig)
    (took : taken turns = files.map .activeFileChanged) :
    shown config turns = files.filter (·.isSource config.extensions) := by
  have each : ∀ wake : Wake, wake.shown? config =
      wake.event?.bind fun event => (Wake.event event).shown? config := by
    intro wake
    cases wake <;> rfl
  have all : shown config turns =
      (taken turns).filterMap fun event => (Wake.event event).shown? config := by
    rw [shown, taken, List.filterMap_filterMap]
    exact List.filterMap_congr fun turn _ => each turn.wake
  rw [all, took, List.filterMap_map, ← List.filterMap_eq_filter]
  refine List.filterMap_congr fun path _ => ?_
  simp [Wake.shown?, Option.guard]

private theorem triggers_iff_shown (config : PipelineConfig) (turns : List Turn) :
    (∃ turn ∈ turns, turn.wake.hears = true ∧ turn.wake.triggers config = true) ↔
      shown config turns ≠ [] := by
  have each (wake : Wake) :
      wake.shown? config ≠ none ↔ wake.hears = true ∧ wake.triggers config = true := by
    cases wake with
    | event event => cases event <;> simp [Wake.shown?, Wake.hears, Wake.triggers]
    | _ => simp [Wake.shown?, Wake.hears, Wake.triggers]
  simp [shown, List.filterMap_eq_nil_iff, ← each]

/-! What a turn draws from what is pending -/

/-- What a wake leaves of the events that are pending. -/
inductive Draws (room : Nat) (rest : List Event) : Wake → List Event → Prop
  | event {event later} (first : rest = event :: later) (near : rest.length ≤ room) :
    Draws room rest (.event event) later
  | lagged (far : room < rest.length) :
    Draws room rest (.lagged (rest.length - room)) (rest.drop (rest.length - room))
  | other {wake : Wake} (unheard : wake.hears = false) : Draws room rest wake rest

/-- What the actor has taken of pending events, and what is left: nothing was touched yet, or the
last ones remained, as many as there is room for, and the first of these are taken. -/
inductive Drawn (room : Nat) (pending : List Event) : List Event → List Event → Prop
  | untouched : Drawn room pending [] pending
  | on {before rest} (split : before ++ rest = pending.drop (pending.length - room)) :
    Drawn room pending before rest

section
variable {room : Nat} {pending before rest left : List Event} {wake : Wake}

theorem Draws.shorter (draws : Draws room rest wake left) (hears : wake.hears = true) :
    left.length < rest.length := by
  cases draws with
  | event first =>
    rw [first]
    exact Nat.lt_succ_self _
  | lagged far =>
    rw [List.length_drop]
    omega
  | other unheard => simp [hears] at unheard

theorem Drawn.draw (drawn : Drawn room pending before rest) (draws : Draws room rest wake left) :
    Drawn room pending (before ++ wake.event?.toList) left := by
  cases draws with
  | @event event later first near =>
    subst first
    refine .on ?_
    cases drawn with
    | untouched =>
      rw [Nat.sub_eq_zero_of_le near]
      rfl
    | on split => simpa [Wake.event?] using split
  | lagged far =>
    cases drawn with
    | untouched => exact .on rfl
    | on split =>
      have length := congrArg List.length split
      rw [List.length_append, List.length_drop] at length
      omega
  | other unheard =>
    have silent : wake.event? = none := by
      cases wake with
      | event => cases unheard
      | _ => rfl
    simpa [silent] using drawn

theorem Drawn.of_nil (drawn : Drawn room [] before rest) : before = [] := by
  cases drawn with
  | untouched => rfl
  | on split =>
    rw [List.drop_nil, List.append_eq_nil_iff] at split
    exact split.1

theorem Drawn.all (drawn : Drawn room pending before []) :
    before = pending.drop (pending.length - room) := by
  cases drawn with
  | untouched => exact List.drop_nil.symm
  | on split => simpa using split

end

namespace Actor

section
variable {now : Nat} {files : List (Path × String)} {wake : Wake}
variable {actor next : Actor} {effects : List Effect} {turn : Turn} {turns : List Turn}

private theorem listening_ignored (ignored : actor.ignores wake = true)
    (unclosed : wake ≠ .busClosed) : (actor.step now files wake).1.listening = actor.listening := by
  cases wake with
  | command command =>
    cases command with
    | bufferChanged path =>
      have stopped : actor.stopped = true := ignored
      simp [step, prepare, handle, stopped]
    | status | cacheSize | clearCache => rfl
    | _ => cases ignored
  | event event =>
    cases event with
    | activeFileChanged path =>
      have other : path.isSource actor.config.extensions = false := by simpa [ignores] using ignored
      simp [step, prepare, showFile, other]
    | _ => rfl
  | lagged => rfl
  | busClosed => exact absurd rfl unclosed
  | _ => cases ignored

theorem Move.keeps_listening (move : Move now files actor wake next effects)
    (going : next.stopped = false) :
    actor.ignores wake = true ∨ next.listening = actor.listening := by
  cases move with
  | pass ignored => exact .inl ignored
  | halt => cases going
  | attempt _ _ tried | serve _ _ tried => exact .inr tried.keeps.2.2.2.2
  | _ => exact .inr rfl

theorem Coherent.listening_next (coherent : actor.Coherent)
    (awaited : actor.awaits turn.wake = true) (unclosed : turn.wake ≠ .busClosed)
    (going : (actor.next turn).stopped = false) :
    (actor.next turn).listening = actor.listening := by
  rcases (coherent.turn awaited).keeps_listening going with ignored | same
  · exact listening_ignored ignored unclosed
  · exact same

theorem Coherent.listening_after (coherent : actor.Coherent) (admitted : actor.Admits turns)
    (unclosed : ∀ turn ∈ turns, turn.wake ≠ .busClosed)
    (going : (actor.after turns).stopped = false) :
    (actor.after turns).listening = actor.listening := by
  induction turns generalizing actor with
  | nil => rfl
  | cons turn rest ih =>
    obtain ⟨here, later⟩ := List.forall_mem_cons.mp unclosed
    have next := coherent.next admitted.1
    have going' : (actor.next turn).stopped = false := by
      cases stopped : (actor.next turn).stopped with
      | false => rfl
      | true =>
        have stays := next.stays_stopped admitted.2 stopped
        rw [after_cons, stays] at going
        cases going
    exact (ih next admitted.2 later going).trans
      (coherent.listening_next admitted.1 here going')

theorem Steady.entry_unshown (steady : actor.Steady) (admitted : actor.Admits turns)
    (unshown : shown actor.config turns = []) {request : CompileRequest}
    (called : request ∈ calls (actor.effects turns)) : request.entry = actor.entryHint := by
  obtain ⟨place, found⟩ := List.mem_iff_getElem?.mp called
  obtain ⟨before, starting, back, rfl, _, _, entry⟩ :=
    steady.coherent.call_starts admitted found
  have reached := (admits_append.mp admitted).1
  rw [shown_append] at unshown
  rw [entry, entryHint, entryHint, steady.hint_eq reached, steady.config_after reached,
    (List.append_eq_nil_iff.mp unshown).1]
  rfl

/-- Where the actor hears of a trigger a compile is owed, and nothing else that it hears of changes
it. -/
theorem Live.hears {config : PipelineConfig} (live : actor.Live config)
    (awaited : actor.awaits turn.wake = true) (hears : turn.wake.hears = true) :
    if turn.wake.triggers config = true then (actor.next turn).Owes
    else actor.next turn = actor := by
  obtain ⟨now, files, wake⟩ := turn
  cases wake with
  | event event =>
    cases event with
    | activeFileChanged path =>
      rw [Wake.triggers]
      by_cases source : path.isSource config.extensions = true
      · rw [if_pos source]
        exact live.owes_shown awaited rfl source
      · rw [if_neg source]
        simp [Actor.next, step, prepare, showFile, live.configured, source]
    | _ => exact rfl
  | lagged => exact rfl
  | _ => cases hears

end

end Actor

namespace Timeline

/-- The editor shows some files, one right after the other. -/
def burst (paths : List Path) (line : Timeline) : Timeline :=
  paths.foldl (fun line path => line.publish (.activeFileChanged path)) line

/-- Nothing is there for the actor. -/
def Drained (line : Timeline) : Prop :=
  (line.bus.receive line.editor).1 = .empty ∨ (line.bus.receive line.editor).1 = .closed

/-- The pipeline is not stopped, and in its turns it was not told that nobody publishes any more. -/
structure Open (history : List Incident) (line : Timeline) : Prop where
  going : line.actor.stopped = false
  unclosed : ∀ turn ∈ turns history, turn.wake ≠ .busClosed

theorem Run.append {first middle line : Timeline} {front back : List Incident}
    (run : Run first front middle) (onward : Run middle back line) :
    Run first (front ++ back) line := by
  induction onward with
  | start => simpa using run
  | step _ step ih =>
    rw [← List.append_assoc]
    exact ih.step step

section
variable {line taken next : Timeline} {wake : Wake} {room receiver : Nat}
variable {rest pending : List Event}

private theorem pends_channel {bus other : EventBus} (own : line.editor = .editor receiver)
    (channel : other.editor = bus.editor) (pends : bus.Pends line.editor room rest) :
    other.Pends line.editor room rest := by
  rw [own] at pends ⊢
  show other.editor.Pends receiver room rest
  rw [channel]
  exact pends

theorem Ready.draws (ready : line.Ready wake taken)
    (pends : line.bus.Pends line.editor room rest) :
    ∃ left, Draws room rest wake left ∧ taken.bus.Pends line.editor room left := by
  have received := pends.receive
  cases ready with
  | finished | command | closed | deadline => exact ⟨rest, .other rfl, pends⟩
  | event _ there =>
    rw [there] at received
    obtain ⟨near, first⟩ := Channel.due_event.mp received.1.symm
    obtain ⟨later, rfl⟩ := List.head?_eq_some_iff.mp first
    have left := received.2
    rw [Channel.left, if_neg (Nat.not_lt_of_le near)] at left
    exact ⟨later, .event rfl near, left⟩
  | @lagged missed bus _ there =>
    rw [there] at received
    obtain ⟨far, length⟩ := Channel.due_lagged.mp received.1.symm
    obtain rfl : missed = rest.length - room := by omega
    have left := received.2
    rw [Channel.left, if_pos far] at left
    exact ⟨_, .lagged far, left⟩
  | busClosed _ there =>
    rw [there] at received
    obtain ⟨rfl, -⟩ := Channel.due_closed.mp received.1.symm
    exact ⟨[], .other rfl, by simpa [Channel.left] using received.2⟩

theorem Ready.listening (ready : line.Ready wake taken) (hears : wake.hears = true) :
    line.actor.listening = true := by
  cases ready with
  | event listening | lagged listening => exact listening
  | _ => cases hears

private theorem ready_of_pends (listening : line.actor.listening = true)
    (pends : line.bus.Pends line.editor room rest) (filled : rest ≠ []) :
    ∃ wake taken, line.Ready wake taken ∧ wake.hears = true := by
  have due := pends.receive.1
  rcases there : line.bus.receive line.editor with ⟨reception, bus⟩
  rw [there] at due
  cases reception with
  | event => exact ⟨_, _, .event listening there, rfl⟩
  | lagged => exact ⟨_, _, .lagged listening there, rfl⟩
  | empty => exact absurd (Channel.due_empty.mp due.symm).1 filled
  | closed => exact absurd (Channel.due_closed.mp due.symm).1 filled

theorem Drained.nothing_pends (drained : line.Drained)
    (pends : line.bus.Pends line.editor room rest) : rest = [] := by
  rw [Drained, pends.receive.1] at drained
  rcases drained with empty | closed
  · exact (Channel.due_empty.mp empty).1
  · exact (Channel.due_closed.mp closed).1

private theorem drained_of_pends (pends : line.bus.Pends line.editor room []) : line.Drained := by
  rw [Drained, pends.receive.1, Channel.due_empty, Channel.due_closed]
  cases line.bus.alive <;> simp

/-! A burst -/

theorem burst_cons (path : Path) (paths : List Path) (line : Timeline) :
    line.burst (path :: paths) = (line.publish (.activeFileChanged path)).burst paths := rfl

private theorem burst_run (paths : List Path) (line : Timeline) :
    Run line (paths.map fun path => .published (.activeFileChanged path)) (line.burst paths) := by
  induction paths generalizing line with
  | nil => exact .start
  | cons path rest ih =>
    have first : Run line [.published (.activeFileChanged path)] _ := .step .start (.publish _)
    exact first.append (ih _)

private theorem burst_actor (paths : List Path) (line : Timeline) :
    (line.burst paths).actor = line.actor ∧ (line.burst paths).editor = line.editor := by
  induction paths generalizing line with
  | nil => exact ⟨rfl, rfl⟩
  | cons path rest ih => exact ih (line.publish (.activeFileChanged path))

private theorem burst_pends (own : line.editor = .editor receiver)
    (pends : line.bus.Pends line.editor room pending) (paths : List Path) :
    (line.burst paths).bus.Pends line.editor room (pending ++ paths.map .activeFileChanged) := by
  induction paths generalizing line pending with
  | nil => simpa [burst] using pends
  | cons path rest ih =>
    have carries : line.editor.carries (.activeFileChanged path) = true := by
      rw [own]
      rfl
    have sent : (line.bus.emit (.activeFileChanged path)).2.Pends line.editor room
        (pending ++ [.activeFileChanged path]) := by
      simpa [Option.filter, carries] using pends.emit (.activeFileChanged path)
    rw [burst_cons, List.map_cons, ← List.singleton_append, ← List.append_assoc]
    have onward : (line.publish (.activeFileChanged path)).editor = .editor receiver := own
    exact ih onward sent

end

section
variable {first : Actor} {receiver base room : Nat} {older rest pending : List Event}
variable {history recent : List Incident} {line next taken : Timeline} {wake : Wake}

theorem Tracked.channel (tracked : Tracked first receiver base older history line)
    (coherent : first.Coherent) (running : line.actor.running = true)
    (ready : line.Ready wake taken) (listening : (taken.handle wake).actor.listening = true) :
    line.actor.listening = true ∧ (taken.handle wake).editor = line.editor ∧
      (taken.handle wake).bus.editor = taken.bus.editor := by
  have found := ready.finds
  have awaited : line.actor.awaits (Turn.mk taken.now taken.files wake).wake = true :=
    ready.awaits running tracked.flying
  have reached : line.actor.Coherent := by
    rw [tracked.actor]
    exact coherent.after tracked.admitted
  have move := reached.turn awaited
  have handled : taken.handle wake =
      ((line.actor.output ⟨taken.now, taken.files, wake⟩).foldl perform
        { taken with actor := line.actor.next ⟨taken.now, taken.files, wake⟩ }).settleReceiver := by
    rw [← found.actor]
    rfl
  have done := performed move.unedited
    { taken with actor := line.actor.next ⟨taken.now, taken.files, wake⟩ }
  have rest := settled ((line.actor.output ⟨taken.now, taken.files, wake⟩).foldl perform
    { taken with actor := line.actor.next ⟨taken.now, taken.files, wake⟩ })
  rw [← handled] at rest
  have hears := rest.actor ▸ listening
  refine ⟨?_, (rest.receiver.trans done.receiver).trans found.receiver, ?_⟩
  · rw [done.actor] at hears
    exact move.listened hears
  · rw [rest.bus hears]
    exact done.channel

/-- An actor that listens has some events pending. -/
def Hears (line : Timeline) (room : Nat) (rest : List Event) : Prop :=
  line.actor.listening = true → line.bus.Pends line.editor room rest

/-- What a step does to what is pending for the actor. -/
theorem Tracked.draws (tracked : Tracked first receiver base older history line)
    (coherent : first.Coherent) (step : Step line recent next) (hears : line.Hears room rest) :
    ∃ left, next.Hears room left ∧ (arrived recent = [] → ∀ pending before,
      Drawn room pending before rest →
        Drawn room pending (before ++ Pipeline.taken (turns recent)) left) := by
  cases step with
  | publish event =>
    refine ⟨_, fun listening => (hears listening).emit event, fun quiet pending before drawn => ?_⟩
    have compilers : event.isEditor = false := by simpa [arrived] using quiet
    have silent : line.editor.carries event = false := by
      rw [tracked.own]
      exact compilers
    simpa [Option.filter, silent, turns, Pipeline.taken] using drawn
  | send | operate | unwatch | release | wait =>
    exact ⟨rest, hears, fun _ pending before drawn => by
      simpa [turns, Pipeline.taken] using drawn⟩
  | attend apart =>
    exact ⟨rest, fun listening => pends_channel tracked.own apart (hears listening),
      fun _ pending before drawn => by simpa [turns, Pipeline.taken] using drawn⟩
  | @handle wake taken running ready =>
    rw [taken_handled]
    by_cases listened : line.actor.listening = true
    · obtain ⟨left, draws, onwards⟩ := ready.draws (hears listened)
      refine ⟨left, fun listening => ?_, fun _ pending before drawn => drawn.draw draws⟩
      obtain ⟨_, editor, channel⟩ := tracked.channel coherent running ready listening
      exact editor ▸ pends_channel tracked.own channel onwards
    · have unheard : wake.hears = false := by
        simpa using mt ready.listening listened
      refine ⟨rest, fun listening => ?_, fun _ pending before drawn => drawn.draw (.other unheard)⟩
      exact absurd (tracked.channel coherent running ready listening).1 listened

end

section
variable {space : Workspace Watcher} {compiler : Compiler} {bus : EventBus}
variable {config : PipelineConfig} {history later : List Incident} {line after : Timeline}
variable {room : Nat} {pending : List Event}

theorem Run.draws (made : bus.editor.Made)
    (run : Run (Timeline.start space compiler bus config) history line)
    (onward : Run line later after) (hears : line.Hears room pending) :
    ∃ rest, after.Hears room rest ∧
      (arrived later = [] → Drawn room pending (Pipeline.taken (turns later)) rest) := by
  induction onward with
  | start => exact ⟨pending, hears, fun _ => .untouched⟩
  | @step front recent middle next through step ih =>
    obtain ⟨rest, kept, drawn⟩ := ih
    obtain ⟨left, onwards, more⟩ :=
      ((run.append through).tracked made).draws (.start config .empty) step kept
    refine ⟨left, onwards, fun quiet => ?_⟩
    rw [arrived_append, List.append_eq_nil_iff] at quiet
    rw [turns_append, taken_append]
    exact more quiet.2 pending _ (drawn quiet.1)

theorem Run.onward (made : bus.editor.Made)
    (run : Run (Timeline.start space compiler bus config) history line)
    (onward : Run line later after) :
    line.actor.Admits (turns later) ∧ after.actor = line.actor.after (turns later) ∧
      (after.calls.drop line.calls.length).map (·.request) =
        Pipeline.calls (line.actor.effects (turns later)) := by
  have tracked := run.tracked made
  have reached := (run.append onward).tracked made
  have admitted := reached.admitted
  have actor := reached.actor
  have called := reached.called
  rw [turns_append, Actor.admits_append, ← tracked.actor] at admitted
  rw [turns_append, Actor.after_append, ← tracked.actor] at actor
  rw [turns_append, Actor.effects_append, Pipeline.calls_append, ← tracked.called,
    ← tracked.actor] at called
  refine ⟨admitted.2, actor, ?_⟩
  rw [List.map_drop, called, List.drop_left' (List.length_map ..)]

theorem Open.listening (opened : Open later after) (made : bus.editor.Made)
    (run : Run (Timeline.start space compiler bus config) history line)
    (onward : Run line later after) (listening : line.actor.listening = true) :
    after.actor.listening = true := by
  obtain ⟨admitted, actor, -⟩ := run.onward made onward
  have coherent : line.actor.Coherent := by
    rw [(run.tracked made).actor]
    exact (Actor.Coherent.start config .empty).after (run.tracked made).admitted
  have going := opened.going
  rw [actor] at going ⊢
  rw [coherent.listening_after admitted opened.unclosed going]
  exact listening

theorem Run.steady (made : bus.editor.Made)
    (run : Run (Timeline.start space compiler bus config) history line) :
    line.actor.Steady ∧ line.actor.config = config := by
  have tracked := run.tracked made
  have steady := Actor.Steady.start config .empty
  rw [tracked.actor]
  exact ⟨steady.after tracked.admitted, steady.config_after tracked.admitted⟩

theorem Run.burst_taken (made : bus.editor.Made)
    (run : Run (Timeline.start space compiler bus config) history line)
    (listening : line.actor.listening = true) (pends : line.bus.Pends line.editor room [])
    {paths : List Path} (onward : Run (line.burst paths) later after) (opened : Open later after)
    (quiet : arrived later = []) (drained : after.Drained) :
    after.bus.Pends after.editor room [] ∧
      Pipeline.taken (turns later) =
        (paths.drop (paths.length - room)).map .activeFileChanged := by
  have started := run.append (burst_run paths line)
  obtain ⟨actor, editor⟩ := burst_actor paths line
  have heard : (line.burst paths).Hears room (paths.map .activeFileChanged) := fun _ =>
    editor ▸ burst_pends (run.tracked made).own pends paths
  obtain ⟨rest, kept, drawn⟩ := started.draws made onward heard
  have hearing := kept (opened.listening made started onward (actor ▸ listening))
  obtain rfl := drained.nothing_pends hearing
  refine ⟨hearing, ?_⟩
  rw [(drawn quiet).all, List.length_map, List.map_drop]

theorem Run.live (made : bus.editor.Made)
    (run : Run (Timeline.start space compiler bus config) history line)
    (listening : line.actor.listening = true) : line.actor.Live config := by
  have tracked := run.tracked made
  have steady := (Actor.Steady.start config .empty).after tracked.admitted
  have going : ((Actor.start config .empty).after (turns history)).stopped = false := by
    cases stopped : ((Actor.start config .empty).after (turns history)).stopped with
    | false => rfl
    | true =>
      rw [tracked.actor, (steady.halted stopped).deaf] at listening
      cases listening
  have unhalted := (Actor.Coherent.start config .empty).unhalted tracked.admitted going
  rw [tracked.actor]
  exact (Actor.Live.start config .empty).after tracked.admitted unhalted

theorem Run.hears (made : bus.editor.Made)
    (run : Run (Timeline.start space compiler bus config) history line)
    (listening : line.actor.listening = true) (pends : line.bus.Pends line.editor room pending)
    (filled : pending ≠ []) :
    ∃ turn next left, Run line [.handled turn] next ∧ turn.wake ≠ .busClosed ∧
      next.actor.listening = true ∧ next.bus.Pends next.editor room left ∧
      left.length < pending.length := by
  obtain ⟨wake, taken, ready, hears⟩ := ready_of_pends listening pends filled
  have quiet : wake.halts = false ∧ wake ≠ .busClosed := by
    cases wake with
    | event | lagged => exact ⟨rfl, nofun⟩
    | _ => cases hears
  have live := run.live made listening
  have running : line.actor.running = true := by
    rw [Actor.running, live.inboxOpen]
    rfl
  have tracked := run.tracked made
  have awaited : line.actor.awaits (Turn.mk taken.now taken.files wake).wake = true :=
    ready.awaits running tracked.flying
  have stepped : Run line [.handled ⟨taken.now, taken.files, wake⟩] (taken.handle wake) :=
    .step .start (.handle running ready)
  have actor : (taken.handle wake).actor = line.actor.next ⟨taken.now, taken.files, wake⟩ :=
    (run.onward made stepped).2.1
  have hearing : (taken.handle wake).actor.listening = true := by
    rw [actor, live.coherent.listening_next awaited quiet.2 (live.next awaited quiet.1).going]
    exact listening
  obtain ⟨left, draws, onwards⟩ := ready.draws pends
  obtain ⟨_, editor, channel⟩ := tracked.channel (.start config .empty) running ready hearing
  have kept := pends_channel tracked.own channel onwards
  rw [← editor] at kept
  exact ⟨_, _, left, stepped, quiet.2, hearing, kept, draws.shorter hears⟩

theorem Run.drains (made : bus.editor.Made)
    (run : Run (Timeline.start space compiler bus config) history line)
    (listening : line.actor.listening = true) (pends : line.bus.Pends line.editor room pending) :
    ∃ later after, Run line later after ∧ Open later after ∧ arrived later = [] ∧
      after.Drained := by
  induction size : pending.length using Nat.strongRecOn generalizing history line pending with
  | ind count ih =>
    by_cases filled : pending = []
    · subst filled
      have still : Open [] line :=
        ⟨(run.live made listening).going, fun _ member => absurd member List.not_mem_nil⟩
      exact ⟨[], line, .start, still, rfl, drained_of_pends pends⟩
    · obtain ⟨turn, next, left, heard, unclosed, hearing, kept, shorter⟩ :=
        run.hears made listening pends filled
      obtain ⟨later, after, onward, ⟨going, others⟩, silent, drained⟩ :=
        ih left.length (size ▸ shorter) (run.append heard) hearing kept rfl
      exact ⟨_, after, heard.append onward,
        ⟨going, List.forall_mem_cons.mpr ⟨unclosed, others⟩⟩, silent, drained⟩

theorem Run.caught_up (equipped : bus.Equipped room)
    (run : Run (Timeline.start space compiler bus config) history line) (opened : Open history line)
    (drained : line.Drained) :
    line.actor.listening = true ∧ line.bus.Pends line.editor room [] := by
  have made : bus.editor.Made := equipped.made (.editor 0)
  have first : bus.opened? .subscribeEditor = some _ := rfl
  have begins : (Timeline.start space compiler bus config).Hears room [] :=
    fun _ => equipped.opened first
  have listening : line.actor.listening = true := opened.listening made .start run rfl
  obtain ⟨pending, heard, -⟩ := Run.draws made .start run begins
  have pends := heard listening
  obtain rfl := drained.nothing_pends pends
  exact ⟨listening, pends⟩

/-- In each of the turns that follow, a trigger that is heard of makes the actor owe a compile, and
nothing else that is heard of changes it. -/
theorem Run.heard (made : bus.editor.Made)
    (run : Run (Timeline.start space compiler bus config) history line)
    (listening : line.actor.listening = true) {front back : List Turn} {turn : Turn}
    (admitted : line.actor.Admits (front ++ turn :: back))
    (going : (line.actor.after (front ++ turn :: back)).stopped = false)
    (hears : turn.wake.hears = true) :
    if turn.wake.triggers config = true then ((line.actor.after front).next turn).Owes
    else (line.actor.after front).next turn = line.actor.after front := by
  have unhalted := (run.steady made).1.coherent.unhalted admitted going
  obtain ⟨reached, awaited, -⟩ := Actor.admits_append.mp admitted
  exact ((run.live made listening).after reached (List.forall_mem_append.mp unhalted).1).hears
    awaited hears

end

/-- A burst of files that the editor shows to a pipeline that goes on and has nothing to receive.
With `2 ^ exponent` the least power of two that is not less than the capacity of the bus, the actor
can come to the end of the burst; and when it does, it was shown the source files among the last
`2 ^ exponent` of the burst, in order. The active file is the last of these, or what it was if there
is none, and a trigger is handled iff there is one. No source file is skipped in a burst of
`2 ^ exponent` at most. As long as no other source file is shown after that, every compile starts
from the active file, or from the configured one. -/
theorem hint_after_burst {capacity : Nat} {bus : EventBus}
    (created : EventBus.new? capacity = some bus) (before : List EventBus.Operation)
    {space : Workspace Watcher} {compiler : Compiler} {config : PipelineConfig}
    {history : List Incident} {line : Timeline}
    (run : Run (Timeline.start space compiler (bus.after before) config) history line)
    (opened : Open history line) (drained : line.Drained) (paths : List Path) :
    ∃ exponent, capacity ≤ 2 ^ exponent ∧ (∀ other, capacity ≤ 2 ^ other → exponent ≤ other) ∧
      let sources :=
        (paths.drop (paths.length - 2 ^ exponent)).filter (·.isSource config.extensions)
      (∃ later after, Run (line.burst paths) later after ∧ Open later after ∧ arrived later = [] ∧
        after.Drained) ∧
      ∀ later after, Run (line.burst paths) later after → Open later after → arrived later = [] →
        after.Drained →
          shown config (turns later) = sources ∧
          after.actor.activeFile = sources.getLast?.or line.actor.activeFile ∧
          ((∃ turn ∈ turns later, turn.wake.hears = true ∧ turn.wake.triggers config = true) ↔
            sources ≠ []) ∧
          (∀ front turn back, turns later = front ++ turn :: back → turn.wake.hears = true →
            let actor := line.actor.after front
            if turn.wake.triggers config = true then (actor.next turn).Owes
            else actor.next turn = actor) ∧
          (paths.length ≤ 2 ^ exponent →
            shown config (turns later) = paths.filter (·.isSource config.extensions)) ∧
          ∀ more last, Run after more last →
            (arrived more = [] → shown config (turns more) = []) ∧
            (shown config (turns more) = [] → ∀ call ∈ last.calls.drop after.calls.length,
              call.request.entry = after.actor.activeFile.or config.entry) := by
  obtain ⟨exponent, reached, enough, least⟩ := EventBus.nextPowerOfTwo_least capacity
  have equipped := (EventBus.equipped_new created).after before
  rw [reached] at equipped
  have made : (bus.after before).editor.Made := equipped.made (.editor 0)
  obtain ⟨listening, pends⟩ := run.caught_up equipped opened drained
  obtain ⟨actor, editor⟩ := burst_actor paths line
  have started := run.append (burst_run paths line)
  refine ⟨exponent, enough, least, ?_, fun later after onward open' quiet ended => ?_⟩
  · have burst : (line.burst paths).bus.Pends (line.burst paths).editor (2 ^ exponent) _ :=
      editor ▸ burst_pends (run.tracked made).own pends paths
    exact started.drains made (actor ▸ listening) burst
  · obtain ⟨nothing, took⟩ := run.burst_taken made listening pends onward open' quiet ended
    have shows := shown_of_taken config took
    obtain ⟨admitted, landed, -⟩ := started.onward made onward
    rw [actor] at admitted landed
    obtain ⟨steady, configured⟩ := run.steady made
    refine ⟨shows, ?_, ?_, fun front turn back split hears => ?_, fun short => ?_,
      fun more last further => ⟨fun silent => ?_, fun unshown => ?_⟩⟩
    · rw [landed, steady.hint_eq admitted, configured, shows]
    · rw [triggers_iff_shown, shows]
    · have going := open'.going
      rw [landed, split] at going
      rw [split] at admitted
      exact run.heard made listening admitted going hears
    · rw [shows, Nat.sub_eq_zero_of_le short, List.drop_zero]
    · obtain ⟨rest, -, drawn⟩ := (started.append onward).draws made further fun _ => nothing
      exact shown_of_taken config ((drawn silent).of_nil.trans List.map_nil.symm)
    · intro call member
      obtain ⟨steady, configured⟩ := (started.append onward).steady made
      obtain ⟨admitted, -, called⟩ := (started.append onward).onward made further
      have request : call.request ∈ Pipeline.calls (after.actor.effects (turns more)) :=
        called ▸ List.mem_map_of_mem member
      rw [steady.entry_unshown admitted (configured.symm ▸ unshown) request, Actor.entryHint,
        configured]
      cases after.actor.activeFile <;> rfl

/-- Room for three is room for four. Of five files that are shown in a burst the first is gone, a
source file like the second, and the others are no source files. -/
theorem hint_after_burst_pushed_out :
    let source (letter : UInt8) : Path := ⟨[letter, 46, 108, 111, 111, 109]⟩
    let other : Path := ⟨[110]⟩
    let paths := [source 97, source 98, other, other, other]
    let bus : EventBus := ⟨⟨4, 0, [], [], 0⟩, ⟨4, 0, [], [], 0⟩, 3, 1⟩
    let line := Timeline.start { map := .ofFiles [] } (.scripted []) (bus.after []) {}
    EventBus.new? 3 = some bus ∧ Run line [] line ∧ Open [] line ∧ line.Drained ∧
      ∃ later after, Run (line.burst paths) later after ∧ arrived later = [] ∧ after.Drained ∧
        shown {} (turns later) = [source 98] ∧ after.actor.activeFile = some (source 98) := by
  intro source other paths bus line
  have created : EventBus.new? 3 = some bus := by
    have rounded : Nat.nextPowerOfTwo 3 = 4 := by cbv
    have fits : ¬(3 = 0 ∨ EventBus.maxRoom < 3) := by decide
    rw [EventBus.new?, if_neg fits, Channel.new, rounded]
  have opened : Open [] line := ⟨rfl, fun turn member => absurd member List.not_mem_nil⟩
  have drained : line.Drained := .inl rfl
  obtain ⟨exponent, enough, least, ⟨later, after, onward, open', quiet, ended⟩, burst⟩ :=
    hint_after_burst created [] .start opened drained paths
  obtain rfl : exponent = 2 := by
    have low : exponent ≤ 2 := least 2 (by decide)
    have high : exponent ≠ 0 ∧ exponent ≠ 1 := by
      constructor <;>
        · rintro rfl
          exact absurd enough (by decide)
    omega
  obtain ⟨shows, active, -⟩ := burst later after onward open' quiet ended
  have left : (paths.drop (paths.length - 2 ^ 2)).filter
      (·.isSource ({} : PipelineConfig).extensions) = [source 98] := by decide +kernel
  rw [left] at shows active
  exact ⟨created, .start, opened, drained, later, after, onward, quiet, ended, shows, active⟩

end Timeline

end LiveCompile.Pipeline
