import LiveCompile.Pipeline.Once
import LiveCompile.Proofs.BusDelivery
import LiveCompile.Proofs.PipelineServing
import LiveCompile.Proofs.PipelineLifecycle
import LiveCompile.Proofs.ListenerRun

/-! A single compile. It publishes its start and its end, and both are received only after the
pipeline has ended, so a bus with room for one event keeps the end alone. -/

namespace LiveCompile

namespace EventBus

variable {bus : EventBus} {receiver : Receiver} {room steps capacity : Nat} {pending : List Event}

theorem Pends.drain_near (pends : bus.Pends receiver room pending) (near : pending.length ≤ room)
    (enough : pending.length ≤ steps) : (drain receiver steps bus).1 = pending.map .event := by
  induction pending generalizing bus steps with
  | nil =>
    cases steps with
    | zero => rfl
    | succ steps =>
      have got : (bus.receive receiver).1 = if bus.alive then .empty else .closed := pends.receive.1
      rcases received : bus.receive receiver with ⟨reception, next⟩
      rw [received] at got
      cases alive : bus.alive <;> simp [alive] at got <;> simp [drain, received, got]
  | cons event rest ih =>
    cases steps with
    | zero => cases enough
    | succ steps =>
      obtain ⟨got, onwards⟩ := pends.receive
      have caught : ¬ room < (event :: rest).length := Nat.not_lt_of_le near
      simp only [Channel.due, Channel.left, if_neg caught, List.tail_cons] at got onwards
      have later := ih onwards (Nat.le_of_succ_le near) (Nat.le_of_succ_le_succ enough)
      rcases received : bus.receive receiver with ⟨reception, next⟩
      rw [received] at got later
      cases got
      simp [drain, received, later]

theorem Pends.drained (pends : bus.Pends receiver room pending) (enough : room < steps) :
    (drain receiver steps bus).1.filterMap Pipeline.received? =
      pending.drop (pending.length - room) := by
  have events (kept : List Event) :
      (kept.map Reception.event).filterMap Pipeline.received? = kept := by
    simp [List.filterMap_map, Function.comp_def, Pipeline.received?]
  by_cases far : room < pending.length
  · cases steps with
    | zero => cases enough
    | succ steps =>
      obtain ⟨got, onwards⟩ := pends.receive
      simp only [Channel.due, Channel.left, if_pos far] at got onwards
      have length : (pending.drop (pending.length - room)).length = room := by
        rw [List.length_drop]
        omega
      have later := onwards.drain_near (Nat.le_of_eq length) (length ▸ Nat.le_of_lt_succ enough)
      rcases received : bus.receive receiver with ⟨reception, next⟩
      rw [received] at got later
      cases got
      have drained : (drain receiver (steps + 1) bus).1 = .lagged (pending.length - room) ::
          (pending.drop (pending.length - room)).map .event := by
        simp only [drain, received, later]
      rw [drained]
      exact events _
  · have near : pending.length ≤ room := Nat.le_of_not_lt far
    rw [pends.drain_near near (Nat.le_trans near (Nat.le_of_lt enough)), events,
      Nat.sub_eq_zero_of_le near, List.drop_zero]

private theorem alive_publish (event : Event) : (bus.publish event).alive = bus.alive := by
  unfold publish emit
  cases event.isEditor <;> rfl

private theorem two_le_room (created : new? capacity = some bus) :
    2 ≤ capacity.nextPowerOfTwo ↔ 2 ≤ capacity := by
  obtain ⟨exponent, reached, enough, least⟩ := nextPowerOfTwo_least capacity
  rw [reached]
  constructor
  · intro roomy
    refine Decidable.byContradiction fun small => ?_
    have positive : capacity ≠ 0 := by
      rintro rfl
      simp [new?] at created
    have zero : exponent = 0 := Nat.le_zero.mp (least 0 (by omega))
    simp [zero] at roomy
  · intro large
    exact Nat.le_trans large enough

end EventBus

namespace Pipeline

namespace Timeline

section
variable {line taken : Timeline} {wake : Wake} {room : Nat}

private theorem run_ready (ready : line.ready? = some (wake, taken)) (steps : Nat) :
    line.run (steps + 1) = (taken.handle wake).run steps := by
  rw [Timeline.run, ready]

private theorem run_quiet (quiet : line.ready? = none) (steps : Nat) : line.run steps = line := by
  cases steps with
  | zero => rfl
  | succ steps => rw [Timeline.run, quiet]

private theorem runUntil_done {done : Timeline → Bool} (reached : done line = true) (jumps : Nat) :
    runUntil done jumps line = line := by
  cases jumps with
  | zero => rfl
  | succ jumps => rw [runUntil, if_pos reached]

private theorem runUntil_timer {done : Timeline → Bool} (unreached : done line = false) {due : Nat}
    (timer : line.timer? = some due) (jumps : Nat) :
    runUntil done (jumps + 1) line =
      runUntil done jumps { line with now := max line.now due }.settle := by
  simp only [runUntil, unreached, timer]
  rfl

theorem Run.handle {first : Timeline} {history : List Incident} (run : Run first history line)
    (ready : line.ready? = some (wake, taken)) :
    Run first (history ++ [.handled ⟨taken.now, taken.files, wake⟩]) (taken.handle wake) := by
  obtain ⟨running, ready⟩ := ready_of_ready? ready
  exact run.step (.handle running ready)

private theorem busWake?_idle (pends : line.bus.Pends line.editor room [])
    (alive : line.bus.alive = true) : line.busWake? = none := by
  have got : (line.bus.receive line.editor).1 = .empty := by
    rw [pends.receive.1, Channel.due_empty]
    exact ⟨rfl, alive⟩
  rcases received : line.bus.receive line.editor with ⟨reception, next⟩
  rw [received] at got
  cases got
  simp [busWake?, received]

end

end Timeline

namespace Single

variable (map : BufferMap) (compiler : Compiler) (bus : EventBus) (config : PipelineConfig)

/-! The course of a single compile: it is asked for, runs for as long as the compiler takes, and
ends; then the pipeline is given up. -/

def request : CompileRequest := ⟨map.getAll, config.entry⟩

def reply : Reply := compiler [] (request map config)

def verdict : Actor.Verdict :=
  (Actor.start config .empty).verdict (reply map compiler config).delay ⟨1, 0⟩
    (reply map compiler config).result

def published : List Event :=
  [.compilerStarted 1 0 map.getAll.length, (verdict map compiler config).event]

def opening : Timeline := (Timeline.start { map } compiler bus config).send (.compileNow 0)

def flying : Timeline :=
  let first := Timeline.start { map } compiler bus config
  { first with
    actor := { first.actor with
      schedule := ⟨.compiling, false⟩, lastCompileId := 1, flight := some ⟨1, 0⟩, waiters := [0] }
    bus := first.bus.publish (.compilerStarted 1 0 map.getAll.length)
    arrival := some ⟨(reply map compiler config).delay, (reply map compiler config).result⟩
    calls := [⟨0, request map config⟩] }

def arrived : Timeline :=
  { flying map compiler bus config with now := (reply map compiler config).delay }

def landed : Timeline :=
  let verdict := verdict map compiler config
  { arrived map compiler bus config with
    actor := { Actor.start config .empty with
      lastCompileId := 1, cache := verdict.cache, held := verdict.held }
    bus := (flying map compiler bus config).bus.publish verdict.event
    arrival := none
    answers := [⟨(reply map compiler config).delay, 0, verdict.outcome⟩] }

def ended : Timeline := (landed map compiler bus config).release.handle .closed

private theorem step_asked {files : List (Path × String)} (filled : files ≠ []) :
    (Actor.start config .empty).step 0 files (.command (.compileNow 0)) =
      ({ Actor.start config .empty with
          schedule := ⟨.compiling, false⟩, lastCompileId := 1, flight := some ⟨1, 0⟩,
          waiters := [0] },
        [.read files, .publish (.compilerStarted 1 0 files.length),
          .call 1 ⟨files, config.entry⟩]) := by
  cases files with
  | nil => exact absurd rfl filled
  | cons => rfl

private theorem step_finished (now : Nat) (files : List (Path × String)) (result : CompileResult) :
    ({ Actor.start config .empty with
        schedule := ⟨.compiling, false⟩, lastCompileId := 1, flight := some ⟨1, 0⟩,
        waiters := [0] } :
    Actor).step now files (.finished result) =
      let verdict := (Actor.start config .empty).verdict now ⟨1, 0⟩ result
      ({ Actor.start config .empty with
          lastCompileId := 1, cache := verdict.cache, held := verdict.held },
        [.publish verdict.event, .answer 0 verdict.outcome]) := by
  cases result <;> rfl

private theorem files_start : (Timeline.start { map } compiler bus config).files = map.getAll :=
  congrArg BufferMap.getAll (Workspace.map_subscribe ..)

variable {map} in
private theorem handle_asked (filled : map.getAll ≠ []) :
    (Timeline.start { map } compiler bus config).handle (.command (.compileNow 0)) =
      flying map compiler bus config := by
  have step : (Timeline.start { map } compiler bus config).actor.step
      (Timeline.start { map } compiler bus config).now map.getAll (.command (.compileNow 0)) = _ :=
    step_asked config filled
  rw [Timeline.handle, files_start, step, flying, ← Nat.zero_add (reply map compiler config).delay]
  rfl

private theorem handle_finished :
    ({ arrived map compiler bus config with arrival := none } :
    Timeline).handle
      (.finished (reply map compiler config).result) = landed map compiler bus config := by
  have step := step_finished config (reply map compiler config).delay
    (flying map compiler bus config).files (reply map compiler config).result
  exact congrArg (fun turn : Actor × List Effect => (turn.2.foldl Timeline.perform
    { arrived map compiler bus config with arrival := none, actor := turn.1 }).settleReceiver) step

/-! What is ready at each of these places -/

private theorem ready?_opening : (opening map compiler bus config).ready? =
    some (.command (.compileNow 0), Timeline.start { map } compiler bus config) := rfl

private theorem ready?_arrived : (arrived map compiler bus config).ready? =
    some (.finished (reply map compiler config).result,
      { arrived map compiler bus config with arrival := none }) := by
  simp [Timeline.ready?, Timeline.finished?, arrived, flying, Actor.running]

private theorem ready?_released : (landed map compiler bus config).release.ready? =
    some (.closed, (landed map compiler bus config).release) := rfl

private theorem ready?_ended : (ended map compiler bus config).ready? = none := rfl

section
variable {bus : EventBus} {room : Nat} (alive : bus.alive = true)
variable (pends : bus.subscribeEditor.2.Pends bus.subscribeEditor.1 room [])

include pends

private theorem pends_flying :
    (flying map compiler bus config).bus.Pends bus.subscribeEditor.1 room [] :=
  pends.emit (.compilerStarted 1 0 map.getAll.length)

private theorem pends_landed :
    (landed map compiler bus config).bus.Pends bus.subscribeEditor.1 room [] := by
  have kept := (pends_flying map compiler config pends).emit (verdict map compiler config).event
  have quiet : bus.subscribeEditor.1.carries (verdict map compiler config).event = false := by
    show (verdict map compiler config).event.isEditor = false
    unfold verdict
    cases (reply map compiler config).result <;> rfl
  simp only [Option.filter, quiet, Bool.false_eq_true, if_false, Option.toList_none,
    List.append_nil] at kept
  exact kept

include alive

private theorem ready?_flying (slow : (reply map compiler config).delay ≠ 0) :
    (flying map compiler bus config).ready? = none := by
  have idle := Timeline.busWake?_idle (pends_flying map compiler config pends) alive
  have early : ¬ (reply map compiler config).delay ≤ 0 := fun none => slow (Nat.le_zero.mp none)
  have unfinished : (flying map compiler bus config).finished? = none := if_neg early
  simp only [Timeline.ready?, unfinished, idle]
  rfl

private theorem ready?_landed : (landed map compiler bus config).ready? = none := by
  have alive : (landed map compiler bus config).bus.alive = true := by
    rw [landed, EventBus.alive_publish]
    exact alive
  have idle := Timeline.busWake?_idle (pends_landed map compiler config pends) alive
  simp only [Timeline.ready?, idle]
  rfl

end

/-! The whole course -/

section
variable {map} {bus : EventBus} {room : Nat}

private theorem settle_arrived (alive : bus.alive = true)
    (pends : bus.subscribeEditor.2.Pends bus.subscribeEditor.1 room []) :
    (arrived map compiler bus config).settle = landed map compiler bus config := by
  rw [Timeline.settle, Timeline.workload, Timeline.run_ready (ready?_arrived ..), handle_finished,
    Timeline.run_quiet (ready?_landed map compiler config alive pends)]
  rfl

private theorem await_opening (filled : map.getAll ≠ []) (alive : bus.alive = true)
    (pends : bus.subscribeEditor.2.Pends bus.subscribeEditor.1 room []) :
    (opening map compiler bus config).await 0 = landed map compiler bus config := by
  have asked (steps : Nat) : (opening map compiler bus config).run (steps + 1) =
      (flying map compiler bus config).run steps := by
    rw [Timeline.run_ready (ready?_opening ..), handle_asked compiler bus config filled]
  have awaited (jumps : Nat) : Timeline.runUntil (fun line => (line.answer? 0).isSome) jumps
      (landed map compiler bus config) = landed map compiler bus config :=
    Timeline.runUntil_done (by rfl) jumps
  by_cases instant : (reply map compiler config).delay = 0
  · have same : flying map compiler bus config = arrived map compiler bus config := by
      rw [arrived, instant]
      rfl
    have settled : (opening map compiler bus config).settle = landed map compiler bus config := by
      rw [Timeline.settle, Timeline.workload, asked, same, Timeline.run_ready (ready?_arrived ..),
        handle_finished, Timeline.run_quiet (ready?_landed map compiler config alive pends)]
      rfl
    rw [Timeline.await, settled, awaited]
  · have settled : (opening map compiler bus config).settle = flying map compiler bus config := by
      rw [Timeline.settle, Timeline.workload, asked,
        Timeline.run_quiet (ready?_flying map compiler config alive pends instant)]
      rfl
    have passed : { flying map compiler bus config with
        now := max (flying map compiler bus config).now (reply map compiler config).delay } =
          arrived map compiler bus config := by
      have now : max (flying map compiler bus config).now (reply map compiler config).delay =
          (reply map compiler config).delay := Nat.zero_max _
      rw [now]
      rfl
    rw [Timeline.await, settled, Timeline.workload, Timeline.runUntil_timer (by rfl) (by rfl)]
    rw [passed, settle_arrived compiler config alive pends, awaited]

private theorem once_eq (filled : map.getAll ≠ []) (alive : bus.alive = true)
    (pends : bus.subscribeEditor.2.Pends bus.subscribeEditor.1 room []) :
    Timeline.once map compiler bus config = ended map compiler bus config := by
  have closed (steps : Nat) : (landed map compiler bus config).release.run (steps + 1) =
      (ended map compiler bus config).run steps := Timeline.run_ready (ready?_released ..) steps
  have settled : (landed map compiler bus config).release.settle = ended map compiler bus config := by
    rw [Timeline.settle, Timeline.workload, closed, Timeline.run_quiet (ready?_ended ..)]
    rfl
  have awaited : ((Timeline.start { map } compiler bus config).send (.compileNow 0)).await 0 =
      landed map compiler bus config := await_opening compiler config filled alive pends
  rw [Timeline.once, awaited, Timeline.shutdown, settled]
  exact Timeline.runUntil_done (by rfl) _

private theorem events_turns (filled : map.getAll ≠ []) (files others : List (Path × String))
    (now : Nat) :
    events ((Actor.start config .empty).effects
      [⟨0, map.getAll, .command (.compileNow 0)⟩,
        ⟨(reply map compiler config).delay, files, .finished (reply map compiler config).result⟩,
        ⟨now, others, .closed⟩]) = published map compiler config := by
  have asked := step_asked config filled
  have finished := step_finished config (reply map compiler config).delay files
    (reply map compiler config).result
  simp only [Actor.effects, Actor.output, Actor.next, asked, finished]
  rfl

/-- The course is a run of the pipeline among its channels, in which these events are published. -/
theorem run_once (filled : map.getAll ≠ []) (alive : bus.alive = true)
    (pends : bus.subscribeEditor.2.Pends bus.subscribeEditor.1 room []) :
    ∃ history, Timeline.Run (Timeline.start { map } compiler bus config) history
        (Timeline.once map compiler bus config) ∧
      events ((Actor.start config .empty).effects (turns history)) =
        published map compiler config := by
  have asked := Timeline.Run.handle (.step .start (.send (.compileNow 0)))
    (ready?_opening map compiler bus config)
  rw [handle_asked compiler bus config filled, files_start] at asked
  have waited := asked.step (.wait (Nat.zero_le (reply map compiler config).delay))
  have finished := Timeline.Run.handle waited (ready?_arrived map compiler bus config)
  rw [handle_finished] at finished
  have closed := Timeline.Run.handle (finished.step .release)
    (ready?_released map compiler bus config)
  rw [once_eq compiler config filled alive pends]
  exact ⟨_, closed, events_turns compiler config filled _ _ _⟩

private theorem pends_ended {id : Nat} (pends : bus.Pends (.all id) room []) :
    (ended map compiler bus config).bus.Pends (.all id) room (published map compiler config) := by
  have listening : (bus.perform .subscribeEditor).Pends (.all id) room [] :=
    pends.perform nofun nofun
  have started := listening.emit (.compilerStarted 1 0 map.getAll.length)
  have landed := started.emit (verdict map compiler config).event
  exact landed.beside (.inr ⟨bus.subscribeEditor.1, nofun, rfl⟩)

end

section
variable {map} {bus : EventBus} {capacity : Nat} (created : EventBus.new? capacity = some bus)

include created

private theorem alive_subscribe : bus.subscribe.2.alive = true := by
  unfold EventBus.new? at created
  split at created
  · cases created
  · cases created
    rfl

private theorem pends_subscribe :
    (bus.perform .subscribe).Pends bus.subscribe.1 capacity.nextPowerOfTwo [] :=
  (EventBus.equipped_new created).opened rfl

private theorem pends_subscribeEditor : ((bus.perform .subscribe).perform .subscribeEditor).Pends
    bus.subscribe.2.subscribeEditor.1 capacity.nextPowerOfTwo [] :=
  ((EventBus.equipped_new created).perform .subscribe).opened rfl

theorem compileOnce?_eq (filled : map.getAll ≠ []) :
    compileOnce? map compiler bus config = some
      ⟨(verdict map compiler config).outcome,
        (published map compiler config).drop (2 - capacity.nextPowerOfTwo),
        [⟨0, request map config⟩]⟩ := by
  have once : Timeline.once map compiler bus.subscribe.2 config =
      ended map compiler bus.subscribe.2 config :=
    once_eq compiler config filled (alive_subscribe created) (pends_subscribeEditor created)
  have pends : (ended map compiler bus.subscribe.2 config).bus.Pends bus.subscribe.1
      capacity.nextPowerOfTwo (published map compiler config) :=
    pends_ended compiler config (pends_subscribe created)
  have room : (ended map compiler bus.subscribe.2 config).bus.all.room = capacity.nextPowerOfTwo :=
    pends.room
  have enough : capacity.nextPowerOfTwo < (ended map compiler bus.subscribe.2 config).bus.all.room +
      (ended map compiler bus.subscribe.2 config).bus.editor.room + 1 := by omega
  have outcome : (ended map compiler bus.subscribe.2 config).answer? 0 =
    some (verdict map compiler config).outcome := rfl
  simp only [compileOnce?, once, EventBus.drainAll, outcome, Option.bind_eq_bind, Option.bind_some,
    pends.drained enough]
  rfl

end

end Single

section
variable {map : BufferMap} {bus : EventBus} {capacity : Nat}

/-- A single compile of some buffers has an outcome, and publishes its start and its end. Both are
reported unless the bus was made for one event; then the start is lost. -/
theorem single_compile_reported (created : EventBus.new? capacity = some bus)
    (filled : map.getAll ≠ []) (compiler : Compiler) (config : PipelineConfig) :
    ∃ report history ending,
      compileOnce? map compiler bus config = some report ∧
      Timeline.Run (Timeline.start { map } compiler bus.subscribe.2 config) history
        (Timeline.once map compiler bus.subscribe.2 config) ∧
      events ((Actor.start config .empty).effects (turns history)) =
        [.compilerStarted 1 0 map.getAll.length, ending] ∧
      ending.isTerminal = true ∧ ending.compileId? = some 1 ∧
      report.outcome.compileId? = some 1 ∧ Tells 1 report.outcome ending ∧
      report.events =
        if capacity = 1 then [ending] else [.compilerStarted 1 0 map.getAll.length, ending] := by
  obtain ⟨history, run, published⟩ := Single.run_once compiler config filled
    (Single.alive_subscribe created) (Single.pends_subscribeEditor created)
  obtain ⟨terminal, numbered, _, outcome, tells⟩ := Actor.verdict_tells
    (Single.reply map compiler config).delay ⟨1, 0⟩ (Single.reply map compiler config).result
    (Actor.start config .empty)
  refine ⟨_, history, (Single.verdict map compiler config).event,
    Single.compileOnce?_eq compiler config created filled, run, published, terminal, numbered,
    outcome, tells, ?_⟩
  have roomy := EventBus.two_le_room created
  by_cases one : capacity = 1
  · subst one
    rw [if_pos rfl]
    have room : Nat.nextPowerOfTwo 1 = 1 := by cbv
    rw [room]
    rfl
  · have positive : capacity ≠ 0 := by
      rintro rfl
      cases created
    have large : 2 ≤ capacity.nextPowerOfTwo := roomy.mpr (by omega)
    rw [if_neg one, Nat.sub_eq_zero_of_le large]
    rfl

def oneRoom : BufferMap := .ofFiles [(⟨[97, 46, 108, 111, 111, 109]⟩, "room")]

/-- A compiler that breaks down after a while, and a bus for two events. -/
theorem single_compile_reported_panicked :
    ∃ bus report ending, EventBus.new? 2 = some bus ∧ oneRoom.getAll ≠ [] ∧
      compileOnce? oneRoom (fun _ _ => ⟨3, .error (.panicked none)⟩) bus {} = some report ∧
      ending.compileId? = some 1 ∧ report.events = [.compilerStarted 1 0 1, ending] := by
  have created : EventBus.new? 2 = some ⟨.new 2, .new 2, 2, 1⟩ := if_neg (by decide)
  have filled : oneRoom.getAll ≠ [] := List.cons_ne_nil _ _
  obtain ⟨report, _, ending, reported, _, _, _, numbered, _, _, events⟩ :=
    single_compile_reported created filled (fun _ _ => ⟨3, .error (.panicked none)⟩) {}
  exact ⟨_, report, ending, created, filled, reported, numbered, events⟩

/-- A bus for one event is a bus, and what is reported then lacks the start that was published. -/
theorem single_compile_start_lost :
    ∃ bus report history, EventBus.new? 1 = some bus ∧ oneRoom.getAll ≠ [] ∧
      compileOnce? oneRoom (.scripted []) bus {} = some report ∧
      Timeline.Run (Timeline.start { map := oneRoom } (.scripted []) bus.subscribe.2 {}) history
        (Timeline.once oneRoom (.scripted []) bus.subscribe.2 {}) ∧
      Event.compilerStarted 1 0 1 ∈ events ((Actor.start {} .empty).effects (turns history)) ∧
      Event.compilerStarted 1 0 1 ∉ report.events := by
  have created : EventBus.new? 1 = some ⟨.new 1, .new 1, 1, 1⟩ := if_neg (by decide)
  have filled : oneRoom.getAll ≠ [] := List.cons_ne_nil _ _
  obtain ⟨history, run, published⟩ := Single.run_once (.scripted []) {} filled
    (Single.alive_subscribe created) (Single.pends_subscribeEditor created)
  refine ⟨_, _, history, created, filled, Single.compileOnce?_eq _ _ created filled, run, ?_, ?_⟩
  · rw [published]
    exact List.mem_cons_self
  · have room : Nat.nextPowerOfTwo 1 = 1 := by cbv
    rw [room]
    intro member
    cases List.mem_singleton.mp member

end

end Pipeline

end LiveCompile
