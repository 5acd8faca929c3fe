import LiveCompile.Buffer.Listeners
import LiveCompile.Pipeline.Actor

/-! A pipeline on a clock. The timeline holds the actor together with all it talks to: the
buffer map with its listeners, the bus, the inbox and the compiler. The clock counts
milliseconds and advances only when nothing is ready. Events and commands come on channels of
their own, so their order says nothing about the order in which they are handled. Here, of the
wakes that are ready at one time, the end of a compile is handled first, then commands, then
events, then the end of the quiet period. An observer of the bus receives when nothing more is
ready. -/

namespace LiveCompile

/-- Who listens to the buffers. -/
inductive Watcher where
  | pipeline
  | named (id : String)
  deriving DecidableEq, Repr

namespace Pipeline

/-- A call of the compiler. -/
structure Call where
  time : Nat
  request : CompileRequest
  deriving Repr

/-- An answer to a caller. -/
structure Answer where
  time : Nat
  caller : Nat
  outcome : Outcome
  deriving Repr

/-- A result that is not yet there. -/
structure Arrival where
  due : Nat
  result : CompileResult

structure Timeline where
  now : Nat := 0
  compiler : Compiler
  space : Workspace Watcher
  bus : EventBus
  actor : Actor
  /-- the actor's receiver of editor events -/
  editor : Receiver
  inbox : List Command := []
  /-- whether someone may still send commands -/
  held : Bool := true
  arrival : Option Arrival := none
  observer : Option Receiver := none
  /-- what the observer received, and when -/
  seen : List (Nat × Reception Event) := []
  calls : List Call := []
  answers : List Answer := []

namespace Timeline

/-- A pipeline that starts now: it listens to the buffers and to the editor. -/
def start (space : Workspace Watcher) (compiler : Compiler) (bus : EventBus)
    (config : PipelineConfig) : Timeline :=
  let (editor, bus) := bus.subscribeEditor
  { compiler, bus, editor, space := space.subscribe .pipeline [], actor := .start config .empty }

/-- Adds an observer of all events. -/
def observed (line : Timeline) : Timeline :=
  let (observer, bus) := line.bus.subscribe
  { line with bus, observer := some observer }

def files (line : Timeline) : List (Path × String) := line.space.map.getAll

/-! Ready wakes -/

def finished? (line : Timeline) : Option (Wake × Timeline) :=
  match line.arrival with
  | none => none
  | some arrival =>
    if arrival.due ≤ line.now then some (.finished arrival.result, { line with arrival := none })
    else none

def busWake? (line : Timeline) : Option (Wake × Timeline) :=
  if !line.actor.listening then none
  else
    match line.bus.receive line.editor with
    | (.event event, bus) => some (.event event, { line with bus })
    | (.lagged missed, bus) => some (.lagged missed, { line with bus })
    | (.closed, bus) => some (.busClosed, { line with bus })
    | (.empty, _) => none

def commandWake? (line : Timeline) : Option (Wake × Timeline) :=
  if !line.actor.inboxOpen then none
  else
    match line.inbox with
    | command :: inbox => some (.command command, { line with inbox })
    | [] => if line.held then none else some (.closed, line)

def deadlineWake? (line : Timeline) : Option (Wake × Timeline) :=
  match line.actor.deadline with
  | none => none
  | some deadline => if deadline ≤ line.now then some (.deadline, line) else none

/-- The wake that is handled next. -/
def ready? (line : Timeline) : Option (Wake × Timeline) :=
  if line.actor.running then
    line.finished? <|> line.commandWake? <|> line.busWake? <|> line.deadlineWake?
  else none

/-! Handling a wake -/

def perform (line : Timeline) : Effect → Timeline
  | .read _ => line
  | .publish event => { line with bus := line.bus.publish event }
  | .call _ request =>
    let reply := line.compiler (line.calls.map (·.request)) request
    { line with
      arrival := some ⟨line.now + reply.delay, reply.result⟩
      calls := line.calls ++ [⟨line.now, request⟩] }
  | .answer caller outcome => { line with answers := line.answers ++ [⟨line.now, caller, outcome⟩] }
  | .report .. => line
  | .reportSize .. => line
  | .confirm _ => line

/-- An actor that stops listening drops its receiver. -/
def settleReceiver (line : Timeline) : Timeline :=
  if line.actor.listening then line
  else { line with bus := line.bus.dropReceiver line.editor }

def handle (line : Timeline) (wake : Wake) : Timeline :=
  let (actor, effects) := line.actor.step line.now line.files wake
  (effects.foldl perform { line with actor }).settleReceiver

/-- Handles what is ready, one wake after the other. -/
def run : Nat → Timeline → Timeline
  | 0, line => line
  | steps + 1, line =>
    match line.ready? with
    | none => line
    | some (wake, line) => run steps (line.handle wake)

/-- How many wakes there can be without new commands and events: each of those is handled,
may lead to a compile, and the compile ends; some more are due already. -/
def workload (line : Timeline) : Nat :=
  3 * (line.inbox.length + line.bus.editor.held.length) + 16

/-- The observer receives what is there. -/
def observe (line : Timeline) : Timeline :=
  match line.observer with
  | none => line
  | some observer =>
    let (received, bus) := line.bus.drainAll observer
    { line with bus, seen := line.seen ++ received.map (line.now, ·) }

/-- Runs until nothing is ready at this time. -/
def settle (line : Timeline) : Timeline := (line.run line.workload).observe

/-! The clock -/

/-- The time of the next wake that needs only time. -/
def timer? (line : Timeline) : Option Nat :=
  if line.actor.running then
    match line.arrival, line.actor.deadline with
    | some arrival, some deadline => some (min arrival.due deadline)
    | some arrival, none => some arrival.due
    | none, deadline => deadline
  else none

/-- Moves the clock to the next timer, if it is not after the limit. -/
def jump? (limit : Nat) (line : Timeline) : Option Timeline :=
  match line.timer? with
  | none => none
  | some due => if due ≤ limit then some { line with now := max line.now due } else none

/-- Settles at every timer up to a time; the first argument bounds the number of timers. -/
def runTo : Nat → Nat → Timeline → Timeline
  | 0, limit, line => { line with now := max line.now limit }
  | jumps + 1, limit, line =>
    match line.jump? limit with
    | none => { line with now := max line.now limit }
    | some line => runTo jumps limit line.settle

/-- Lets time pass. -/
def wait (time : Nat) (line : Timeline) : Timeline :=
  let line := line.settle
  (runTo line.workload (line.now + time) line).settle

/-- Settles at every timer until a condition holds or no timer is left. -/
def runUntil (done : Timeline → Bool) : Nat → Timeline → Timeline
  | 0, line => line
  | jumps + 1, line =>
    if done line then line
    else
      match line.timer? with
      | none => line
      | some due => runUntil done jumps { line with now := max line.now due }.settle

/-! What can be done from outside -/

def send (command : Command) (line : Timeline) : Timeline :=
  { line with inbox := line.inbox ++ [command] }

def publish (event : Event) (line : Timeline) : Timeline :=
  { line with bus := line.bus.publish event }

/-- The change that the pipeline's listener passes on. -/
def changed? : Observation Watcher → Option Command
  | .called .pipeline path => some (.bufferChanged path)
  | _ => none

/-- Works on the buffers; the pipeline's listener sends what it is called for. -/
def touch {α : Type} (work : Workspace Watcher → α × Workspace Watcher) (line : Timeline) :
    α × Timeline :=
  let (answer, space) := work { line.space with observations := [] }
  (answer, { line with
    space := { space with observations := [] }
    inbox := line.inbox ++ space.observations.filterMap changed? })

/-- Runs an operation on the buffers. -/
def operate (operation : BufferMap.Operation) (line : Timeline) : Timeline :=
  (line.touch fun space =>
    match space.operate? operation with
    | some (_, space) => ((), space)
    | none => ((), space)).2

def unwatch (line : Timeline) : Timeline :=
  { line with space := line.space.unsubscribe .pipeline }

/-- Stops listening to changes; callers are still served. -/
def stop (line : Timeline) : Timeline := line.unwatch.send .stop

/-- Gives up the pipeline: no one listens to changes or sends commands any more. -/
def release (line : Timeline) : Timeline := { line.unwatch with held := false }

/-- Gives up the pipeline and runs until its actor has ended. -/
def shutdown (line : Timeline) : Timeline :=
  let line := line.release.settle
  runUntil (fun line => !line.actor.running) line.workload line

/-- The answer a caller got. -/
def answer? (line : Timeline) (caller : Nat) : Option Outcome :=
  (line.answers.find? (·.caller = caller)).map (·.outcome)

/-- Runs until a caller has its answer. -/
def await (caller : Nat) (line : Timeline) : Timeline :=
  let line := line.settle
  runUntil (fun line => (line.answer? caller).isSome) line.workload line

end Timeline

end Pipeline

end LiveCompile
