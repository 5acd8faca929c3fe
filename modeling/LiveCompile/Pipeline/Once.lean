import LiveCompile.Pipeline.Timeline

/-! A single compile with a pipeline of its own. -/

namespace LiveCompile

/-- The exit code that stands for an outcome: 1 if the compiler failed or reported errors. -/
def Outcome.exitCode : Outcome → Nat
  | skipped => 0
  | completed _ output => if output.value.hasErrors then 1 else 0
  | failed .. => 1

namespace Pipeline

/-- A single compile: its outcome, the events that could be received afterwards, and the
calls of the compiler. -/
structure Report where
  outcome : Outcome
  events : List Event
  calls : List Call

/-- The event of a reception; a gap is passed over. -/
def received? : Reception Event → Option Event
  | .event event => some event
  | _ => none

/-- The timeline of a pipeline that is asked to compile once, answers and ends. -/
def Timeline.once (map : BufferMap) (compiler : Compiler) (bus : EventBus)
    (config : PipelineConfig) : Timeline :=
  (((Timeline.start { map } compiler bus config).send (.compileNow 0)).await 0).shutdown

/-- Compiles the buffers once. The events are received when all is done, so only those that
the bus still holds are found. -/
def compileOnce? (map : BufferMap) (compiler : Compiler) (bus : EventBus)
    (config : PipelineConfig) : Option Report := do
  let (receiver, bus) := bus.subscribe
  let line := Timeline.once map compiler bus config
  let outcome ← line.answer? 0
  return ⟨outcome, (line.bus.drainAll receiver).1.filterMap received?, line.calls⟩

end Pipeline

end LiveCompile
