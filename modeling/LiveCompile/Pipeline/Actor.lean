import LiveCompile.Bus
import LiveCompile.Cache
import LiveCompile.Compile.Failure
import LiveCompile.Config
import LiveCompile.Schedule

/-! The recompile pipeline. One actor owns all state and handles one wake at a time: a
command from its inbox, the end of the quiet period, the end of a running compile, or an
event of the editor. Handling a wake gives the next state and the effects that the world
around the actor carries out in order: events to publish, the compiler call to make and
the answers to callers.

At most one compile runs. A change waits for the quiet period; a change during a compile
leads to one compile after it; a caller gets the outcome of a compile that starts after
its command. -/

namespace LiveCompile

/-- What became of a request to compile. -/
inductive Outcome where
  /-- there was nothing to compile -/
  | skipped
  | completed (compileId : Nat) (output : Shared ResolvedOutput)
  | failed (compileId : Nat) (message : String)
  deriving Inhabited, Repr

namespace Outcome

def compileId? : Outcome → Option Nat
  | skipped => none
  | completed compileId _ => some compileId
  | failed compileId _ => some compileId

/-- The output of a compile that succeeded, which is shared by all who are told of it. -/
def shared? : Outcome → Option (Shared ResolvedOutput)
  | completed _ output => some output
  | _ => none

def output? (outcome : Outcome) : Option ResolvedOutput := outcome.shared?.map (·.value)

end Outcome

namespace Pipeline

/-- Callers are known by the numbers of their requests. -/
inductive Command where
  | bufferChanged (path : Path)
  | compileNow (caller : Nat)
  | stop
  | status (caller : Nat)
  | cacheSize (caller : Nat)
  | clearCache (caller : Nat)
  deriving DecidableEq, Repr

structure Status where
  phase : Phase
  pending : Bool
  /-- the compile that started last -/
  lastCompileId : Option Nat
  activeFile : Option Path
  stopped : Bool
  deriving DecidableEq, Repr

/-- The compile that runs, and when it started. -/
structure Flight where
  compileId : Nat
  started : Nat
  deriving DecidableEq, Repr

inductive Effect where
  /-- the buffers were read, for a compile to start if there are any -/
  | read (files : List (Path × String))
  | publish (event : Event)
  | call (compileId : Nat) (request : CompileRequest)
  | answer (caller : Nat) (outcome : Outcome)
  | report (caller : Nat) (status : Status)
  | reportSize (caller : Nat) (size : Nat)
  | confirm (caller : Nat)
  deriving Repr

/-- What the actor handles next. -/
inductive Wake where
  | command (command : Command)
  /-- all senders of commands are gone and the inbox is empty -/
  | closed
  | deadline
  | finished (result : CompileResult)
  | event (event : Event)
  | lagged (missed : Nat)
  /-- no one can publish any more -/
  | busClosed

structure Actor where
  config : PipelineConfig
  inboxOpen : Bool := true
  /-- whether events of the editor are received -/
  listening : Bool := true
  schedule : Schedule := {}
  /-- the end of the quiet period -/
  deadline : Option Nat := none
  flight : Option Flight := none
  /-- the callers that wait for the running compile -/
  waiters : List Nat := []
  /-- the callers that wait for the compile after the running one -/
  queued : List Nat := []
  lastCompileId : Nat := 0
  activeFile : Option Path := none
  /-- the output that was resolved last, as it was handed out -/
  held : Option (Shared ResolvedOutput) := none
  stopped : Bool := false
  cache : Cache := .empty

/-- What a wake comes to before a compile is tried: the actor, the effects so far and, if a
compile is to start at once, the callers it is for. -/
structure Prepared where
  actor : Actor
  effects : List Effect := []
  callers : Option (List Nat) := none

namespace Actor

def start (config : PipelineConfig) (cache : Cache) : Actor := { config, cache }

/-- The actor goes on as long as it can get commands or a compile runs. -/
def running (actor : Actor) : Bool := actor.inboxOpen || actor.flight.isSome

def status (actor : Actor) : Status where
  phase := actor.schedule.phase
  pending := actor.schedule.pending
  lastCompileId := if actor.lastCompileId = 0 then none else some actor.lastCompileId
  activeFile := actor.activeFile
  stopped := actor.stopped

/-- The output that was resolved last. -/
def resolved (actor : Actor) : Option ResolvedOutput := actor.held.map (·.value)

/-- The file a compile starts from. -/
def entryHint (actor : Actor) : Option Path := actor.activeFile.orElse fun _ => actor.config.entry

/-- Starts the quiet period anew. -/
def debounce (now : Nat) (actor : Actor) : Actor :=
  { actor with deadline := some (now + actor.config.debounce) }

/-- Notes a change. -/
def trigger (now : Nat) (actor : Actor) : Actor :=
  match actor.schedule.trigger with
  | (.debounce, schedule) => { actor with schedule }.debounce now
  | (.deferred, schedule) => { actor with schedule }

/-- Starts a compile of the given files. Tells whether there was something to compile. -/
def beginCompile (now : Nat) (files : List (Path × String)) (actor : Actor) :
    Bool × Actor × List Effect :=
  if files.isEmpty then (false, { actor with schedule := actor.schedule.skip }, [.read files])
  else
    match actor.schedule.begin with
    | (false, _) => (false, actor, [.read files])
    | (true, schedule) =>
      let compileId := actor.lastCompileId + 1
      (true,
        { actor with schedule, lastCompileId := compileId, flight := some ⟨compileId, now⟩ },
        [.read files, .publish (.compilerStarted compileId now files.length),
          .call compileId ⟨files, actor.entryHint⟩])

/-- Compiles for some callers at once; they wait for the compile or are told that there is
nothing to compile. -/
def compileFor (now : Nat) (files : List (Path × String)) (callers : List Nat) (actor : Actor) :
    Actor × List Effect :=
  match { actor with deadline := none }.beginCompile now files with
  | (true, actor, effects) => ({ actor with waiters := actor.waiters ++ callers }, effects)
  | (false, actor, effects) => (actor, effects ++ callers.map (.answer · .skipped))

/-- During a compile the caller waits for the next one, else for one that starts at once. -/
def compileNow (caller : Nat) (actor : Actor) : Prepared :=
  if actor.flight.isSome then
    { actor := { actor with
        schedule := actor.schedule.trigger.2, queued := actor.queued ++ [caller] } }
  else { actor, callers := some [caller] }

/-- Gives up what is scheduled and ignores further changes. A running compile goes on. -/
def stop (actor : Actor) : Actor :=
  if actor.stopped then actor
  else { actor with
    stopped := true, deadline := none, schedule := actor.schedule.cancel, listening := false }

def handle (now : Nat) (actor : Actor) : Command → Prepared
  | .bufferChanged _ => { actor := if actor.stopped then actor else actor.trigger now }
  | .compileNow caller => actor.compileNow caller
  | .stop => { actor := actor.stop }
  | .status caller => { actor, effects := [.report caller actor.status] }
  | .cacheSize caller => { actor, effects := [.reportSize caller actor.cache.size] }
  | .clearCache caller =>
    { actor := { actor with cache := actor.cache.clear }, effects := [.confirm caller] }

/-- A source file that the editor shows becomes the file to start from. -/
def showFile (now : Nat) (path : Path) (actor : Actor) : Actor :=
  if path.isSource actor.config.extensions then { actor with activeFile := some path }.trigger now
  else actor

/-- The outcome of a compile: an output is resolved, a failure leaves everything as it is. Each
resolved output is a value of its own, known by the number of its compile. -/
def conclude (now : Nat) (flight : Flight) (result : CompileResult) (actor : Actor) :
    Outcome × Actor × Event :=
  match result with
  | .ok output =>
    let (resolved, cache) := actor.cache.resolve output
    let shared : Shared ResolvedOutput := ⟨flight.compileId, resolved⟩
    (.completed flight.compileId shared, { actor with cache, held := some shared },
      .compilerCompleted flight.compileId (.ofNat (now - flight.started)) output.chunkHashes
        (.ofCounts resolved.worldCounts))
  | .error failure =>
    (.failed flight.compileId failure.message, actor,
      .compilerError flight.compileId failure.message)

/-- Goes on after a compile: callers that came meanwhile are served at once, a change that
came meanwhile waits for the quiet period. -/
def followUp (now : Nat) (actor : Actor) : Prepared :=
  let (owed, schedule) := actor.schedule.finish
  let actor := { actor with schedule }
  if actor.queued.isEmpty then { actor := if owed then actor.debounce now else actor }
  else { actor := { actor with queued := [] }, callers := some actor.queued }

/-- Ends the running compile. -/
def finish (now : Nat) (result : CompileResult) (actor : Actor) : Prepared :=
  match actor.flight with
  | none => { actor }
  | some flight =>
    let (outcome, concluded, event) := { actor with flight := none }.conclude now flight result
    { { concluded with waiters := [] }.followUp now with
      effects := .publish event :: actor.waiters.map (.answer · outcome) }

/-- Does what a wake asks for, except for starting a compile. -/
def prepare (now : Nat) (actor : Actor) : Wake → Prepared
  | .command command => actor.handle now command
  | .closed => { actor := { actor with inboxOpen := false }.stop }
  | .deadline => { actor, callers := some [] }
  | .finished result => actor.finish now result
  | .event (.activeFileChanged path) => { actor := actor.showFile now path }
  | .event _ => { actor }
  | .lagged _ => { actor }
  | .busClosed => { actor := { actor with listening := false } }

/-- Handles a wake at a time, with the buffers as they are at that time. They are read only
if a compile is to start. -/
def step (now : Nat) (files : List (Path × String)) (actor : Actor) (wake : Wake) :
    Actor × List Effect :=
  let prepared := actor.prepare now wake
  match prepared.callers with
  | none => (prepared.actor, prepared.effects)
  | some callers =>
    let (actor, effects) := prepared.actor.compileFor now files callers
    (actor, prepared.effects ++ effects)

end Actor

end Pipeline

end LiveCompile
