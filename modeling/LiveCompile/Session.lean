import LiveCompile.Pipeline.Once
import LiveCompile.SessionCommand

/-! A session: an editor writes commands to a pipeline, a record on each line, and gets
every event of the bus. Commands are carried out in the order of their lines; a request to
compile holds up the lines after it until it is answered. Lines that are blank or no
command are passed over. The session ends with a `stop`, with the input, or at a line that
is not text. -/

namespace LiveCompile

open Pipeline

/-- What comes from the editor, and when. -/
inductive SessionInput where
  | octets (octets : List UInt8)
  | wait (time : Nat)
  deriving Repr

inductive SessionState where
  /-- commands are read -/
  | reading
  /-- a caller waits for its answer -/
  | waiting (caller : Nat)
  | ended
  /-- a line was not text -/
  | broken
  deriving DecidableEq, Repr

structure Session where
  line : Timeline
  /-- input that is not yet read -/
  unread : List UInt8 := []
  /-- whether more input may come -/
  inputOpen : Bool := true
  state : SessionState := .reading
  /-- the number of the next caller -/
  nextCaller : Nat := 0

namespace Session

/-- A session on loaded buffers. -/
def start (map : BufferMap) (compiler : Compiler) (bus : EventBus) (config : PipelineConfig) :
    Session :=
  let (observer, bus) := bus.subscribe
  { line := { Timeline.start { map } compiler bus config with observer := some observer } }

def newline : UInt8 := 10

/-- The octets before the first newline and after it. -/
def splitLine? : List UInt8 → Option (List UInt8 × List UInt8)
  | [] => none
  | octet :: rest =>
    if octet = newline then some ([], rest)
    else (splitLine? rest).map fun (line, rest) => (octet :: line, rest)

/-- The next line; what is left at the end of the input is a line too. -/
def nextLine? (session : Session) : Option (List UInt8 × Session) :=
  match splitLine? session.unread with
  | some (line, rest) => some (line, { session with unread := rest })
  | none =>
    if session.inputOpen || session.unread.isEmpty then none
    else some (session.unread, { session with unread := [] })

/-- The command on a line of text, if it is one. -/
def command? (text : String) : Option SessionCommand :=
  let text := trimmed text
  if text.isEmpty then none else SessionCommand.ofText? text

/-- Ends the reading and gives up the pipeline. -/
def close (state : SessionState) (session : Session) : Session :=
  { session with line := session.line.release, state }

def carryOut (session : Session) : SessionCommand → Session
  | .set path content => { session with line := session.line.operate (.set path content) }
  | .remove path => { session with line := session.line.operate (.remove path) }
  | .activeFile path => { session with line := session.line.publish (.activeFileChanged path) }
  | .compileNow => { session with
      line := session.line.send (.compileNow session.nextCaller)
      state := .waiting session.nextCaller
      nextCaller := session.nextCaller + 1 }
  | .stop => { session with line := session.line.stop }.close .ended

def readLine (session : Session) (line : List UInt8) : Session :=
  match String.fromUTF8? ⟨line.toArray⟩ with
  | none => session.close .broken
  | some text =>
    match command? text with
    | none => session
    | some command => session.carryOut command

/-- Reads lines until the session waits, ends, or has no line to read. -/
def readLines : Nat → Session → Session
  | 0, session => session
  | lines + 1, session =>
    match session.state with
    | .reading =>
      match session.nextLine? with
      | some (line, session) => readLines lines (session.readLine line)
      | none => if session.inputOpen then session else session.close .ended
    | _ => session

/-- Goes on reading if the answer that was waited for is there. -/
def resume (session : Session) : Session :=
  match session.state with
  | .waiting caller =>
    if (session.line.answer? caller).isSome then { session with state := .reading } else session
  | _ => session

/-- Reads and settles in turn until neither gets on. -/
def run : Nat → Session → Session
  | 0, session => session
  | turns + 1, session =>
    let session := readLines (session.unread.length + 2) session
    let session := { session with line := session.line.settle }
    let resumed := session.resume
    if resumed.state = session.state then session else run turns resumed

/-- Runs until nothing is ready at this time. A turn that goes on has read a line. -/
def settle (session : Session) : Session := session.run (session.unread.length + 2)

/-- Lets time pass; the first argument bounds the number of timers. -/
def runTo : Nat → Nat → Session → Session
  | 0, limit, session => { session with line := { session.line with now := limit } }
  | jumps + 1, limit, session =>
    match session.line.jump? limit with
    | none => { session with line := { session.line with now := max session.line.now limit } }
    | some line => runTo jumps limit { session with line }.settle

/-- How many timers there can be: a few for each line and for each command that is due. -/
def workload (session : Session) : Nat := 4 * session.unread.length + session.line.workload

def feed (session : Session) (input : SessionInput) : Session :=
  let session := session.settle
  match input with
  | .octets octets => { session with unread := session.unread ++ octets }
  | .wait time => runTo session.workload (session.line.now + time) session

/-- Runs until the session is over; the first argument bounds the number of timers. -/
def runOut : Nat → Session → Session
  | 0, session => session
  | jumps + 1, session =>
    match session.state with
    | .ended => session
    | .broken => session
    | _ =>
      match session.line.timer? with
      | none => session
      | some due =>
        let line := { session.line with now := max session.line.now due }
        runOut jumps { session with line }.settle

/-- Ends the input, lets the session come to its end and shuts the pipeline down. -/
def finish (session : Session) : Session :=
  let session := { session.settle with inputOpen := false }.settle
  let session := runOut session.workload session
  { session with line := session.line.shutdown }

/-- A whole session. -/
def complete (session : Session) (inputs : List SessionInput) : Session :=
  (inputs.foldl feed session).finish

/-- Every event the editor gets, in order; nothing if a line was not text. -/
def printed? (session : Session) : Option (List Event) :=
  if session.state = .broken then none
  else some (session.line.seen.filterMap fun (_, reception) => received? reception)

end Session

end LiveCompile
