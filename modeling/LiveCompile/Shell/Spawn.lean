import LiveCompile.Shell.Run

/-! Starting a program from outside of a shell. -/

namespace LiveCompile.Shell

/-- How deep the calls of a program may go. -/
def depthOfCalls : Nat := 1000000

/-- The variables that a program gets. -/
def givenVariables : List (Chars × Variable) :=
  [("PATH", "/usr/local/sbin:/usr/local/bin:/usr/sbin:/usr/bin:/sbin:/bin"), ("HOME", "/root")].map
    fun (name, value) => (chars name, { value := some (chars value), exported := true })

/-- What a program starts with: the input, and sinks for what it writes. -/
def startState (view : FileView) (input : Chars) : State :=
  let state : State := { view, name := chars "sh", bindings := givenVariables }
  let (source, state) := state.addSource input false
  let (output, state) := state.addSink
  let (complaints, state) := state.addSink
  { state with descriptors := [(0, source), (1, .sink output), (2, .sink complaints)] }

def State.ending (state : State) : Ending :=
  match state.flow with
  | .killed signal => .signalled signal
  | _ => .exited (state.status % 256)

/-- What was written to a descriptor that was a sink from the start. -/
def State.written (start state : State) (descriptor : Nat) : List UInt8 :=
  match start.endpoint? descriptor with
  | some (.sink number) => octetsOf (state.collected number)
  | _ => []

/-- Runs a program with its arguments and its input, or tells why it cannot start. -/
def spawn (view : FileView) (command : String) (arguments : List String) (input : List UInt8) :
    Except FileError Ended :=
  let start := startState view (charsOf input)
  match command.isEmpty, Lookup.ofName view start.searchPath (chars command) with
  | true, _ => .error .notFound
  | _, .refused error => .error error
  | _, _ =>
    let refuse (state : State) (_ : FileError) : State := state
    let state := runProgram depthOfCalls true start refuse (chars command) (arguments.map chars)
    .ok ⟨start.written state 1, start.written state 2, state.ending, state.view.tree⟩

end LiveCompile.Shell
