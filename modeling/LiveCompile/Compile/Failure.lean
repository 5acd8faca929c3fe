import LiveCompile.Compile.Request
import LiveCompile.Shell.Signal

/-! Why a compiler gave no output, and what a call of a compiler gives. -/

namespace LiveCompile

inductive CompileFailure where
  /-- the command could not be started -/
  | spawn (command cause : String)
  /-- the exchange with the command broke off -/
  | exchange (cause : String)
  /-- the command did not end well -/
  | exitStatus (ending : Shell.Ending) (complaints : String)
  /-- the request has a path that is not text -/
  | encode
  /-- what the command wrote is no compiler output -/
  | decode
  /-- the compiler itself reports a failure -/
  | reported (message : String)
  /-- the compiler broke down, with a message if there is one -/
  | panicked (message : Option String)
  deriving DecidableEq, Repr

def CompileFailure.message : CompileFailure → String
  | spawn command cause => "failed to start compiler '" ++ command ++ "': " ++ cause
  | exchange cause => "compiler i/o error: " ++ cause
  | exitStatus ending complaints => "compiler failed (" ++ ending.message ++ "): " ++ complaints
  | encode => "failed to encode compile request: path contains invalid UTF-8 characters"
  | decode => "failed to decode compiler output: "
  | reported message => message
  | panicked message => "compiler panicked: " ++ message.getD "unknown panic"

abbrev CompileResult := Except CompileFailure CompilerOutput

/-- A reply of a compiler: the result and the milliseconds it takes. -/
structure Reply where
  delay : Nat := 0
  result : CompileResult

/-- A compiler answers its calls in turn. An answer may depend on the requests of the calls
before, which are given in order. -/
abbrev Compiler := List CompileRequest → CompileRequest → Reply

namespace Compiler

/-- A compiler that gives prepared replies and after the last one empty outputs at once. -/
def scripted (replies : List Reply) : Compiler := fun before _ =>
  replies.getD before.length ⟨0, .ok {}⟩

end Compiler

end LiveCompile
