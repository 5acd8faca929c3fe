import LiveCompile.Compile.Command
import LiveCompile.Shell.Spawn

/-! A command as a compiler: how it starts, and the calls of it one after another. -/

namespace LiveCompile.CompilerCommand

/-- The view of the directory the command runs in. -/
def workingView (compiler : CompilerCommand) (view : FileView) : Except FileError FileView :=
  match compiler.directory with
  | none => .ok view
  | some directory => view.enter directory

/-- Whether a text of the command has an octet zero, which no program can be given. -/
def hasZero (compiler : CompilerCommand) : Bool :=
  let isZero (text : String) : Bool := text.contains '\x00'
  isZero compiler.command || compiler.arguments.any isZero
    || compiler.directory.any fun directory => directory.octets.contains 0

/-- Runs the command with an input, or tells why it cannot start. -/
def start (compiler : CompilerCommand) (view : FileView) (input : List UInt8) :
    Except String Shell.Ended :=
  if compiler.hasZero then .error "nul byte found in provided data"
  else
    let ended := do
      Shell.spawn (← compiler.workingView view) compiler.command compiler.arguments input
    ended.mapError FileError.message

/-- Runs the command for a request, and gives the files after it too. -/
def compile (compiler : CompilerCommand) (view : FileView) (request : CompileRequest) :
    CompileResult × FileTree :=
  compiler.callWith (m := Id) (compiler.start view) view.tree request

/-- The command as a compiler that takes no time. What its calls do to the files is there at
the calls after them. -/
def toCompiler (compiler : CompilerCommand) (view : FileView) : Compiler := fun before request =>
  let tree := before.foldl
    (fun tree request => (compiler.compile { view with tree } request).2) view.tree
  ⟨0, (compiler.compile { view with tree } request).1⟩

end LiveCompile.CompilerCommand
