import LiveCompile.Compile.Failure
import LiveCompile.Text.Blank

/-! A compiler that is a command. It gets the request as JSON on its input and writes a
compiler output. Whether it reads its input does not matter, nor what it complains about if
it ends with code zero. -/

namespace LiveCompile

/-- A command with its arguments and the directory it runs in. -/
structure CompilerCommand where
  command : String
  arguments : List String := []
  directory : Option Path := none
  deriving DecidableEq, Repr

namespace CompilerCommand

/-- The result that an ended command stands for. -/
def resultOf (ended : Shell.Ended) : CompileResult :=
  if !ended.ending.isSuccess then
    .error (.exitStatus ended.ending (trimmed (lossyText ended.complaints)))
  else
    match CompilerOutput.ofOctets? ended.output with
    | some output => .ok output
    | none => .error .decode

/-- Has the command started with the document for a request, and gives the files after it too.
Without a document nothing is started. -/
def callWith {m : Type → Type} [Monad m] (compiler : CompilerCommand)
    (start : List UInt8 → m (Except String Shell.Ended)) (tree : FileTree)
    (request : CompileRequest) : m (CompileResult × FileTree) :=
  match request.toJson? with
  | none => pure (.error .encode, tree)
  | some document => do
    match ← start document.text.toUTF8.toList with
    | .ok ended => pure (resultOf ended, ended.tree)
    | .error cause => pure (.error (.spawn compiler.command cause), tree)

end CompilerCommand

end LiveCompile
