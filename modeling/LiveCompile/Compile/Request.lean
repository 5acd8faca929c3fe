import LiveCompile.Output
import LiveCompile.Path

/-! What a compiler is asked to compile: the text of every buffer, in the order of the
paths, and the file to start from. An external compiler gets it as a JSON document. -/

namespace LiveCompile

structure CompileRequest where
  files : List (Path × String)
  entry : Option Path := none
  deriving DecidableEq, Repr, Inhabited

namespace CompileRequest

def inputFileCount (request : CompileRequest) : Nat := request.files.length

/-- The document `{"files": …, "entry": …}`; every path must be text. -/
def toJson? (request : CompileRequest) : Option Json := do
  let files ← request.files.mapM fun (path, content) =>
    path.text?.map fun text => (text, Json.string content)
  match request.entry with
  | none => return .object [("files", .object files)]
  | some entry => return .object [("files", .object files), ("entry", .string (← entry.text?))]

end CompileRequest

end LiveCompile
