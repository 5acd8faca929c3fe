import LiveCompile.Event

/-! The commands an editor sends to a session, one JSON record on a line. -/

namespace LiveCompile

inductive SessionCommand where
  /-- replace the text of a buffer -/
  | set (path : Path) (content : String)
  | remove (path : Path)
  /-- the editor shows a file -/
  | activeFile (path : Path)
  | compileNow
  | stop
  deriving DecidableEq, Repr

namespace SessionCommand

/-- The fields of each kind of command. -/
def fieldNames : String → Option (List String)
  | "set" => some ["path", "content"]
  | "remove" => some ["path"]
  | "activeFile" => some ["path"]
  | "compileNow" => some []
  | "stop" => some []
  | _ => none

def ofDocument? (document : Document) : Option SessionCommand := do
  let (kind, fields) ← document.tagged? "op" fieldNames
  let path := Document.field? fields "path" Event.path?
  match kind with
  | "set" => return .set (← path) (← Document.field? fields "content" Document.string?)
  | "remove" => return .remove (← path)
  | "activeFile" => return .activeFile (← path)
  | "compileNow" => return .compileNow
  | "stop" => return .stop
  | _ => none

def ofText? (text : String) : Option SessionCommand := do ofDocument? (← Document.read? text)

end SessionCommand

end LiveCompile
