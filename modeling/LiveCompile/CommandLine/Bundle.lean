import LiveCompile.CommandLine.Run
import LiveCompile.Json.Record

/-! The surroundings of a call as one JSON record: the files by their absolute paths, the
directory the call runs in, and what it gets on its input. Every part may be missing. -/

namespace LiveCompile.CommandLine

namespace Surroundings

/-- The names that a path leads through, without regard to what is there. -/
def names (path : String) : List FileName :=
  (Path.ofText path).components.filterMap fun
    | .normal name => some name
    | _ => none

def ofDocument? (document : Document) : Option Surroundings := do
  let fields ← document.recordMembers? ["files", "directory", "input"]
  let files ← Document.fieldOr? fields "files" [] Document.members?
  let directory ← Document.fieldOr? fields "directory" "" Document.string?
  let input ← Document.fieldOr? fields "input" "" Document.string?
  let tree ← files.foldlM (fun (tree : FileTree) (path, content) => do
    return tree.write (names path) (← content.string?).toUTF8.toList) {}
  let view : FileView := { tree := tree.makeDirectory (names directory), origin := names directory }
  return ⟨view, input.toUTF8.toList⟩

def ofText? (text : String) : Option Surroundings := do ofDocument? (← Document.read? text)

end Surroundings

end LiveCompile.CommandLine
