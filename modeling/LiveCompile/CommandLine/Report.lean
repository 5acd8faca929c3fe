import LiveCompile.Cache
import LiveCompile.Event
import LiveCompile.Pipeline.Actor

/-! What the commands report about compiles and resolved outputs, line by line. -/

namespace LiveCompile.CommandLine

/-- The lines about the outcome of a compile. -/
def outcomeLines : Outcome → List String
  | .skipped => ["   Nothing to compile"]
  | .failed _ message => ["error: " ++ message]
  | .completed _ output =>
    let counts := output.value.worldCounts
    let diagnostics := output.value.diagnostics
    diagnostics.items.map Diagnostic.rendered ++
      ["   World: " ++ toString counts.entities ++ " entities, " ++ toString counts.locations
          ++ " locations, " ++ toString counts.exits ++ " exits",
        "   Result: " ++ toString diagnostics.errorCount ++ " error(s), "
          ++ toString (diagnostics.count .warning) ++ " warning(s)"]

/-- A text with blanks after it up to a width. -/
def padded (width : Nat) (text : String) : String :=
  text ++ String.ofList (List.replicate (width - text.length) ' ')

/-- The lines about an output that was resolved. -/
def resolvedLines (file : Path) (output : ResolvedOutput) (cacheSize : Nat) : List String :=
  ("   Resolved " ++ file.display ++ " (compile " ++ output.header.compileId ++ ")")
    :: output.provenance.toList.map (fun (name, how) =>
      "     " ++ padded 24 name.text ++ " " ++ how.text)
    ++ ["   Cache: " ++ toString cacheSize ++ " chunk(s)"]

/-- The record about an output that was resolved; the file's path must be text. -/
def resolvedRecord? (file : Path) (output : ResolvedOutput) (cacheSize : Nat) : Option Json :=
  file.text?.map fun text => .object
    [("file", .string text), ("compileId", .string output.header.compileId),
      ("provenance", .object (output.provenance.toList.map fun (name, how) =>
        (name.text, .string how.text))),
      ("cacheSize", Json.nat cacheSize),
      ("worldCounts", (WorldSummary.ofCounts output.worldCounts).toJson)]

end LiveCompile.CommandLine
