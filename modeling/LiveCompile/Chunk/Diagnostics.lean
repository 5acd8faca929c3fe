import LiveCompile.Chunk.SyntaxTree

/-! What the compiler reports about the sources, and the line a report is shown as. -/

namespace LiveCompile

inductive Severity where
  | error
  | warning
  | info
  | hint
  deriving DecidableEq, Repr, Inhabited

namespace Severity

def all : List Severity := [error, warning, info, hint]

def text : Severity → String
  | error => "error"
  | warning => "warning"
  | info => "info"
  | hint => "hint"

def ofDocument? (document : Document) : Option Severity := do
  let label ← document.label?
  all.find? (·.text == label)

end Severity

structure Diagnostic where
  severity : Severity
  message : String
  code : Option String
  file : Option String
  line : Option Nat
  column : Option Nat
  deriving Inhabited, DecidableEq, Repr

/-- Reports in the order of their emission. -/
structure Diagnostics where
  items : List Diagnostic
  deriving Inhabited, DecidableEq, Repr

namespace Diagnostic

def fieldNames : List String := ["severity", "message", "code", "file", "line", "column"]

def ofDocument? (document : Document) : Option Diagnostic := do
  let fields ← document.recordMembers? fieldNames
  return {
    severity := ← Document.fieldOr? fields "severity" .info Severity.ofDocument?
    message := ← Document.fieldOr? fields "message" "" Document.string?
    code := ← Document.fieldOr? fields "code" none (Document.nullable? Document.string?)
    file := ← Document.fieldOr? fields "file" none (Document.nullable? Document.string?)
    line := ← Document.fieldOr? fields "line" none
      (Document.nullable? (Document.natUpTo? maxPosition))
    column := ← Document.fieldOr? fields "column" none
      (Document.nullable? (Document.natUpTo? maxPosition)) }

def toJson (diagnostic : Diagnostic) : Json := .object
  ([("severity", .string diagnostic.severity.text), ("message", .string diagnostic.message)]
    ++ Json.optionalMember "code" .string diagnostic.code
    ++ Json.optionalMember "file" .string diagnostic.file
    ++ Json.optionalMember "line" Json.nat diagnostic.line
    ++ Json.optionalMember "column" Json.nat diagnostic.column)

/-- The place of a report: its file, with the line if there is one and then the column. -/
def place (diagnostic : Diagnostic) : String :=
  match diagnostic.file, diagnostic.line, diagnostic.column with
  | none, _, _ => ""
  | some file, none, _ => file ++ ": "
  | some file, some line, none => file ++ ":" ++ toString line ++ ": "
  | some file, some line, some column =>
    file ++ ":" ++ toString line ++ ":" ++ toString column ++ ": "

/-- The line `file:line:column: severity[code]: message`. -/
def rendered (diagnostic : Diagnostic) : String :=
  let code := match diagnostic.code with
    | none => ""
    | some code => "[" ++ code ++ "]"
  diagnostic.place ++ diagnostic.severity.text ++ code ++ ": " ++ diagnostic.message

end Diagnostic

namespace Diagnostics

def empty : Diagnostics := ⟨[]⟩

/-- The list may also be called by the name of the chunk. -/
def canonicalName (name : String) : String := if name = "diagnostics" then "items" else name

def ofDocument? (document : Document) : Option Diagnostics := do
  let fields ← document.recordMembers? ["items"]
  let fields := fields.map fun (name, value) => (canonicalName name, value)
  return ⟨← Document.fieldOr? fields "items" [] (Document.list? Diagnostic.ofDocument?)⟩

def toJson (diagnostics : Diagnostics) : Json :=
  .object [("items", .array (diagnostics.items.map Diagnostic.toJson))]

def count (diagnostics : Diagnostics) (severity : Severity) : Nat :=
  (diagnostics.items.filter (·.severity = severity)).length

def errorCount (diagnostics : Diagnostics) : Nat := diagnostics.count .error

def hasErrors (diagnostics : Diagnostics) : Bool := diagnostics.errorCount > 0

end Diagnostics

end LiveCompile
