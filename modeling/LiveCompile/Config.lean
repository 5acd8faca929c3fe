import LiveCompile.Toml.Document
import LiveCompile.Path.Join
import LiveCompile.Text.Blank

/-! The configuration of a project, read from its `loom.toml`. -/

namespace LiveCompile

/-- The settings of a recompile pipeline. Times are in milliseconds. -/
structure PipelineConfig where
  debounce : Nat := 150
  /-- the file to start from when the editor shows none -/
  entry : Option Path := none
  extensions : List String := defaultExtensions
  deriving DecidableEq, Repr, Inhabited

structure Config where
  name : String
  version : Option String := none
  entry : Option String := none
  sourceDir : String := "src"
  extensions : List String := defaultExtensions
  debounce : Nat := 150
  command : Option String := none
  args : List String := []
  capacity : Nat := 256
  deriving DecidableEq, Repr, Inhabited

/-- Why there is no configuration. -/
inductive ConfigError where
  /-- the file could not be read; the cause is that of the file system -/
  | unreadable (cause : String)
  | malformed
  | missingField (field : String)
  | noExtension
  | invalidExtension (extension : String)
  | noCapacity
  deriving DecidableEq, Repr

def ConfigError.message : ConfigError → String
  | unreadable cause => "failed to read configuration: " ++ cause
  | malformed => "failed to parse configuration: "
  | missingField field => "missing required field: " ++ field
  | noExtension => "validation error: sources.extensions must list at least one extension"
  | invalidExtension extension => "validation error: invalid source extension '" ++ extension ++ "'"
  | noCapacity => "validation error: events.capacity must be positive"

namespace Config

open Toml

/-- The fields of the `project` table. -/
def ofEntries? (root : Entries) : Option Config := do
  let section? (name : String) (names : List String) (least : Nat) : Option Entries :=
    root.fieldOr? name [] (Value.record? names least)
  let project ← root.field? "project" (Value.record? ["name", "version", "entry"] 1)
  let sources ← section? "sources" ["dir", "extensions"] 0
  let pipeline ← section? "pipeline" ["debounce_ms"] 0
  let compiler ← section? "compiler" ["command", "args"] 1
  let events ← section? "events" ["capacity"] 0
  let optional (value : Value) : Option (Option String) := value.text?.map some
  return {
    name := ← project.field? "name" Value.text?
    version := ← project.fieldOr? "version" none optional
    entry := ← project.fieldOr? "entry" none optional
    sourceDir := ← sources.fieldOr? "dir" "src" Value.text?
    extensions := ← sources.fieldOr? "extensions" defaultExtensions (Value.list? Value.text?)
    debounce := ← pipeline.fieldOr? "debounce_ms" 150 Value.natural?
    command := ← compiler.fieldOr? "command" none optional
    args := ← compiler.fieldOr? "args" [] (Value.list? Value.text?)
    capacity := ← events.fieldOr? "capacity" 256 Value.natural? }

/-- The first thing that is wrong with a configuration. -/
def fault? (config : Config) : Option ConfigError :=
  if config.name.isEmpty then some (.missingField "project.name")
  else if config.extensions.isEmpty then some .noExtension
  else
    match config.extensions.find? fun extension => (bareExtension extension).isEmpty with
    | some extension => some (.invalidExtension extension)
    | none =>
      if config.capacity = 0 then some .noCapacity
      else if config.command.any fun command => (trimmed command).isEmpty then
        some (.missingField "compiler.command")
      else none

/-- The configuration of a text. -/
def ofText (text : String) : Except ConfigError Config :=
  match (Toml.read? text).bind ofEntries? with
  | none => .error .malformed
  | some config =>
    match config.fault? with
    | some fault => .error fault
    | none => .ok config

/-- The directory of the sources of a project with the given root. -/
def sourcePath (config : Config) (root : Path) : Path := root.join (Path.ofText config.sourceDir)

def pipelineConfig (config : Config) : PipelineConfig where
  debounce := config.debounce
  entry := config.entry.map Path.ofText
  extensions := config.extensions

/-- The command of the compiler with its arguments, which commands that compile need. -/
def compilerCommand (config : Config) : Except ConfigError (String × List String) :=
  match config.command with
  | none => .error (.missingField "compiler.command")
  | some command => .ok (command, config.args)

end Config

end LiveCompile
