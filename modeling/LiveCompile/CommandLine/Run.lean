import LiveCompile.CommandLine.Arguments
import LiveCompile.CommandLine.Report
import LiveCompile.Project
import LiveCompile.Session

/-! The commands: one compile of a project, the replay of saved compiler outputs through a
cache, and a session that an editor drives through the standard input. -/

namespace LiveCompile.CommandLine

/-- What a call leaves: its exit code and the lines of its two outputs. -/
structure Finished where
  code : Nat := 0
  output : List String := []
  complaints : List String := []
  deriving DecidableEq, Repr

/-- Where a call runs: the files it sees from its directory, and its input. -/
structure Surroundings where
  view : FileView
  input : List UInt8 := []

/-- Why a command gives up. -/
inductive Failure where
  | project (error : ProjectError)
  | invalidOutput (file : Path)
  | input
  deriving DecidableEq, Repr

def Failure.message : Failure → String
  | project error => error.message
  | invalidOutput file => "invalid compiler output in " ++ file.display ++ ": "
  | input => "stream did not contain valid UTF-8"

def versionLine : String := "loom 0.1.0"

def Failure.finished (failure : Failure) : Finished :=
  { code := 1, complaints := ["error: " ++ failure.message] }

/-- A project that is ready to compile. -/
structure Opened where
  root : Path
  config : Config
  compiler : CompilerCommand

/-- Finds the project and reads its configuration, which must name a compiler. -/
def open? (view : FileView) (config : Option Path) : Except ProjectError Opened := do
  let root ← Project.root view config
  let loaded ← (Project.loadConfig view config root).mapError ProjectError.config
  let compiler ← (Project.compiler root loaded).mapError ProjectError.config
  return ⟨root, loaded, compiler⟩

/-- The bus of a project. -/
def Opened.bus (opened : Opened) : EventBus := (EventBus.new? opened.config.capacity).getD default

def eventLines (events : List Event) : List String :=
  events.filterMap fun event => event.toJson?.map Json.text

/-- The line that announces a compile. -/
def announcement (config : Config) : String :=
  "   Compiling " ++ config.name ++ match config.version with
    | some version => " v" ++ version
    | none => ""

/-- The exit code and the lines of a compile that has sources. -/
def compileReport (quiet : Bool) (format : ReportFormat) (report : Pipeline.Report) : Finished :=
  match format with
  | .text =>
    { code := report.outcome.exitCode
      complaints := if quiet then [] else outcomeLines report.outcome }
  | .json => { code := report.outcome.exitCode, output := eventLines report.events }

def compile (view : FileView) (quiet : Bool) (config : Option Path) (format : ReportFormat) :
    Finished :=
  match open? view config with
  | .error error => (Failure.project error).finished
  | .ok opened =>
    let announced := if !quiet && format = .text then [announcement opened.config] else []
    let finished : Finished := match Project.loadBuffers view opened.root opened.config with
      | .error error => (Failure.project error).finished
      | .ok map =>
        if map.isEmpty then
          let sources := (opened.config.sourcePath opened.root).display
          { complaints := if quiet then [] else ["warning: no source files found in " ++ sources] }
        else
          match Pipeline.compileOnce? map (opened.compiler.toCompiler view) opened.bus
              opened.config.pipelineConfig with
          | some report => compileReport quiet format report
          | none => {}
    { finished with complaints := announced ++ finished.complaints }

/-- Reads saved outputs up to the first that cannot be read. -/
def readOutputs (view : FileView) (files : List Path) :
    Except Failure (List (Path × CompilerOutput)) :=
  files.mapM fun file =>
    match view.readText file with
    | .error error => .error (.project (.unreadable file error))
    | .ok text =>
      match CompilerOutput.ofText? text with
      | some output => .ok (file, output)
      | none => .error (.invalidOutput file)

/-- Resolves outputs in turn with one cache. -/
def replay (quiet : Bool) (format : ReportFormat) :
    List (Path × CompilerOutput) → Cache → Finished → Finished
  | [], _, finished => finished
  | (file, output) :: rest, cache, finished =>
    let (resolved, cache) := cache.resolve output
    let code := if resolved.hasErrors then 1 else finished.code
    replay quiet format rest cache <| match format with
      | .text =>
        let lines := if quiet then [] else resolvedLines file resolved cache.size
        { finished with code, complaints := finished.complaints ++ lines }
      | .json =>
        let lines := (resolvedRecord? file resolved cache.size).toList.map Json.text
        { finished with code, output := finished.output ++ lines }

def resolve (view : FileView) (quiet : Bool) (files : List Path) (format : ReportFormat) :
    Finished :=
  match readOutputs view files with
  | .error failure => failure.finished
  | .ok outputs => replay quiet format outputs .empty {}

def session (surroundings : Surroundings) (config : Option Path) (debounce : Option Nat)
    (noLoad : Bool) : Finished :=
  let view := surroundings.view
  match open? view config with
  | .error error => (Failure.project error).finished
  | .ok opened =>
    match if noLoad then .ok .empty else Project.loadBuffers view opened.root opened.config with
    | .error error => (Failure.project error).finished
    | .ok map =>
      let settings := opened.config.pipelineConfig
      let session := (Session.start map (opened.compiler.toCompiler view) opened.bus
        { settings with debounce := debounce.getD settings.debounce }).complete
          [.octets surroundings.input]
      match session.printed? with
      | some events => { output := eventLines events }
      | none => Failure.input.finished

/-- Runs what the arguments ask for; nothing if they are not understood. -/
def run? (surroundings : Surroundings) (arguments : List String) : Option Finished :=
  (Invocation.ofArguments? arguments).map fun
    | .version => { output := [versionLine] }
    | .run quiet _ config (.compile format) => compile surroundings.view quiet config format
    | .run quiet _ _ (.resolve files format) => resolve surroundings.view quiet files format
    | .run _ _ config (.session debounce noLoad) => session surroundings config debounce noLoad

end LiveCompile.CommandLine
