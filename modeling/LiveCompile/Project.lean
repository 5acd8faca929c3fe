import LiveCompile.Buffer.Map
import LiveCompile.Compile.External
import LiveCompile.Config

/-! A project on disk: its root is the directory with the configuration file, its sources
are the files with a source extension below the source directory. -/

namespace LiveCompile

/-- Why a project cannot be worked on. -/
inductive ProjectError where
  | noRoot (start : Path)
  | config (error : ConfigError)
  | unreadable (path : Path) (error : FileError)
  | discovery (error : FileError)
  deriving DecidableEq, Repr

def configFileName : String := "loom.toml"

def ProjectError.message : ProjectError → String
  | noRoot start =>
    "could not find " ++ configFileName ++ " in " ++ start.display ++ " or any parent directory"
  | config error => error.message
  | unreadable path error => "cannot read " ++ path.display ++ ": " ++ error.message
  | discovery error => error.message

/-- A path and the paths above it; the first argument bounds their number. -/
def Path.withParents : Nat → Path → List Path
  | 0, path => [path]
  | count + 1, path =>
    match path.parent? with
    | none => [path]
    | some parent => path :: withParents count parent

namespace Project

/-- The nearest directory, from a start upwards, that has a configuration file. -/
def findRoot (view : FileView) (start : Path) : Except ProjectError Path :=
  let candidates := start.withParents start.octets.length
  match candidates.find? fun path => view.found (path.join (Path.ofText configFileName)) with
  | some root => .ok root
  | none => .error (.noRoot start)

/-- The root that a configured path stands for: the path itself, or the directory of the
file that it names. -/
def rootOfConfig (view : FileView) (config : Path) : Path :=
  if view.isFile config then
    match config.parent? with
    | some parent => if parent.octets.isEmpty then Path.ofText "." else parent
    | none => Path.ofText "."
  else config

/-- The root, from the configured path or from the directory of the view. -/
def root (view : FileView) (config : Option Path) : Except ProjectError Path :=
  match config with
  | some config => .ok (rootOfConfig view config)
  | none => findRoot view view.originPath

/-- The configuration, from the configured file or from the root. -/
def loadConfig (view : FileView) (config : Option Path) (root : Path) :
    Except ConfigError Config :=
  let file := match config.filter view.isFile with
    | some file => file
    | none => root.join (Path.ofText configFileName)
  match view.readText file with
  | .error error => .error (.unreadable error.message)
  | .ok text => Config.ofText text

/-- The source files below a directory, in the order of their paths. -/
def discover (view : FileView) (directory : Path) (extensions : List String) :
    Except FileError (List Path) := do
  let files ← view.filesBelow directory
  return (files.filter (·.isSource extensions)).mergeSort fun a b => (a.compare b).isLE

/-- A path as the buffer map names it. -/
def bufferPath (root path : Path) : Path := (path.relativeTo? root).getD path

/-- The buffers of a project. Without a source directory there are none. -/
def loadBuffers (view : FileView) (root : Path) (config : Config) :
    Except ProjectError BufferMap :=
  let sources := config.sourcePath root
  if !view.isDirectory sources then .ok .empty
  else
    match discover view sources config.extensions with
    | .error error => .error (.discovery error)
    | .ok paths =>
      paths.foldlM (fun map path =>
        match view.readText path with
        | .ok content => .ok (map.load (bufferPath root path) content)
        | .error error => .error (.unreadable path error)) BufferMap.empty

/-- The compiler of a project. -/
def compiler (root : Path) (config : Config) : Except ConfigError CompilerCommand := do
  let (command, arguments) ← config.compilerCommand
  return { command, arguments, directory := some root }

end Project

end LiveCompile
