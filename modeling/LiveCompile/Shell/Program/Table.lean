import LiveCompile.Shell.Program.Expr
import LiveCompile.Shell.Program.Grep
import LiveCompile.Shell.Program.Sed
import LiveCompile.Shell.Program.Sequence
import LiveCompile.Shell.Program.Sorting
import LiveCompile.Shell.Program.Columns
import LiveCompile.Shell.Program.Copy
import LiveCompile.Shell.Program.Count
import LiveCompile.Shell.Program.Ends
import LiveCompile.Shell.Program.Machine
import LiveCompile.Shell.Program.Octets
import LiveCompile.Shell.Program.Place
import LiveCompile.Shell.Program.Test
import LiveCompile.Shell.Program.Translate

/-! The programs of a machine by their names, and those that the shell has built in. -/

namespace LiveCompile.Shell

/-- Programs that stand alone. -/
def programs : List (String × Program) :=
  [("cat", cat), ("echo", echo), ("printf", printf), ("pwd", pwd), ("true", ends 0),
    ("false", ends 1), ("sleep", sleep), ("sync", ends 0), ("yes", yes), ("tty", tty),
    ("test", test false "']'"), ("[", test true "']'"), ("wc", wc), ("head", head), ("tail", tail),
    ("cut", cut), ("tr", tr), ("sort", sort), ("uniq", uniq), ("seq", seq), ("rev", rev),
    ("tac", tac), ("nl", nl), ("grep", grep none), ("egrep", grep (some 'E')),
    ("fgrep", grep (some 'F')), ("sed", sed), ("touch", touch), ("mkdir", mkdir), ("rm", rm),
    ("rmdir", rmdir), ("cp", cp), ("mv", mv), ("chmod", chmod), ("tee", tee), ("ls", ls),
    ("basename", basename), ("dirname", dirname), ("printenv", printenv), ("expr", expr),
    ("base64", base64), ("fold", fold), ("od", od), ("realpath", realpath),
    ("readlink", readlink), ("cmp", cmp), ("find", find), ("whoami", whoami), ("id", identity),
    ("uname", uname)]

/-- Programs that run or look for others. -/
def runners : List String :=
  ["sh", "dash", "bash", "env", "xargs", "nice", "nohup", "timeout", "setsid", "which",
    "awk", "mawk"]

def program? (name : Chars) : Option Program :=
  (programs.find? fun (other, _) => other.toList = name).map (·.2)

/-- Programs that are part of the shell and leave it as it is. -/
def builtins : List (String × Program) :=
  [("echo", builtinEcho), ("printf", builtinPrintf), ("pwd", pwd), ("true", ends 0),
    ("false", ends 1), ("test", test false "]"), ("[", test true "]")]

/-- Those that the extended shell has in another way. -/
def extendedBuiltins : List (String × Program) :=
  [("echo", extendedEcho), ("printf", extendedPrintf), ("test", extendedTest false),
    ("[", extendedTest true)]

def builtin? (dialect : Dialect) (name : Chars) : Option Program :=
  let known := match dialect with
    | .plain => builtins
    | .extended => extendedBuiltins ++ builtins
  (known.find? fun (other, _) => other.toList = name).map (·.2)

/-- The directories where programs are looked for. -/
def programDirectories : List String := ["/usr/bin", "/bin"]

/-- Files of a machine that are no programs. -/
def systemFiles : List String :=
  ["/etc/passwd", "/etc/group", "/etc/hosts", "/etc/hostname", "/etc/os-release",
    "/etc/resolv.conf",
    "/etc/fstab", "/etc/shadow"]

/-- A machine: its directories, its devices, and its programs as files. -/
def machine : FileTree :=
  let place (path : String) : List FileName := (Path.ofText path).parts
  let programPlaces := programDirectories.flatMap fun directory =>
    (programs.map (·.1) ++ runners).map fun name => place (directory ++ "/" ++ name)
  { directories := ["/boot", "/dev/shm", "/home", "/lib", "/media", "/mnt", "/opt", "/proc",
      "/root",
      "/run", "/sbin", "/srv", "/sys", "/tmp", "/usr/lib", "/usr/local/bin", "/usr/local/sbin",
      "/usr/sbin", "/usr/share", "/var/lib", "/var/log", "/var/tmp"].map place
    devices := ["/dev/null", "/dev/zero", "/dev/full", "/dev/random", "/dev/urandom", "/dev/tty",
      "/dev/stdin", "/dev/stdout", "/dev/stderr"].map place
    files := (systemFiles.map fun path => (place path, [])) ++
      programPlaces.map fun place => (place, [])
    modes := programPlaces.map fun place => (place, 0o755) }

end LiveCompile.Shell
