import LiveCompile.Shell.Program.Basic

/-! Settings of a shell: each has a name, most a letter too, and is on or off. Arguments that
begin with a hyphen turn settings on, those that begin with a plus sign turn them off. -/

namespace LiveCompile.Shell

inductive Setting where
  /-- the shell leaves when a command fails -/
  | errexit
  /-- patterns stand for themselves -/
  | noglob
  | ignoreeof
  | interactive
  | monitor
  /-- commands are read but not run -/
  | noexec
  | stdin
  /-- commands are shown before they run -/
  | xtrace
  | verbose
  | vi
  | emacs
  /-- a redirection does not replace a file -/
  | noclobber
  /-- programs get all variables that are assigned -/
  | allexport
  | notify
  /-- a parameter that is not set is a fault -/
  | nounset
  | privileged
  | nolog
  | debug
  /-- a pipeline fails if one of its commands does -/
  | pipefail
  | braceexpand
  | errtrace
  | functrace
  | hashall
  | histexpand
  | history
  | interactiveComments
  | keyword
  | onecmd
  | physical
  | posix
  /-- the shell was started with a script as its argument -/
  | commandString
  deriving DecidableEq, Repr

namespace Setting

/-- The settings with their names and letters, in the order of a listing. -/
def table : List (Setting × String × Option Char) :=
  [(.errexit, "errexit", some 'e'), (.noglob, "noglob", some 'f'),
    (.ignoreeof, "ignoreeof", some 'I'), (.interactive, "interactive", some 'i'),
    (.monitor, "monitor", some 'm'), (.noexec, "noexec", some 'n'), (.stdin, "stdin", some 's'),
    (.xtrace, "xtrace", some 'x'), (.verbose, "verbose", some 'v'), (.vi, "vi", some 'V'),
    (.emacs, "emacs", some 'E'), (.noclobber, "noclobber", some 'C'),
    (.allexport, "allexport", some 'a'), (.notify, "notify", some 'b'),
    (.nounset, "nounset", some 'u'), (.privileged, "privileged", some 'p'),
    (.nolog, "nolog", none), (.debug, "debug", none)]

/-- The settings of the extended shell. -/
def extendedTable : List (Setting × String × Option Char) :=
  [(.allexport, "allexport", some 'a'), (.braceexpand, "braceexpand", some 'B'),
    (.emacs, "emacs", none), (.errexit, "errexit", some 'e'), (.errtrace, "errtrace", some 'E'),
    (.functrace, "functrace", some 'T'), (.hashall, "hashall", some 'h'),
    (.histexpand, "histexpand", some 'H'), (.history, "history", none),
    (.ignoreeof, "ignoreeof", none), (.interactiveComments, "interactive-comments", none),
    (.keyword, "keyword", some 'k'), (.monitor, "monitor", some 'm'),
    (.noclobber, "noclobber", some 'C'), (.noexec, "noexec", some 'n'),
    (.noglob, "noglob", some 'f'), (.nolog, "nolog", none), (.notify, "notify", some 'b'),
    (.nounset, "nounset", some 'u'), (.onecmd, "onecmd", some 't'),
    (.physical, "physical", some 'P'), (.pipefail, "pipefail", none), (.posix, "posix", none),
    (.privileged, "privileged", some 'p'), (.verbose, "verbose", some 'v'), (.vi, "vi", none),
    (.xtrace, "xtrace", some 'x')]

def tableOf : Dialect → List (Setting × String × Option Char)
  | .plain => table
  | .extended => extendedTable

def ofLetter? (dialect : Dialect) (letter : Char) : Option Setting :=
  ((tableOf dialect).find? fun (_, _, other) => other = some letter).map (·.1)

def ofName? (dialect : Dialect) (name : Chars) : Option Setting :=
  ((tableOf dialect).find? fun (_, other, _) => other.toList = name).map (·.1)

end Setting

/-- The settings that are on. -/
abbrev Settings := List Setting

namespace Settings

def change (settings : Settings) (setting : Setting) (on : Bool) : Settings :=
  let others := settings.filter (· ≠ setting)
  if on then setting :: others else others

/-- The letters of the settings that are on: the plain shell has the last of the table first,
the extended one the small letters in their order and then the others. -/
def letters (settings : Settings) (dialect : Dialect) : Chars :=
  let found := (Setting.tableOf dialect).filterMap fun (setting, _, letter) =>
    if settings.contains setting then letter else none
  match dialect with
  | .plain => found.reverse
  | .extended =>
    (found.filter Char.isLower).mergeSort (· ≤ ·)
      ++ (found.filter Char.isUpper).mergeSort (· ≤ ·)
      ++ (if settings.contains .commandString then ['c'] else [])

/-- All settings, for a reader or as commands that restore them. -/
def listing (settings : Settings) (dialect : Dialect) (forReader : Bool) : Chars :=
  let line (entry : Setting × String × Option Char) : Chars :=
    let name := chars entry.2.1
    let isOn := settings.contains entry.1
    if forReader then
      let space := match dialect with
        | .plain => List.replicate (16 - name.length) ' '
        | .extended => List.replicate (15 - name.length) ' ' ++ ['\t']
      name ++ space ++ chars (if isOn then "on" else "off")
    else chars (if isOn then "set -o " else "set +o ") ++ name
  (if forReader && dialect = .plain then chars "Current option settings\n" else [])
    ++ unlines ((Setting.tableOf dialect).map line)

end Settings

/-- What the arguments of a shell, or of its command that changes settings, mean. -/
structure Invocation where
  dialect : Dialect := .plain
  /-- whether the first operand is a script -/
  takesScript : Bool := false
  settings : Settings := []
  /-- listings that are asked for -/
  listing : Chars := []
  operands : List Chars := []
  /-- whether the operands replace those of before, even if there are none -/
  replaces : Bool := false

namespace Invocation

/-- Reads the letters of an argument, one of which may take the next argument; gives the
arguments that are left. `isCall` tells that a shell is called. -/
def withLetters (isCall on : Bool) : Chars → List Chars → Invocation →
    Except Chars (Invocation × List Chars)
  | [], rest, call => .ok (call, rest)
  | 'o' :: letters, [], call =>
    let listing := call.listing ++ call.settings.listing call.dialect on
    withLetters isCall on letters [] { call with listing }
  | 'o' :: letters, name :: rest, call =>
    match Setting.ofName? call.dialect name with
    | some setting =>
      withLetters isCall on letters rest { call with settings := call.settings.change setting on }
    | none => .error (match call.dialect with
      | .plain => chars "Illegal option -o " ++ name
      | .extended => name ++ chars ": invalid option name")
  | letter :: letters, rest, call =>
    if isCall && letter = 'c' then
      withLetters isCall on letters rest { call with takesScript := true }
    else if isCall && letter = 'l' then withLetters isCall on letters rest call
    else
      match Setting.ofLetter? call.dialect letter with
      | some setting =>
        withLetters isCall on letters rest { call with settings := call.settings.change setting on }
      | none => .error (match call.dialect with
        | .plain => chars "Illegal option -" ++ [letter]
        | .extended => '-' :: letter :: chars ": invalid option")

/-- Reads arguments; the first argument bounds their number. -/
def read (isCall : Bool) : Nat → List Chars → Invocation → Except Chars Invocation
  | 0, _, call => .ok call
  | _ + 1, [], call => .ok call
  | count + 1, argument :: rest, call =>
    match argument with
    | ['-', '-'] => .ok { call with operands := rest, replaces := true }
    | ['-'] =>
      let quiet := (call.settings.change .xtrace false).change .verbose false
      .ok { call with
        operands := rest, replaces := !rest.isEmpty
        settings := if isCall then call.settings else quiet }
    | '-' :: letters => do
      let (call, rest) ← withLetters isCall true letters rest call
      read isCall count rest call
    | '+' :: letters => do
      let (call, rest) ← withLetters isCall false letters rest call
      read isCall count rest call
    | operand => .ok { call with operands := operand :: rest, replaces := true }

def ofArguments (dialect : Dialect) (isCall : Bool) (settings : Settings)
    (arguments : List Chars) : Except Chars Invocation :=
  read isCall (arguments.length + 1) arguments { dialect, settings }

end Invocation

end LiveCompile.Shell
