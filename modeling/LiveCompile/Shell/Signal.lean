import LiveCompile.Files.Tree

/-! Signals, how a program ends, and what it leaves. -/

namespace LiveCompile.Shell

/-- A signal: its number, its name, and the words for a program that it ends. -/
structure Signal where
  number : Nat
  name : String
  words : String
  deriving DecidableEq, Repr

namespace Signal

def all : List Signal :=
  [⟨1, "HUP", "Hangup"⟩, ⟨2, "INT", ""⟩, ⟨3, "QUIT", "Quit"⟩, ⟨4, "ILL", "Illegal instruction"⟩,
    ⟨5, "TRAP", "Trace/breakpoint trap"⟩, ⟨6, "ABRT", "Aborted"⟩, ⟨7, "BUS", "Bus error"⟩,
    ⟨8, "FPE", "Floating point exception"⟩, ⟨9, "KILL", "Killed"⟩,
    ⟨10, "USR1", "User defined signal 1"⟩, ⟨11, "SEGV", "Segmentation fault"⟩,
    ⟨12, "USR2", "User defined signal 2"⟩, ⟨13, "PIPE", ""⟩, ⟨14, "ALRM", "Alarm clock"⟩,
    ⟨15, "TERM", "Terminated"⟩, ⟨16, "STKFLT", "Stack fault"⟩, ⟨17, "CHLD", "Child exited"⟩,
    ⟨18, "CONT", "Continued"⟩, ⟨19, "STOP", "Stopped (signal)"⟩, ⟨20, "TSTP", "Stopped"⟩,
    ⟨21, "TTIN", "Stopped (tty input)"⟩, ⟨22, "TTOU", "Stopped (tty output)"⟩,
    ⟨23, "URG", "Urgent I/O condition"⟩, ⟨24, "XCPU", "CPU time limit exceeded"⟩,
    ⟨25, "XFSZ", "File size limit exceeded"⟩, ⟨26, "VTALRM", "Virtual timer expired"⟩,
    ⟨27, "PROF", "Profiling timer expired"⟩, ⟨28, "WINCH", "Window changed"⟩,
    ⟨29, "IO", "I/O possible"⟩, ⟨30, "PWR", "Power failure"⟩, ⟨31, "SYS", "Bad system call"⟩]

def ofNumber? (number : Nat) : Option Signal := all.find? (·.number = number)

/-- A signal by its name in any case. -/
def ofName? (name : String) : Option Signal := all.find? (·.name = name.toUpper)

/-- Whether a program that does nothing about the signal goes on. -/
def isHarmless (signal : Signal) : Bool := ["CHLD", "CONT", "URG", "WINCH"].contains signal.name

end Signal

/-- How a program ended. -/
inductive Ending where
  | exited (code : Nat)
  | signalled (number : Nat)
  deriving DecidableEq, Repr

namespace Ending

def isSuccess (ending : Ending) : Bool := ending = exited 0

/-- The code by which a shell knows the ending. -/
def status : Ending → Nat
  | exited code => code
  | signalled number => 128 + number

def message : Ending → String
  | exited code => "exit status: " ++ toString code
  | signalled number =>
    let name := match Signal.ofNumber? number with
      | some signal => " (SIG" ++ signal.name ++ ")"
      | none => ""
    "signal: " ++ toString number ++ name

end Ending

/-- What a program leaves. -/
structure Ended where
  output : List UInt8
  complaints : List UInt8
  ending : Ending
  /-- the files after it -/
  tree : FileTree
  deriving Repr

end LiveCompile.Shell
