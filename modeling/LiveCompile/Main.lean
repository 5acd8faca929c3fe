import LiveCompile.CommandLine.Bundle

/-! The command line as a program. It touches no files and starts no processes: a call gets
its surroundings as a JSON record on the standard input, and a compiler is a command in
them. -/

open LiveCompile.CommandLine

/-- The exit code of a call that is not understood. -/
def usageCode : UInt32 := 2

/-- Everything that can be read. -/
partial def readAll (stream : IO.FS.Stream) (text : String) : IO String := do
  let line ← stream.getLine
  if line.isEmpty then return text else readAll stream (text ++ line)

/-- Prints what a call leaves. -/
def printFinished (finished : Finished) : IO UInt32 := do
  for line in finished.output do IO.println line
  for line in finished.complaints do IO.eprintln line
  return finished.code.toUInt32

def main (arguments : List String) : IO UInt32 := do
  let text ← readAll (← IO.getStdin) ""
  let surroundings := (Surroundings.ofText? text).getD ⟨{ tree := {} }, []⟩
  match run? surroundings arguments with
  | some finished => printFinished finished
  | none =>
    IO.eprintln "error: the arguments are not understood"
    return usageCode
