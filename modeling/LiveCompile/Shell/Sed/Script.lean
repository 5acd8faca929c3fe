import LiveCompile.Shell.Program.Basic
import LiveCompile.Shell.Regex.Reader
import LiveCompile.Shell.Regex.Search

/-! Scripts of the stream editor: instructions, each for the lines that its addresses select.
A script is flat; a block knows the instruction behind it. -/

namespace LiveCompile.Shell.Sed

/-- An expression to look for; an empty one stands for the last one that was used. -/
structure Sought where
  regex : Option Regex
  manner : Regex.Manner := {}

inductive Address where
  | line (number : Nat)
  /-- a line, and after it each line at so many lines from the one before -/
  | every (first step : Nat)
  | last
  | matching (sought : Sought)

/-- Where a range of lines ends. -/
inductive Extent where
  | line (number : Nat)
  | last
  | matching (sought : Sought)
  /-- so many lines after the first one -/
  | more (count : Nat)
  /-- the next line with a number that is a multiple -/
  | multiple (divisor : Nat)

structure Selection where
  /-- the first line of a range; without it, a range is open from the start -/
  first : Option Address := none
  extent : Option Extent := none
  negated : Bool := false

/-- What becomes of the case of letters. -/
inductive Case where
  | asIs
  | upper
  | lower
  deriving DecidableEq

/-- A part of a replacement: a text, and then what a group matched. -/
structure Piece where
  text : Chars := []
  group : Option Nat := none
  case : Case := .asIs
  /-- what becomes of the first letter -/
  first : Case := .asIs

structure Substitution where
  sought : Sought
  pieces : List Piece
  /-- the match that is replaced first -/
  from? : Nat := 1
  every : Bool := false
  prints : Nat := 0
  file : Option Chars := none

inductive Condition where
  | always
  /-- something was replaced since the line was read or the last such jump -/
  | replaced
  | notReplaced

inductive Action where
  /-- goes on behind the block if the line is not selected -/
  | block (past : Nat)
  | nothing
  | substitute (substitution : Substitution)
  | transliterate (targets : List (Char × Char))
  | jump (condition : Condition) (target : Nat)
  | delete
  | deleteFirst
  | print
  | printFirst
  | next
  | appendNext
  | hold
  | appendHold
  | get
  | appendGet
  | exchange
  | clear
  | append (text : Chars)
  | insert (text : Chars)
  | change (text : Chars)
  | number
  | show (width : Option Nat)
  | fileName
  | read (file : Chars)
  | readLine (file : Chars)
  | write (file : Chars)
  | writeFirst (file : Chars)
  | quit (code : Nat) (quietly : Bool)

structure Instruction where
  selection : Selection := {}
  action : Action

abbrev Script := Array Instruction

/-- The files that a script writes. -/
def Script.files (script : Script) : List Chars :=
  script.toList.filterMap fun instruction =>
    match instruction.action with
    | .write file => some file
    | .writeFirst file => some file
    | .substitute substitution => substitution.file
    | _ => none

end LiveCompile.Shell.Sed
