import LiveCompile.Shell.Pattern

/-! Regular expressions: what they are made of, the ways of writing them, and what can be
wrong with them. -/

namespace LiveCompile.Shell

/-- What holds of a place between two characters. -/
inductive Regex.Edge where
  | lineStart
  | lineEnd
  | textStart
  | textEnd
  | wordStart
  | wordEnd
  /-- a word starts or ends -/
  | wordEdge
  | noWordEdge
  deriving DecidableEq, Repr

inductive Regex where
  | empty
  | one (element : Element)
  | edge (kind : Regex.Edge)
  | sequence (first second : Regex)
  | alternative (first second : Regex)
  | repeated (body : Regex) (least : Nat) (most : Option Nat)
  | group (index : Nat) (body : Regex)
  /-- the text that a group matched -/
  | same (index : Nat)
  deriving Repr, Inhabited

namespace Regex

/-- What a sign of repetition is that has nothing before it. -/
inductive Idle where
  | literal
  | ignored
  | refused
  deriving DecidableEq, Repr

/-- A way of writing expressions. -/
structure Dialect where
  /-- operators are written without a backslash -/
  extended : Bool := false
  idle : Idle := .literal
  /-- braces that are no bounds stand for themselves -/
  keepsBraces : Bool := false
  /-- a closing parenthesis without an opening one stands for itself -/
  keepsClosing : Bool := false
  /-- a range may end before it starts; nothing is in it -/
  keepsEmptyRanges : Bool := false
  /-- a repetition cannot be repeated by an asterisk or by bounds -/
  refusesDouble : Bool := false
  /-- the character that is written after a backslash, with what follows it -/
  escape? : Chars → Option (Char × Chars) := fun _ => none

/-- What is wrong with an expression. -/
inductive Fault where
  | unmatchedOpening
  | unmatchedClosing
  | unmatchedBracket
  | unmatchedBrace
  | trailingBackslash
  | invalidPreceding
  | invalidBounds
  | invalidReference
  | invalidRange
  | invalidClass
  | invalidCollation
  /-- a class of characters stands outside of brackets -/
  | bareClass
  | invalidPattern
  | tooBig
  deriving DecidableEq, Repr

def Fault.message : Fault → String
  | .unmatchedOpening => "Unmatched ( or \\("
  | .unmatchedClosing => "Unmatched ) or \\)"
  | .unmatchedBracket => "Unmatched [, [^, [:, [., or [="
  | .unmatchedBrace => "Unmatched \\\x7b"
  | .trailingBackslash => "Trailing backslash"
  | .invalidPreceding => "Invalid preceding regular expression"
  | .invalidBounds => "Invalid content of \\\x7b\\\x7d"
  | .invalidReference => "Invalid back reference"
  | .invalidRange => "Invalid range end"
  | .invalidClass => "Invalid character class name"
  | .invalidCollation => "Invalid collation character"
  | .bareClass => "character class syntax is [[:space:]], not [:space:]"
  | .invalidPattern => "Invalid regular expression"
  | .tooBig => "Regular expression too big"

/-- An expression that matches a text itself. -/
def ofLiteral (text : Chars) : Regex :=
  text.foldr (fun c rest => .sequence (.one (.character c)) rest) .empty

/-- Whether an expression refers to what one of its groups matched. -/
def refersBack : Regex → Bool
  | same _ => true
  | sequence first second => first.refersBack || second.refersBack
  | alternative first second => first.refersBack || second.refersBack
  | repeated body _ _ => body.refersBack
  | group _ body => body.refersBack
  | _ => false

/-- The number of groups. -/
def groupCount : Regex → Nat
  | sequence first second => first.groupCount + second.groupCount
  | alternative first second => first.groupCount + second.groupCount
  | repeated body _ _ => body.groupCount
  | group _ body => body.groupCount + 1
  | _ => 0

end Regex

end LiveCompile.Shell
