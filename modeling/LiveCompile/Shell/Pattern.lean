import LiveCompile.Shell.Syntax

/-! Patterns of the shell: an asterisk for any text, a question mark for any character, and
brackets for one of several characters. A quoted character stands for itself. -/

namespace LiveCompile.Shell

/-- A character of an expanded word, with whether it was quoted. -/
abbrev Marked := List (Char × Bool)

def Marked.text (marked : Marked) : Chars := marked.map (·.1)

/-- A set of characters between brackets. -/
inductive Member where
  | range (first last : Char)
  | named (name : Chars)
  deriving DecidableEq, Repr

inductive Element where
  | character (c : Char)
  | anyCharacter
  | anyText
  | oneOf (negated : Bool) (members : List Member)
  deriving DecidableEq, Repr

abbrev Pattern := List Element

def isPunctuation (c : Char) : Bool := '!' ≤ c && c ≤ '~' && !c.isAlphanum

def isBlankOrLine (c : Char) : Bool := c == ' ' || ('\t' ≤ c && c ≤ '\r')

/-- Whether a character is in the class of a name. -/
def inClass (name : String) (c : Char) : Bool :=
  match name with
  | "alpha" => c.isAlpha
  | "digit" => c.isDigit
  | "alnum" => c.isAlphanum
  | "upper" => c.isUpper
  | "lower" => c.isLower
  | "space" => isBlankOrLine c
  | "blank" => c == ' ' || c == '\t'
  | "punct" => isPunctuation c
  | "cntrl" => c.toNat < 32 || c.toNat = 127
  | "print" => ' ' ≤ c && c ≤ '~'
  | "graph" => '!' ≤ c && c ≤ '~'
  | "xdigit" => c.isDigit || ('a' ≤ c && c ≤ 'f') || ('A' ≤ c && c ≤ 'F')
  | _ => false

def Member.contains (member : Member) (c : Char) : Bool :=
  match member with
  | .range first last => first ≤ c && c ≤ last
  | .named name => inClass (String.ofList name) c

/-- The name of a class that begins here, and what follows it. -/
def className? : Marked → Option (Chars × Marked)
  | (':', false) :: (']', false) :: rest => some ([], rest)
  | (c, false) :: rest =>
    if c.isAlpha then (className? rest).map fun (name, rest) => (c :: name, rest) else none
  | _ => none

/-- The members up to the closing bracket, and what follows it; `isFirst` tells that a
closing bracket would be a member. The first argument bounds the number of members. -/
def members? : Nat → Bool → Marked → Option (List Member × Marked)
  | 0, _, _ => none
  | count + 1, isFirst, input =>
    let next (member : Member) (rest : Marked) : Option (List Member × Marked) :=
      (members? count false rest).map fun (members, rest) => (member :: members, rest)
    match isFirst, input with
    | _, [] => none
    | false, (']', false) :: rest => some ([], rest)
    | _, (c, _) :: ('-', false) :: (last, quoted) :: rest =>
      if last = ']' && !quoted then next (.range c c) (('-', false) :: (last, quoted) :: rest)
      else next (.range c last) rest
    | _, ('[', false) :: (':', false) :: rest =>
      match className? rest with
      | some (name, rest) => next (.named name) rest
      | none => next (.range '[' '[') ((':', false) :: rest)
    | _, (c, _) :: rest => next (.range c c) rest

/-- The pattern that a word is. The first argument bounds the number of elements. -/
def elements : Nat → Marked → Pattern
  | 0, _ => []
  | _ + 1, [] => []
  | count + 1, ('*', false) :: rest => .anyText :: elements count rest
  | count + 1, ('?', false) :: rest => .anyCharacter :: elements count rest
  | count + 1, ('[', false) :: rest =>
    let (negated, inner) := match rest with
      | ('!', false) :: inner => (true, inner)
      | ('^', false) :: inner => (true, inner)
      | inner => (false, inner)
    match members? (inner.length + 1) true inner with
    | some (members, rest) => .oneOf negated members :: elements count rest
    | none => .character '[' :: elements count rest
  | count + 1, (c, _) :: rest => .character c :: elements count rest

namespace Pattern

def ofMarked (marked : Marked) : Pattern := elements marked.length marked

/-- A text and everything that is left of it after some of its characters. -/
def suffixes : Chars → List Chars
  | [] => [[]]
  | c :: rest => (c :: rest) :: suffixes rest

/-- Whether a pattern is more than a text. -/
def isProper (pattern : Pattern) : Bool :=
  pattern.any fun
    | .character _ => false
    | _ => true

def matchesText : Pattern → Chars → Bool
  | [], text => text.isEmpty
  | .anyText :: rest, text => (suffixes text).any (matchesText rest)
  | _ :: _, [] => false
  | .anyCharacter :: rest, _ :: text => matchesText rest text
  | .character expected :: rest, c :: text => expected = c && matchesText rest text
  | .oneOf negated members :: rest, c :: text =>
    members.any (·.contains c) != negated && matchesText rest text

/-- The lengths of the starts of a text, the shortest first. -/
def cuts (text : Chars) : List Nat := List.range (text.length + 1)

/-- A text without a start that matches, the shortest or the longest one. -/
def dropStart (pattern : Pattern) (longest : Bool) (text : Chars) : Chars :=
  let lengths := if longest then (cuts text).reverse else cuts text
  match lengths.find? fun length => pattern.matchesText (text.take length) with
  | some length => text.drop length
  | none => text

/-- A text without an end that matches, the shortest or the longest one. -/
def dropEnd (pattern : Pattern) (longest : Bool) (text : Chars) : Chars :=
  let lengths := if longest then cuts text else (cuts text).reverse
  match lengths.find? fun length => pattern.matchesText (text.drop length) with
  | some length => text.take length
  | none => text

end Pattern

end LiveCompile.Shell
