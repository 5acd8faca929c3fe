/-! The language of the shell. A text is a list of characters, one for each octet. A word is
made of parts, which are quoted or not; a command is simple or made of other commands. -/

namespace LiveCompile.Shell

/-- A text: each character stands for the octet with its code. -/
abbrev Chars := List Char

/-- A kind of shell: one that knows the standard language, or one that knows more and words its
complaints in its own way. -/
inductive Dialect where
  | plain
  | extended
  deriving DecidableEq, Repr

/-- Which matches of a pattern are replaced. -/
inductive Replacing where
  | first
  | all
  | start
  | finish
  deriving DecidableEq, Repr

/-- What becomes of the value of a parameter. -/
inductive Operator where
  | value
  | length
  /-- the word stands for a parameter that is unset (with `orEmpty`: or empty) -/
  | otherwise (orEmpty : Bool)
  /-- as `otherwise`, and the parameter takes that value -/
  | assign (orEmpty : Bool)
  /-- it is an error if the parameter is unset; the word tells so -/
  | require (orEmpty : Bool)
  /-- the word stands for a parameter that is set -/
  | instead (orEmpty : Bool)
  /-- the shortest or longest start that matches the word is left out -/
  | dropStart (longest : Bool)
  | dropEnd (longest : Bool)
  /-- the characters from a place on, up to a length or another place -/
  | slice
  /-- what matches a pattern is replaced; a divider follows the pattern -/
  | replace (place : Replacing)
  /-- the case of letters changes -/
  | change (toUpper isAll : Bool)
  /-- the parameter is named by the value of another one -/
  | indirect
  /-- the names of variables that begin like this -/
  | namesFrom
  | keys
  /-- as a shell reads it back -/
  | quoted
  | malformed
  deriving DecidableEq, Repr

inductive Part where
  | literal (quoted : Bool) (text : Chars)
  /-- the key of an element follows the name -/
  | parameter (quoted : Bool) (name : Chars) (key : List Part) (operator : Operator)
      (word : List Part)
  /-- the output of a script, which stands in parentheses or between backquotes -/
  | output (quoted : Bool) (isBackquoted : Bool) (script : Chars)
  | arithmetic (quoted : Bool) (expression : List Part)
  /-- the text of the elements of an array -/
  | row (elements : Chars)
  /-- a pattern ends here -/
  | divider
  /-- a file that holds the output of a script -/
  | process (script : Chars)
  deriving Repr, Inhabited

abbrev Word := List Part

mutual

def Part.scripts : Part → List (Bool × Chars)
  | .literal .. => []
  | .parameter _ _ key _ word => scriptsOf key ++ scriptsOf word
  | .output _ isBackquoted script => [(isBackquoted, script)]
  | .arithmetic _ expression => scriptsOf expression
  | .row _ => []
  | .divider => []
  | .process script => [(false, script)]

/-- The scripts whose output is part of a word, with whether they are between backquotes. -/
def scriptsOf : List Part → List (Bool × Chars)
  | [] => []
  | part :: rest => part.scripts ++ scriptsOf rest

end

/-- The text of a word that is written without quotes and expansions. -/
def Word.bare? : Word → Option Chars
  | [] => some []
  | .literal false text :: rest => (Word.bare? rest).map (text ++ ·)
  | _ => none

def isNameStart (c : Char) : Bool := c.isAlpha || c == '_'

def isNameChar (c : Char) : Bool := isNameStart c || c.isDigit

def isName : Chars → Bool
  | [] => false
  | c :: rest => isNameStart c && rest.all isNameChar

/-- What a redirection does to a descriptor. -/
inductive Opening where
  | read
  | write
  /-- a file is written even if the settings protect it -/
  | replace
  | append
  | readWrite
  /-- the descriptor becomes what another one is -/
  | copy
  /-- the text of the word is read -/
  | text
  /-- the text of the word is read as a line -/
  | line
  /-- the descriptor for complaints goes where the one for output goes -/
  | both
  | bothAppend
  deriving DecidableEq, Repr, Inhabited

structure Redirect where
  descriptor : Nat
  opening : Opening
  word : Word
  /-- how the word is written -/
  written : Chars := []
  deriving Repr, Inhabited

/-- The value that a variable takes, or an element of it. -/
structure Assignment where
  name : Chars
  key : Option Word := none
  /-- the value comes after the one of before -/
  appends : Bool := false
  value : Word
  deriving Repr, Inhabited

/-- What runs after the commands of a clause. -/
inductive ClauseEnd where
  | nothing
  /-- the commands of the next clause -/
  | next
  /-- the commands of the next clause that fits -/
  | others
  deriving DecidableEq, Repr

/-- A condition between double brackets. -/
inductive Condition where
  | word (word : Word)
  | unary (operator : Chars) (operand : Word)
  | binary (left : Word) (operator : Chars) (right : Word)
  | negation (condition : Condition)
  | both (first second : Condition)
  | either (first second : Condition)
  deriving Repr, Inhabited

/-- Lines are those that the commands are written on. -/
inductive Command where
  | simple (line : Nat) (assignments : List Assignment) (words : List Word)
      (redirects : List Redirect)
  | pipeline (stages : List Command)
  | negation (command : Command)
  | both (first second : Command)
  | either (first second : Command)
  | sequence (first second : Command)
  | background (command : Command)
  | subshell (command : Command)
  | redirected (line : Nat) (command : Command) (redirects : List Redirect)
  | conditional (condition first : Command) (second : Option Command)
  | loop (isUntil : Bool) (condition body : Command)
  /-- without words: once for each argument -/
  | each (line : Nat) (name : Chars) (words : Option (List Word)) (body : Command)
      (written : Chars)
  | choice (line : Nat) (subject : Word) (clauses : List (List Word × Option Command × ClauseEnd))
      (written : Chars)
  | define (name : Chars) (body : Command)
  /-- it fails if the value is zero -/
  | calculation (line : Nat) (text : Chars)
  | condition (line : Nat) (condition : Condition)
  /-- a loop with expressions at its start, before and after each round -/
  | counting (line : Nat) (start test step : Chars) (body : Command)
  deriving Repr, Inhabited

end LiveCompile.Shell
