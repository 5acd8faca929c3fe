import LiveCompile.Shell.Syntax

/-! Reading words. A word ends before a blank or an operator; inside of quotes and of
expansions it goes on. Quotes are single quotes, double quotes and backslashes. -/

namespace LiveCompile.Shell

/-- What is wrong with the text of a script. -/
inductive Fault where
  /-- a sign that nothing closes -/
  | unclosed (sign : Char)
  /-- a brace inside of double quotes, an expression or a script that nothing closes -/
  | unclosedBrace
  | unclosedExpression
  | unclosedScript
  | outOfSpace
  /-- something that cannot stand where it is; nothing is near at the end -/
  | unexpected (told : String) (near : Option Chars)
  /-- something in a condition between double brackets, with what more is told -/
  | inCondition (told : Chars) (near : Chars)
  | badLoopVariable (name : Chars)
  | badFunctionName (name : Chars)
  deriving Repr, Inhabited, DecidableEq

/-- The character that encloses a script in a word. -/
def backquote : Char := '\x60'

/-- A fault as the plain shell words it. -/
def Fault.message : Fault → String
  | .unclosed sign =>
    if sign = backquote then "EOF in backquote substitution" else "Unterminated quoted string"
  | .unclosedBrace => "Missing '\x7d'"
  | .unclosedExpression => "Missing '))'"
  | .unclosedScript => "end of file unexpected (expecting \")\")"
  | .outOfSpace => "Out of space"
  | .unexpected told _ => told
  | .inCondition _ _ => "Syntax error in condition"
  | .badLoopVariable _ => "Bad for loop variable"
  | .badFunctionName _ => "Bad function name"

def apostrophe : Char := '\x27'

/-- Characters that end a word. -/
def endsWord (c : Char) : Bool := " \t\n;&|<>()".toList.contains c

/-- Puts a character before the parts of a word. -/
def consLiteral (quoted : Bool) (c : Char) : Word → Word
  | .literal other text :: rest =>
    if other = quoted then .literal quoted (c :: text) :: rest
    else .literal quoted [c] :: .literal other text :: rest
  | parts => .literal quoted [c] :: parts

/-- The text up to the closing single quote, and what follows it. -/
def singleQuoted : Chars → Option (Chars × Chars)
  | [] => none
  | c :: rest =>
    if c = apostrophe then some ([], rest)
    else (singleQuoted rest).map fun (text, rest) => (c :: text, rest)

/-- The script up to the closing backquote, and what follows it. A backslash that stands
before a backquote, a backslash or a dollar is left out, between double quotes also one
before a double quote. -/
def backquoted (quoted : Bool) : Chars → Option (Chars × Chars)
  | [] => none
  | '\\' :: c :: rest =>
    (backquoted quoted rest).map fun (text, rest) =>
      (if c = backquote || c = '\\' || c = '$' || (quoted && c = '"') then c :: text
        else '\\' :: c :: text, rest)
  | c :: rest =>
    if c = backquote then some ([], rest)
    else (backquoted quoted rest).map fun (text, rest) => (c :: text, rest)

/-- The expression up to two closing parentheses, and what follows them. -/
def arithmeticText : Nat → Chars → Option (Chars × Chars)
  | _, [] => none
  | 0, ')' :: ')' :: rest => some ([], rest)
  | depth, c :: rest =>
    let depth := if c = '(' then depth + 1 else if c = ')' then depth - 1 else depth
    (arithmeticText depth rest).map fun (text, rest) => (c :: text, rest)

/-- The text up to the parenthesis that closes one, and what follows it. -/
def pairedText : Nat → Chars → Option (Chars × Chars)
  | _, [] => none
  | 0, ')' :: rest => some ([], rest)
  | depth, c :: rest =>
    let depth := if c = '(' then depth + 1 else if c = ')' then depth - 1 else depth
    (pairedText depth rest).map fun (text, rest) => (c :: text, rest)

/-- The expression after two opening parentheses, and what follows the two closing ones. It is
no expression in the extended shell if something stands between those. -/
def expressionText (dialect : Dialect) (text : Chars) : Option (Option (Chars × Chars)) :=
  match dialect with
  | .plain => (arithmeticText 0 text).map some
  | .extended =>
    (pairedText 0 text).map fun (inner, rest) =>
      match rest with
      | ')' :: rest => some (inner, rest)
      | _ => none

/-- What encloses a place in a script. -/
inductive Enclosure where
  | parentheses
  | quotes
  /-- the clauses of a choice, whose patterns end with a parenthesis -/
  | clauses
  deriving DecidableEq, Repr

/-- A place in a script: what encloses it from the inside out, the word before it in
reverse, and whether that word stands where a command begins. -/
structure Place where
  enclosures : List Enclosure := [.parentheses]
  word : Chars := []
  begins : Bool := true

namespace Place

/-- Words after which a command begins. -/
def openers : List String :=
  ["if", "then", "else", "elif", "while", "until", "do", "\x7b", "!"]

/-- The place after the word before it has ended; `begins` tells whether a command begins. -/
def endWord (place : Place) (begins : Bool) : Place :=
  let word := String.ofList place.word.reverse
  let inClauses := place.enclosures.head? = some .clauses
  let enclosures :=
    if word = "case" && place.begins then .clauses :: place.enclosures
    else if word = "esac" && inClauses then place.enclosures.drop 1
    else place.enclosures
  let begins := begins || (place.begins && (word.isEmpty || openers.contains word))
  { enclosures, word := [], begins }

end Place

/-- The script up to the closing parenthesis, and what follows it. The first argument
bounds the number of steps. -/
def scriptText : Nat → Place → Chars → Option (Chars × Chars)
  | 0, _, _ => none
  | _ + 1, _, [] => none
  | steps + 1, place, c :: rest =>
    let go (place : Place) (taken rest : Chars) :=
      (scriptText steps place rest).map fun (text, rest) => (taken ++ text, rest)
    match place.enclosures, c, rest with
    | .quotes :: _, '\\', next :: rest => go place ['\\', next] rest
    | .quotes :: outer, '"', rest => go { place with enclosures := outer } ['"'] rest
    | .quotes :: _, '$', '(' :: rest =>
      go { place with enclosures := .parentheses :: place.enclosures } ['$', '('] rest
    | .quotes :: _, c, rest => go place [c] rest
    | _, '\\', next :: rest =>
      go { place with word := next :: '\\' :: place.word } ['\\', next] rest
    | _, '"', rest =>
      go { place with enclosures := .quotes :: place.enclosures, word := '"' :: place.word }
        ['"'] rest
    | _, '#', rest =>
      if place.word.isEmpty then
        go place ('#' :: rest.takeWhile (· ≠ '\n')) (rest.dropWhile (· ≠ '\n'))
      else go { place with word := '#' :: place.word } ['#'] rest
    | enclosures, ')', rest =>
      let ended := place.endWord true
      match enclosures, ended.enclosures with
      | .clauses :: _, .clauses :: _ => go ended [')'] rest
      | _, [.parentheses] => some ([], rest)
      | _, _ :: outer => go { ended with enclosures := outer, begins := false } [')'] rest
      | _, [] => some ([], rest)
    | _, '(', rest =>
      let ended := place.endWord true
      go { ended with enclosures := .parentheses :: ended.enclosures } ['('] rest
    | _, c, rest =>
      if c = apostrophe then do
        let (text, rest) ← singleQuoted rest
        go { place with word := apostrophe :: place.word } (apostrophe :: text ++ [apostrophe]) rest
      else if c = ' ' || c = '\t' then go (place.endWord false) [c] rest
      else if endsWord c then go (place.endWord true) [c] rest
      else go { place with word := c :: place.word } [c] rest

/-- Where a piece of a word is read: outside of quotes, between double quotes, in the
braces of a parameter, or in a text that is given as a whole. -/
inductive Surroundings where
  | plain
  | quoted
  | braced (quoted : Bool)
  | given
  /-- up to a blank -/
  | regex
  /-- in the braces of a parameter up to a slash -/
  | beforeSlash
  /-- in the brackets after a name -/
  | key
  deriving DecidableEq, Repr

namespace Surroundings

def isQuoted : Surroundings → Bool
  | regex => false
  | beforeSlash => false
  | key => false
  | plain => false
  | quoted => true
  | braced between => between
  | given => true

/-- What is wrong if the text ends here. -/
def fault? : Surroundings → Option Fault
  | plain => none
  | quoted => some (.unclosed '"')
  | braced true => some (.unclosed '"')
  | braced false => some .unclosedBrace
  | given => none
  | regex => none
  | beforeSlash => some .unclosedBrace
  | key => none

/-- Whether a backslash stands for the character after it alone. -/
def escapes (around : Surroundings) (c : Char) : Bool :=
  match around with
  | plain => true
  | quoted => c = '$' || c = backquote || c = '"' || c = '\\'
  | braced true => c = '$' || c = backquote || c = '"' || c = '\\' || c = '}'
  | braced false => true
  | given => c = '$' || c = backquote || c = '\\'
  | regex => true
  | beforeSlash => true
  | key => true

end Surroundings

/-- The operator after the name of a parameter in braces, and what follows it. -/
def operatorOf : Chars → Operator × Chars
  | '}' :: rest => (.value, '}' :: rest)
  | ':' :: '-' :: rest => (.otherwise true, rest)
  | ':' :: '=' :: rest => (.assign true, rest)
  | ':' :: '?' :: rest => (.require true, rest)
  | ':' :: '+' :: rest => (.instead true, rest)
  | '-' :: rest => (.otherwise false, rest)
  | '=' :: rest => (.assign false, rest)
  | '?' :: rest => (.require false, rest)
  | '+' :: rest => (.instead false, rest)
  | '#' :: '#' :: rest => (.dropStart true, rest)
  | '#' :: rest => (.dropStart false, rest)
  | '%' :: '%' :: rest => (.dropEnd true, rest)
  | '%' :: rest => (.dropEnd false, rest)
  | rest => (.malformed, rest)

/-- Parameters whose name is one special character. -/
def isSpecial (c : Char) : Bool := "@*#?-$!0".toList.contains c

/-- The name of a parameter at the start of a text, and what follows it. Outside of braces
one digit is a name. -/
def parameterName? (inBraces : Bool) : Chars → Option (Chars × Chars)
  | [] => none
  | c :: rest =>
    if isNameStart c then some (c :: rest.takeWhile isNameChar, rest.dropWhile isNameChar)
    else if c.isDigit then
      if inBraces then some (c :: rest.takeWhile Char.isDigit, rest.dropWhile Char.isDigit)
      else some ([c], rest)
    else if isSpecial c then some ([c], rest)
    else none

/-- The name and the operator of a parameter in braces, and what follows them. -/
def bracedParameter (text : Chars) : Chars × Operator × Chars :=
  let usual :=
    match parameterName? true text with
    | some (name, rest) => (name, operatorOf rest)
    | none => ([], .malformed, text)
  match text with
  | '#' :: rest =>
    match parameterName? true rest with
    | some (name, '}' :: rest) => (name, .length, '}' :: rest)
    | _ => usual
  | _ => usual

/-- The text up to the bracket that closes one, and what follows it. -/
def subscriptText : Nat → Chars → Option (Chars × Chars)
  | _, [] => none
  | depth, c :: rest =>
    if c = ']' && depth = 0 then some ([], rest)
    else
      let depth := if c = '[' then depth + 1 else if c = ']' then depth - 1 else depth
      (subscriptText depth rest).map fun (text, rest) => (c :: text, rest)

/-- The name of a parameter, the key in brackets after it, and what follows. -/
def subscripted? (text : Chars) : Option (Chars × Chars × Chars) :=
  (parameterName? true text).map fun (name, rest) =>
    match rest with
    | '[' :: inner =>
      match if isName name then subscriptText 0 inner else none with
      | some (key, rest) => (name, key, rest)
      | none => (name, [], '[' :: inner)
    | rest => (name, [], rest)

/-- The operators that only the extended shell has, and what follows them. -/
def addedOperator? : Chars → Option (Operator × Chars)
  | ':' :: c :: rest => if "-=?+".toList.contains c then none else some (.slice, c :: rest)
  | '/' :: '/' :: rest => some (.replace .all, rest)
  | '/' :: '#' :: rest => some (.replace .start, rest)
  | '/' :: '%' :: rest => some (.replace .finish, rest)
  | '/' :: rest => some (.replace .first, rest)
  | '^' :: '^' :: rest => some (.change true true, rest)
  | '^' :: rest => some (.change true false, rest)
  | ',' :: ',' :: rest => some (.change false true, rest)
  | ',' :: rest => some (.change false false, rest)
  | '@' :: 'Q' :: '}' :: rest => some (.quoted, '}' :: rest)
  | '@' :: 'U' :: '}' :: rest => some (.change true true, '}' :: rest)
  | '@' :: 'u' :: '}' :: rest => some (.change true false, '}' :: rest)
  | '@' :: 'L' :: '}' :: rest => some (.change false true, '}' :: rest)
  | _ => none

/-- Whether a key stands for all elements. -/
def isEveryKey (key : Chars) : Bool := key = ['@'] || key = ['*']

/-- The name, the key and the operator of a parameter in the braces of the extended shell, and
what follows them. -/
def addedParameter (text : Chars) : Chars × Chars × Operator × Chars :=
  let usual :=
    match subscripted? text with
    | some (name, key, rest) =>
      match addedOperator? rest with
      | some (operator, rest) => (name, key, operator, rest)
      | none => (name, key, operatorOf rest)
    | none => ([], [], .malformed, text)
  match text with
  | '#' :: rest =>
    match subscripted? rest with
    | some (name, key, '}' :: rest) => (name, key, .length, '}' :: rest)
    | _ => usual
  | '!' :: rest =>
    match subscripted? rest with
    | some (name, key, '}' :: rest) =>
      (name, key, if isEveryKey key then .keys else .indirect, '}' :: rest)
    | some (name, [], '*' :: '}' :: rest) => (name, [], .namesFrom, '}' :: rest)
    | some (name, [], '@' :: '}' :: rest) => (name, [], .namesFrom, '}' :: rest)
    | _ => usual
  | _ => usual

/-- The text up to an apostrophe with its escapes expanded, and what follows it. The first
argument bounds the number of steps. -/
def escapedQuoted : Nat → Chars → Option (Chars × Chars)
  | 0, _ => none
  | _ + 1, [] => none
  | steps + 1, '\\' :: c :: rest =>
    let go (text rest : Chars) : Option (Chars × Chars) :=
      (escapedQuoted steps rest).map fun (more, rest) => (text ++ more, rest)
    let digits (base count : Nat) (rest : Chars) : Chars :=
      (rest.take count).takeWhile fun c =>
        c.isDigit && c.toNat < 48 + base || (base = 16 && c.toLower.isAlpha && c.toLower ≤ 'f')
    let value (base : Nat) (digits : Chars) : Nat := digits.foldl (fun value c =>
      value * base + if c.isDigit then c.toNat - 48 else c.toLower.toNat - 87) 0
    let code (base count : Nat) (rest : Chars) : Option (Chars × Chars) :=
      let found := digits base count rest
      go [Char.ofNat (value base found % 256)] (rest.drop found.length)
    let wide (letter : Char) (count : Nat) (rest : Chars) : Option (Chars × Chars) :=
      let found := digits 16 count rest
      let number := value 16 found
      if found.isEmpty then go ['\\', letter] rest
      else if number < 128 then go [Char.ofNat number] (rest.drop found.length)
      else
        let shown := (Nat.toDigits 16 number).map Char.toUpper
        let width := if number < 65536 then 4 else 8
        let sign := if number < 65536 then 'u' else 'U'
        go (['\\', sign] ++ List.replicate (width - shown.length) '0' ++ shown)
          (rest.drop found.length)
    match c with
    | 'n' => go ['\n'] rest
    | 't' => go ['\t'] rest
    | 'r' => go ['\r'] rest
    | 'a' => go ['\x07'] rest
    | 'b' => go ['\x08'] rest
    | 'e' => go ['\x1b'] rest
    | 'E' => go ['\x1b'] rest
    | 'f' => go ['\x0c'] rest
    | 'v' => go ['\x0b'] rest
    | '\\' => go ['\\'] rest
    | '"' => go ['"'] rest
    | '?' => go ['?'] rest
    | 'x' => if (digits 16 2 rest).isEmpty then go ['\\', 'x'] rest else code 16 2 rest
    | 'u' => wide 'u' 4 rest
    | 'U' => wide 'U' 8 rest
    | c =>
      if c = apostrophe then go [apostrophe] rest
      else if '0' ≤ c && c ≤ '7' then code 8 3 (c :: rest)
      else go ['\\', c] rest
  | steps + 1, c :: rest =>
    if c = apostrophe then some ([], rest)
    else (escapedQuoted steps rest).map fun (text, rest) => (c :: text, rest)

/-- The parts of a piece of a word, and what follows it. The first argument after the dialect
bounds the number of steps. -/
def parts (dialect : Dialect) : Nat → Surroundings → Chars → Except Fault (Word × Chars)
  | 0, _, _ => .error .outOfSpace
  | _ + 1, around, [] =>
    match around.fault? with
    | some fault => .error fault
    | none => .ok ([], [])
  | steps + 1, around, c :: rest =>
    let more (part : Part) (rest : Chars) : Except Fault (Word × Chars) := do
      let (word, rest) ← parts dialect steps around rest
      return (part :: word, rest)
    let character (quoted : Bool) (c : Char) (rest : Chars) : Except Fault (Word × Chars) := do
      let (word, rest) ← parts dialect steps around rest
      return (consLiteral quoted c word, rest)
    let isQuoted := around.isQuoted
    match around, c, rest with
    | _, '\\', '\n' :: rest => parts dialect steps around rest
    | _, '\\', next :: rest =>
      if around.escapes next then character true next rest else character true '\\' (next :: rest)
    | _, '\\', [] => character true '\\' []
    | .quoted, '"', rest => .ok ([], rest)
    | .given, '"', rest => character true '"' rest
    | .braced _, '}', rest => .ok ([], rest)
    | .beforeSlash, '}', rest => .ok ([], '}' :: rest)
    | .beforeSlash, '/', rest => .ok ([], '/' :: rest)
    | _, '"', rest => do
      let (inner, rest) ← parts dialect steps .quoted rest
      let (word, rest) ← parts dialect steps around rest
      return (.literal true [] :: inner ++ word, rest)
    | _, '$', '(' :: rest =>
      let expression := match rest with
        | '(' :: inner => expressionText dialect inner
        | _ => some none
      match expression with
      | none => .error .unclosedExpression
      | some (some (text, rest)) => do
        let (expression, _) ← parts dialect steps .given text
        more (.arithmetic isQuoted expression) rest
      | some none =>
        match scriptText (rest.length + 1) {} rest with
        | none => .error .unclosedScript
        | some (script, rest) => more (.output isQuoted false script) rest
    | _, '$', '{' :: text => do
      let (name, key, operator, rest) := match dialect with
        | .plain => let (name, found) := bracedParameter text; (name, [], found)
        | .extended => addedParameter text
      let (key, _) ← if key.isEmpty then .ok ([], []) else parts dialect steps .key key
      let trims := match operator with
        | .dropStart _ => true
        | .dropEnd _ => true
        | _ => false
      let (pattern, rest) ← match operator with
        | .replace _ => do
          let (pattern, rest) ← parts dialect steps .beforeSlash rest
          .ok (pattern ++ [.divider], if rest.head? = some '/' then rest.drop 1 else rest)
        | _ => .ok ([], rest)
      let (word, after) ← parts dialect steps (.braced (isQuoted && !trims)) rest
      let word := pattern ++ word
      let name := match operator with
        | .malformed => '$' :: '{' :: text.take (text.length - after.length)
        | _ => name
      more (.parameter isQuoted name key operator word) after
    | _, '$', rest =>
      let isAdded := dialect = .extended && !isQuoted
      if isAdded && rest.head? = some apostrophe then
        match escapedQuoted (rest.length + 1) (rest.drop 1) with
        | none => .error (.unclosed apostrophe)
        | some (text, rest) => more (.literal true text) rest
      else if isAdded && rest.head? = some '"' then parts dialect steps around rest
      else
        match parameterName? false rest with
        | some (name, rest) => more (.parameter isQuoted name [] .value []) rest
        | none => character isQuoted '$' rest
    | _, c, rest =>
      if c = backquote then
        match backquoted (around = .quoted) rest with
        | none => .error (.unclosed backquote)
        | some (script, rest) => more (.output isQuoted true script) rest
      else if c = apostrophe && !isQuoted then
        match singleQuoted rest with
        | none => .error (.unclosed apostrophe)
        | some (text, rest) => more (.literal true text) rest
      else if dialect = .extended && around = .plain && c = '<' && rest.head? = some '(' then
        match scriptText (rest.length + 1) {} (rest.drop 1) with
        | none => .error .unclosedScript
        | some (script, rest) => more (.process script) rest
      else if around = .plain && endsWord c then .ok ([], c :: rest)
      else if around = .regex && (c = ' ' || c = '\t' || c = '\n') then .ok ([], c :: rest)
      else character isQuoted c rest

/-- The word at the start of a text, and what follows it. -/
def word (dialect : Dialect) (text : Chars) : Except Fault (Word × Chars) :=
  parts dialect (text.length + 1) .plain text

/-- The parts of a key in brackets. -/
def keyParts (text : Chars) : Except Fault Word :=
  (parts .extended (text.length + 1) .key text).map (·.1)

/-- The parts of a text in which only expansions are special. -/
def givenParts (dialect : Dialect) (text : Chars) : Except Fault Word :=
  (parts dialect (text.length + 1) .given text).map (·.1)

end LiveCompile.Shell
