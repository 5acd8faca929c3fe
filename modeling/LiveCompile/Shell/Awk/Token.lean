import LiveCompile.Shell.Awk.Syntax

/-! The tokens of programs. A division sign where an operand begins opens a pattern. -/

namespace LiveCompile.Shell.Awk

inductive Token where
  | sign (text : String)
  | newline
  | ended
  | number (value : Floating) (written : Chars)
  | text (content : Chars)
  | pattern (content : Chars)
  /-- a name, and whether an opening parenthesis follows it at once -/
  | name (name : Chars) (isCalled : Bool)
  | keyword (word : String)
  /-- a function that every program has -/
  | known (word : String)
  /-- what can be no token, with what is said about it -/
  | bad (complaint : Chars)
  /-- a closing sign that nothing opened; it is passed over -/
  | excess (complaint : Chars)

/-- A token with its line. -/
structure Placed where
  token : Token
  line : Nat

instance : Inhabited Placed := ⟨⟨.ended, 1⟩⟩

namespace Token

def keywords : List String :=
  ["BEGIN", "END", "function", "func", "if", "else", "while", "for", "do", "break", "continue",
    "next", "nextfile", "exit", "return", "delete", "in", "getline", "print", "printf"]

def knownFunctions : List String :=
  ["length", "substr", "index", "split", "sub", "gsub", "match", "sprintf", "sin", "cos", "atan2",
    "exp", "log", "sqrt", "int", "rand", "srand", "tolower", "toupper", "system", "close",
    "fflush"]

/-- Signs, the longer ones first. -/
def signs : List String :=
  [">>", "<=", ">=", "==", "!=", "!~", "&&", "||", "++", "--", "+=", "-=", "*=", "%=", "^=",
    "\x7b", "\x7d", "(", ")", "[", "]", ";", ",", "+", "-", "*", "%", "^", "!", ">", "<", "|", "?",
    ":", "~", "$", "="]

/-- How a token is shown in complaints. -/
def shown : Token → Chars
  | sign symbol => chars symbol
  | newline => chars "end of line"
  | ended => chars "end of file"
  | number _ written => written
  | text content => content
  | pattern content => '/' :: content ++ ['/']
  | name letters _ => letters
  | keyword word => chars word
  | known word => chars word
  | bad complaint => complaint
  | excess complaint => complaint

/-- Whether a division sign after a token divides. -/
def endsOperand : Token → Bool
  | sign ")" => true
  | sign "]" => true
  | sign "++" => true
  | sign "--" => true
  | number _ _ => true
  | text _ => true
  | pattern _ => true
  | name _ _ => true
  | keyword "getline" => true
  | known "length" => true
  | _ => false

end Token

namespace Scan

/-- A text between double quotes with its escapes replaced; other backslashes stay. The first
argument bounds the number of steps. -/
def unescaped : Nat → Chars → Chars
  | 0, written => written
  | _ + 1, [] => []
  | steps + 1, '\\' :: c :: rest =>
    let simple? : Option Char := match c with
      | '"' => some '"'
      | '\\' => some '\\'
      | 'a' => some '\x07'
      | 'b' => some '\x08'
      | 'f' => some '\x0c'
      | 'n' => some '\n'
      | 'r' => some '\r'
      | 't' => some '\t'
      | 'v' => some '\x0b'
      | _ => none
    let isOctal (c : Char) : Bool := '0' ≤ c && c ≤ '7'
    match simple? with
    | some c => c :: unescaped steps rest
    | none =>
      if isOctal c then
        let digits := ((c :: rest).take 3).takeWhile isOctal
        Char.ofNat (Expression.valueInBase 8 digits % 256)
          :: unescaped steps ((c :: rest).drop digits.length)
      else if c = 'x' && (rest.head?.bind (Expression.digitValue? 16)).isSome then
        let digits := (rest.take 2).takeWhile fun c => (Expression.digitValue? 16 c).isSome
        Char.ofNat (Expression.valueInBase 16 digits % 256)
          :: unescaped steps (rest.drop digits.length)
      else '\\' :: c :: unescaped steps rest
  | steps + 1, c :: rest => c :: unescaped steps rest

/-- A text up to its closing quote, with its backslashes, and what follows; nothing if its line
ends before. -/
def quoted? : Chars → Option (Chars × Chars)
  | '"' :: rest => some ([], rest)
  | '\\' :: '\n' :: rest => quoted? rest
  | '\\' :: c :: rest => (quoted? rest).map fun (text, rest) => ('\\' :: c :: text, rest)
  | '\n' :: _ => none
  | c :: rest => (quoted? rest).map fun (text, rest) => (c :: text, rest)
  | [] => none

/-- A pattern up to its closing sign, and what follows; `place` is the number of characters since
a bracket was opened. -/
def pattern? (place : Option Nat) : Chars → Option (Chars × Chars)
  | [] => none
  | '\n' :: _ => none
  | '\\' :: '/' :: rest =>
    (pattern? (place.map (· + 1)) rest).map fun (text, rest) => ('/' :: text, rest)
  | '\\' :: c :: rest =>
    if c = '\n' then none
    else (pattern? (place.map (· + 1)) rest).map fun (text, rest) => ('\\' :: c :: text, rest)
  | c :: rest =>
    let go (place : Option Nat) : Option (Chars × Chars) :=
      (pattern? place rest).map fun (text, rest) => (c :: text, rest)
    match place with
    | none => if c = '/' then some ([], rest) else go (if c = '[' then some 0 else none)
    | some n =>
      if c = ']' && 0 < n then go none
      else if c = '^' && n = 0 then go (some 0)
      else go (some (n + 1))

/-- A number at the start of a text, and what follows it. -/
def number? (text : Chars) : Option (Floating × Chars × Chars) :=
  (Floating.digitsAround? 10 text).map fun (digits, places, rest) =>
    let (exponent, after) := Floating.exponentAfter 'e' rest
    let value := Floating.scaled false digits 10 (exponent - places)
    (value, text.take (text.length - after.length), after)

def isNameStart (c : Char) : Bool := c.isAlpha || c = '_'

def isNamePart (c : Char) : Bool := c.isAlphanum || c = '_'

/-- A pattern with slashes for those that have a backslash before them. -/
def withoutSlashes : Chars → Chars
  | '\\' :: '/' :: rest => '/' :: withoutSlashes rest
  | c :: rest => c :: withoutSlashes rest
  | [] => []

/-- What complaints show of what is not closed in its line. -/
def beginning (text : Chars) : Chars := (text.takeWhile (· ≠ '\n')).take 10

/-- The tokens of a text. `depth` is the number of open parentheses, `braces` that of open
braces, `last` the token before. The first argument bounds the number of steps. -/
def ofText : Nat → Nat → Nat → Nat → Token → Chars → List Placed
  | 0, _, _, _, _, _ => []
  | steps + 1, line, depth, braces, last, text =>
    let bad (complaint : Chars) : List Placed := [⟨.bad complaint, line⟩]
    let missing (near : String) : List Placed :=
      bad (chars ("missing ) near " ++ near))
    let go (token : Token) (rest : Chars) : List Placed :=
      ⟨token, line⟩ :: ofText steps line depth braces token rest
    let passOver (complaint : String) (rest : Chars) : List Placed :=
      let token := Token.excess (chars complaint)
      let isBetweenRules := match last with
        | .sign "\x7d" => true
        | .newline => true
        | .excess _ => true
        | _ => false
      ⟨token, line⟩ :: ofText steps line depth braces (if isBetweenRules then token else last) rest
    match text with
    | [] =>
      if 0 < depth then missing "end of file"
      else if 0 < braces then bad (chars "missing \x7d near end of file")
      else [⟨.ended, line⟩]
    | '\\' :: '\n' :: rest => ofText steps (line + 1) depth braces last rest
    | '\n' :: rest =>
      let isOpen := match last with
        | .sign "," => true
        | .sign "&&" => true
        | .sign "||" => true
        | _ => false
      if isOpen then ofText steps (line + 1) depth braces last rest
      else if 0 < depth then missing "end of line"
      else if braces = 0 && last matches .excess _ then
        bad (chars "syntax error at or near end of line")
      else ⟨.newline, line⟩ :: ofText steps (line + 1) depth braces .newline rest
    | '#' :: rest => ofText steps line depth braces last (rest.dropWhile (· ≠ '\n'))
    | '"' :: rest =>
      match quoted? rest with
      | some (content, after) =>
        let lines := (rest.take (rest.length - after.length)).count '\n'
        let token := Token.text (unescaped (content.length + 1) content)
        ⟨token, line⟩ :: ofText steps (line + lines) depth braces token after
      | none =>
        bad (chars "runaway string constant " ++ '"' :: beginning rest ++ chars " ...")
    | '/' :: rest =>
      if last.endsOperand && !(match last with | .sign "++" => true | .sign "--" => true | _ => false)
      then
        match rest with
        | '=' :: rest => go (.sign "/=") rest
        | rest => go (.sign "/") rest
      else
        match pattern? none rest with
        | some (content, rest) => go (.pattern content) rest
        | none =>
          bad (chars "runaway regular expression /" ++ beginning (withoutSlashes rest)
            ++ chars " ...")
    | c :: rest =>
      if c = ' ' || c = '\t' || c = '\r' || c = '\x0c' || c = '\x0b' then
        ofText steps line depth braces last rest
      else if isNameStart c then
        let word := text.takeWhile isNamePart
        let rest := text.dropWhile isNamePart
        let written := String.ofList word
        if Token.keywords.contains written then go (.keyword written) rest
        else if Token.knownFunctions.contains written then go (.known written) rest
        else go (.name word (rest.head? = some '(')) rest
      else
        match number? text with
        | some (value, written, rest) =>
          match value.rounded Floating.double with
          | (_, true) => bad (written ++ chars " : decimal overflow")
          | _ => go (.number (value.rounded Floating.double).1 written) rest
        | none =>
          match Token.signs.find? fun sign => sign.toList.isPrefixOf text with
          | none => bad (chars "unexpected character '" ++ [c, '\x27'])
          | some sign =>
            let token := Token.sign sign
            let rest := text.drop sign.length
            match sign with
            | "(" => ⟨token, line⟩ :: ofText steps line (depth + 1) braces token rest
            | ")" =>
              if depth = 0 then passOver "extra ')'" rest
              else ⟨token, line⟩ :: ofText steps line (depth - 1) braces token rest
            | "\x7b" => ⟨token, line⟩ :: ofText steps line depth (braces + 1) token rest
            | "\x7d" =>
              if 0 < depth then missing "\x7d"
              else if braces = 0 then passOver "extra '\x7d'" rest
              else ⟨token, line⟩ :: ofText steps line depth (braces - 1) token rest
            | _ => go token rest

end Scan

/-- The tokens of a program. -/
def tokens (text : Chars) : List Placed :=
  Scan.ofText (text.length + 2) 1 0 0 .newline text

end LiveCompile.Shell.Awk
