/-! Blanks, comments, line ends and the four kinds of strings of a TOML document. A reader
takes characters from the start of its input and gives the rest. -/

namespace LiveCompile.Toml

def isBlank (c : Char) : Bool := c = ' ' || c = '\t'

def skipBlanks (input : List Char) : List Char := input.dropWhile isBlank

/-- Characters of a comment: a tab, or no control character. -/
def isCommentChar (c : Char) : Bool := c = '\t' || (c.toNat ≥ 0x20 && c.toNat ≠ 0x7f)

/-- The rest after a line end. -/
def lineEnd? : List Char → Option (List Char)
  | '\n' :: rest => some rest
  | '\r' :: '\n' :: rest => some rest
  | _ => none

/-- The rest after a comment, if one starts here. -/
def skipComment : List Char → List Char
  | '#' :: rest => rest.dropWhile isCommentChar
  | input => input

/-- The rest of a line with nothing but blanks and a comment. -/
def restOfLine? (input : List Char) : Option (List Char) :=
  match skipComment (skipBlanks input) with
  | [] => some []
  | rest => lineEnd? rest

/-- Skips blanks, line ends and comments with their line ends. The first argument bounds
the number of parts. -/
def skipLines : Nat → List Char → List Char
  | 0, input => input
  | parts + 1, input =>
    match skipBlanks input with
    | '#' :: rest =>
      match lineEnd? (rest.dropWhile isCommentChar) with
      | some rest => skipLines parts rest
      | none => '#' :: rest
    | input =>
      match lineEnd? input with
      | some rest => skipLines parts rest
      | none => input

def skipSpace (input : List Char) : List Char := skipLines input.length input

/-- Characters that stand for themselves in a basic string. -/
def isBasicChar (c : Char) : Bool :=
  (c = '\t' || (c.toNat ≥ 0x20 && c.toNat ≠ 0x7f)) && c ≠ '"' && c ≠ '\\'

/-- Characters of a literal string. -/
def isLiteralChar (c : Char) : Bool :=
  (c = '\t' || (c.toNat ≥ 0x20 && c.toNat ≠ 0x7f)) && c ≠ '\''

def hexValue? (c : Char) : Option Nat :=
  if c.isDigit then some (c.toNat - 48)
  else if 'a' ≤ c ∧ c ≤ 'f' then some (c.toNat - 87)
  else if 'A' ≤ c ∧ c ≤ 'F' then some (c.toNat - 55)
  else none

/-- A number of hexadecimal digits. -/
def hexNumber? : Nat → Nat → List Char → Option (Nat × List Char)
  | 0, value, input => some (value, input)
  | _ + 1, _, [] => none
  | count + 1, value, c :: rest => do hexNumber? count (value * 16 + (← hexValue? c)) rest

/-- A character given by number, which is no surrogate. -/
def numbered? (count : Nat) (input : List Char) : Option (Char × List Char) := do
  let (value, rest) ← hexNumber? count 0 input
  if value.isValidChar then some (Char.ofNat value, rest) else none

/-- The character after a backslash. -/
def escaped? : List Char → Option (Char × List Char)
  | 'b' :: rest => some ('\x08', rest)
  | 'f' :: rest => some ('\x0c', rest)
  | 'n' :: rest => some ('\n', rest)
  | 'r' :: rest => some ('\r', rest)
  | 't' :: rest => some ('\t', rest)
  | '"' :: rest => some ('"', rest)
  | '\\' :: rest => some ('\\', rest)
  | 'u' :: rest => numbered? 4 rest
  | 'U' :: rest => numbered? 8 rest
  | _ => none

/-- The rest of a basic string. The first argument bounds the number of characters. -/
def basicBody? : Nat → List Char → Option (List Char × List Char)
  | 0, _ => none
  | _ + 1, [] => none
  | _ + 1, '"' :: rest => some ([], rest)
  | steps + 1, '\\' :: rest => do
    let (c, rest) ← escaped? rest
    let (body, rest) ← basicBody? steps rest
    return (c :: body, rest)
  | steps + 1, c :: rest =>
    if isBasicChar c then do
      let (body, rest) ← basicBody? steps rest
      return (c :: body, rest)
    else none

def literalBody? : List Char → Option (List Char × List Char)
  | [] => none
  | '\'' :: rest => some ([], rest)
  | c :: rest =>
    if isLiteralChar c then do
      let (body, rest) ← literalBody? rest
      return (c :: body, rest)
    else none

/-- A run of quotes inside a string of several lines: up to two belong to the text, three
close it, and up to two before these belong to the text too. Gives the quotes of the text
and whether the string is closed. -/
def quoteRun? (quote : Char) (input : List Char) : Option (List Char × Bool × List Char) :=
  let count := (input.takeWhile (· = quote)).length
  if count < 3 then some (List.replicate count quote, false, input.drop count)
  else if count ≤ 5 then some (List.replicate (count - 3) quote, true, input.drop count)
  else none

/-- Skips blanks and line ends. The first argument bounds the number of lines. -/
def skipEmptyLines : Nat → List Char → List Char
  | 0, input => input
  | lines + 1, input =>
    match lineEnd? (skipBlanks input) with
    | some rest => skipEmptyLines lines rest
    | none => skipBlanks input

/-- Skips a line end that is escaped: blanks, the line end, then blanks and line ends. -/
def joinedLine? (input : List Char) : Option (List Char) := do
  let rest ← lineEnd? (skipBlanks input)
  return skipEmptyLines (rest.length + 1) rest

/-- The rest of a string of several lines; `escapes` tells whether a backslash is special.
The first argument bounds the number of parts. -/
def linesBody? (quote : Char) (escapes : Bool) : Nat → List Char → Option (List Char × List Char)
  | 0, _ => none
  | _ + 1, [] => none
  | steps + 1, c :: rest =>
    if c = quote then do
      let (quotes, closed, rest) ← quoteRun? quote (c :: rest)
      if closed then return (quotes, rest)
      else
        let (body, rest) ← linesBody? quote escapes steps rest
        return (quotes ++ body, rest)
    else if escapes && c = '\\' then
      match joinedLine? rest with
      | some rest => linesBody? quote escapes steps rest
      | none => do
        let (c, rest) ← escaped? rest
        let (body, rest) ← linesBody? quote escapes steps rest
        return (c :: body, rest)
    else
      match lineEnd? (c :: rest) with
      | some rest => do
        let (body, rest) ← linesBody? quote escapes steps rest
        return ('\n' :: body, rest)
      | none =>
        if c = '\t' || (c.toNat ≥ 0x20 && c.toNat ≠ 0x7f) then do
          let (body, rest) ← linesBody? quote escapes steps rest
          return (c :: body, rest)
        else none

/-- A string of several lines after its opening quotes; a line end right after them is
left out. -/
def lines? (quote : Char) (escapes : Bool) (input : List Char) : Option (List Char × List Char) :=
  linesBody? quote escapes (input.length + 1) ((lineEnd? input).getD input)

/-- A string on one line. -/
def lineString? : List Char → Option (String × List Char)
  | '"' :: rest =>
    (basicBody? (rest.length + 1) rest).map fun (body, rest) => (String.ofList body, rest)
  | '\'' :: rest => (literalBody? rest).map fun (body, rest) => (String.ofList body, rest)
  | _ => none

/-- A string of any kind. -/
def string? : List Char → Option (String × List Char)
  | '"' :: '"' :: '"' :: rest =>
    (lines? '"' true rest).map fun (body, rest) => (String.ofList body, rest)
  | '\'' :: '\'' :: '\'' :: rest =>
    (lines? '\'' false rest).map fun (body, rest) => (String.ofList body, rest)
  | input => lineString? input

end LiveCompile.Toml
