import LiveCompile.Shell.Word

/-! The tokens of a script. A text that a redirection gives follows the line of that
redirection, up to a line that says where it ends. -/

namespace LiveCompile.Shell

inductive Token where
  | word (word : Word)
  | operator (text : String)
  | newline
  /-- a redirection; the word that it needs follows -/
  | redirect (descriptor : Nat) (opening : Opening)
  /-- a redirection from a text -/
  | given (descriptor : Nat) (body : Word)
  /-- an expression between double parentheses -/
  | calculation (text : Chars)
  /-- from here on the script cannot be read -/
  | broken (fault : Fault)
  | finish
  deriving Repr, Inhabited

/-- A token with the line it ends on. -/
structure Lexeme where
  token : Token
  line : Nat
  /-- how it is written -/
  written : Chars := []
  /-- the line a token begins on that cannot be read -/
  begins : Nat := 0
  /-- the assignment that a word is, if it stands where one may -/
  assignment : Option Assignment := none
  deriving Repr, Inhabited

/-- What complaints show to say where they belong; there is nothing at the end. -/
def Lexeme.near? (lexeme : Lexeme) : Option Chars :=
  match lexeme.token with
  | .finish => none
  | .newline => some "newline".toList
  | _ => some lexeme.written

def keywords : List String :=
  ["!", "case", "do", "done", "elif", "else", "esac", "fi", "for", "if", "in", "then", "until",
    "while", "\x7b", "\x7d"]

/-- A token as complaints name it; `asKeyword` tells whether a keyword may stand here. -/
def Token.label (asKeyword : Bool) : Token → String
  | word content =>
    match (Word.bare? content).map String.ofList with
    | some text => if asKeyword && keywords.contains text then "\"" ++ text ++ "\"" else "word"
    | none => "word"
  | operator text => "\"" ++ text ++ "\""
  | newline => "newline"
  | redirect .. => "redirection"
  | given .. => "redirection"
  | calculation _ => "\"((\""
  | broken fault => fault.message
  | finish => "end of file"

/-- The operator of a redirection at the start of a text, the descriptor that it usually
changes, and what follows it. -/
def redirection? : Chars → Option (Opening × Nat × Chars)
  | '<' :: '&' :: rest => some (.copy, 0, rest)
  | '<' :: '>' :: rest => some (.readWrite, 0, rest)
  | '<' :: rest => some (.read, 0, rest)
  | '>' :: '>' :: rest => some (.append, 1, rest)
  | '>' :: '&' :: rest => some (.copy, 1, rest)
  | '>' :: '|' :: rest => some (.replace, 1, rest)
  | '>' :: rest => some (.write, 1, rest)
  | _ => none

/-- The operator of a redirection that only the extended shell has. -/
def addedRedirection? : Chars → Option (Opening × Nat × Chars)
  | '<' :: '<' :: '<' :: rest => some (.line, 0, rest)
  | '&' :: '>' :: '>' :: rest => some (.bothAppend, 1, rest)
  | '&' :: '>' :: rest => some (.both, 1, rest)
  | _ => none

/-- The operator at the start of a text, and what follows it. -/
def operator? : Chars → Option (String × Chars)
  | ';' :: ';' :: rest => some (";;", rest)
  | ';' :: rest => some (";", rest)
  | '&' :: '&' :: rest => some ("&&", rest)
  | '&' :: rest => some ("&", rest)
  | '|' :: '|' :: rest => some ("||", rest)
  | '|' :: rest => some ("|", rest)
  | '(' :: rest => some ("(", rest)
  | ')' :: rest => some (")", rest)
  | _ => none

/-- The text of a word without its quotes, and whether it has any. -/
def delimiter : Word → Chars × Bool
  | [] => ([], false)
  | .literal quoted text :: rest =>
    let (more, anyQuoted) := delimiter rest
    (text ++ more, quoted || anyQuoted)
  | _ :: rest => delimiter rest

/-- The lines before the one that is the delimiter, with how many lines are taken and what
follows them. With `dropTabs` the tabs at the start of a line do not count. The first
argument bounds the number of lines. -/
def linesUpTo (dropTabs : Bool) (stop : Chars) : Nat → Chars → Chars × Nat × Chars
  | 0, text => ([], 0, text)
  | _ + 1, [] => ([], 0, [])
  | count + 1, text =>
    let line := text.takeWhile (· ≠ '\n')
    let ending := (text.drop line.length).take 1
    let rest := text.drop (line.length + 1)
    let line := if dropTabs then line.dropWhile (· = '\t') else line
    if line = stop then ([], 1, rest)
    else
      let (more, taken, rest) := linesUpTo dropTabs stop count rest
      (line ++ ending ++ more, taken + 1, rest)

/-- The text of a redirection whose delimiter has been read: the text itself, how many lines
it takes, and what follows on the line and after the text. -/
def textAfterLine (dropTabs : Bool) (stop : Chars) (rest : Chars) : Chars × Nat × Chars :=
  match rest.dropWhile (· ≠ '\n') with
  | [] => ([], 0, rest)
  | _ :: below =>
    let (body, taken, below) := linesUpTo dropTabs stop (below.length + 1) below
    (body, taken, rest.takeWhile (· ≠ '\n') ++ '\n' :: below)

/-- How many lines end in what was read of a text. -/
def linesBetween (before after : Chars) : Nat := before.count '\n' - after.count '\n'

/-- What the reading of tokens depends on. -/
structure Reading where
  dialect : Dialect
  line : Nat := 1
  /-- the number of lines below that are already taken -/
  taken : Nat := 0
  /-- a command begins here -/
  begins : Bool := true
  /-- the word before begins a loop -/
  afterFor : Bool := false
  inCondition : Bool := false
  /-- an operator of a condition is before that an expression follows -/
  afterMatch : Bool := false
  /-- the name of a function follows -/
  beforeName : Bool := false
  /-- what is read are the elements of an array -/
  inRow : Bool := false

namespace Reading

/-- Words after which a command begins. -/
def openers : List String :=
  ["if", "then", "elif", "else", "while", "until", "do", "\x7b", "!"]

/-- The reading after a word. -/
def afterWord (reading : Reading) (word : Word) : Reading :=
  let text := (Word.bare? word).map String.ofList
  { reading with
    begins := reading.beforeName || (reading.begins && text.any openers.contains)
    beforeName := false
    afterFor := reading.begins && text = some "for"
    afterMatch := reading.inCondition && text = some "=~" }

/-- Words that are operators where they stand in the extended shell. -/
def operator? (reading : Reading) (word : Word) : Option String :=
  let candidates := match reading.dialect, reading.inCondition, reading.begins with
    | .plain, _, _ => []
    | .extended, true, _ => ["]]"]
    | .extended, false, true => ["[[", "function"]
    | .extended, false, false => []
  ((Word.bare? word).map String.ofList).filter candidates.contains

def afterOperator (reading : Reading) (text : String) : Reading :=
  let inCondition := text = "[[" || (reading.inCondition && text ≠ "]]")
  let ends := ["[[", "]]", "function"].contains text
  { reading with
    inCondition, begins := !inCondition && !ends && !reading.inRow, afterFor := false, afterMatch := false
    beforeName := text = "function" }

end Reading

/-- The name at the start of a text that takes a value, its key in brackets, whether the value
comes after the one of before, and what follows. -/
def assigned? (text : Chars) : Option (Chars × Option Word × Bool × Chars) := do
  let (name, key, rest) ← subscripted? text
  if !isName name then none
  else
    let key ← if key.isEmpty then some none else (keyParts key).toOption.map some
    match rest with
    | '=' :: rest => some (name, key, false, rest)
    | '+' :: '=' :: rest => some (name, key, true, rest)
    | _ => none

/-- The assignment that a word is. Only the extended shell assigns to elements and appends. -/
def assignment? (dialect : Dialect) : Word → Option Assignment
  | .literal false text :: rest => do
    let (name, key, appends, value) ← assigned? text
    if dialect = .plain && (appends || key.isSome) then none
    else some ⟨name, key, appends, if value.isEmpty then rest else .literal false value :: rest⟩
  | _ => none

/-- The assignment at the start of a text of the extended shell, and what follows it. -/
def readAssignment? (text : Chars) : Option (Except Fault (Assignment × Chars)) :=
  (assigned? text).map fun (name, key, appends, rest) =>
    match rest with
    | '(' :: inner =>
      match scriptText (inner.length + 1) {} inner with
      | some (elements, rest) => .ok (⟨name, key, appends, [.row elements]⟩, rest)
      | none => .error (.unclosed ')')
    | rest => (word .extended rest).map fun (value, rest) => (⟨name, key, appends, value⟩, rest)

/-- Whether a word is an assignment without the value. -/
def opensRow (dialect : Dialect) (word : Word) : Bool :=
  dialect = .extended && (assignment? dialect word).any (·.value.isEmpty)

/-- The tokens of a text. The first argument bounds the number of steps. -/
def lexemes : Nat → Reading → Chars → List Lexeme
  | 0, reading, _ => [{ token := .finish, line := reading.line }]
  | _ + 1, reading, [] =>
    let finish := { token := .finish, line := reading.line + reading.taken }
    match reading.dialect with
    | .plain => [finish]
    | .extended => [{ token := .newline, line := reading.line }, finish]
  | steps + 1, reading, c :: rest =>
    let line := reading.line
    let isAdded := reading.dialect = .extended
    let written (left : Chars) : Chars := (c :: rest).take (rest.length + 1 - left.length)
    let put (token : Token) (reading : Reading) (left : Chars) : List Lexeme :=
      { token, line := reading.line, written := written left } :: lexemes steps reading left
    let broken (fault : Fault) (line : Nat) : List Lexeme :=
      [{ token := .broken fault, line, begins := reading.line }]
    let redirect (number : Option Nat) (text : Chars) : List Lexeme :=
      match if isAdded then addedRedirection? text else none with
      | some (opening, usual, rest) => put (.redirect (number.getD usual) opening) reading rest
      | none =>
      match text with
      | '<' :: '<' :: rest =>
        let (dropTabs, rest) := match rest with
          | '-' :: rest => (true, rest)
          | rest => (false, rest)
        match word reading.dialect (rest.dropWhile fun c => c = ' ' || c = '\t') with
        | .error fault => broken fault line
        | .ok ([], rest) => put (.redirect (number.getD 0) .text) reading rest
        | .ok (stop, rest) =>
          let (stop, isQuoted) := delimiter stop
          let (body, count, rest) := textAfterLine dropTabs stop rest
          let body := if isQuoted then .ok [.literal true body]
            else givenParts reading.dialect body
          match body with
          | .error fault => broken fault line
          | .ok body =>
            put (.given (number.getD 0) body) { reading with taken := reading.taken + count } rest
      | text =>
        match redirection? text with
        | some (opening, usual, rest) => put (.redirect (number.getD usual) opening) reading rest
        | none => [{ token := .finish, line }]
    match c, rest with
    | '\n', rest =>
      let after := { reading.afterOperator "" with line := line + 1 + reading.taken, taken := 0 }
      { token := .newline, line := if isAdded then line else after.line } :: lexemes steps after rest
    | '\\', '\n' :: rest => lexemes steps { reading with line := line + 1 } rest
    | '#', rest => lexemes steps reading (rest.dropWhile (· ≠ '\n'))
    | c, rest =>
      if c = ' ' || c = '\t' then lexemes steps reading rest
      else if reading.inCondition && (c = '<' || c = '>') then
        put (.word [.literal false [c]]) reading rest
      else if (c = '<' || c = '>') && !(isAdded && c = '<' && rest.head? = some '(') then
        redirect none (c :: rest)
      else if isAdded && c = '&' && rest.head? = some '>' then redirect none (c :: rest)
      else if c.isDigit && (rest.head? = some '<' || rest.head? = some '>') then
        redirect (some (c.toNat - '0'.toNat)) rest
      else
        let expression := if isAdded && c = '(' && rest.head? = some '('
            && (reading.begins || reading.afterFor) then expressionText .extended (rest.drop 1)
          else some none
        let calculation := expression.join
        let added : Option (String × Chars) :=
          if isAdded && c = '|' && rest.head? = some '&' then some ("|&", rest.drop 1)
          else if isAdded && c = ';' && rest.head? = some '&' then some (";&", rest.drop 1)
          else if isAdded && c = ';' && (chars ";&").isPrefixOf rest then
            some (";;&", rest.drop 2)
          else none
        if expression.isNone then broken .unclosedExpression line else
        match calculation, added.or (if reading.afterMatch then none else operator? (c :: rest)) with
        | some (text, left), _ =>
          let line := line + linesBetween (c :: rest) left
          put (.calculation text) { reading.afterOperator "" with begins := reading.afterFor, line } left
        | none, some (text, left) => put (.operator text) (reading.afterOperator text) left
        | none, none =>
          let go (word : Word) (assignment : Option Assignment) (left : Chars) : List Lexeme :=
            let line := line + linesBetween (c :: rest) left
            let after := { reading.afterWord word with line }
            { token := .word word, line, written := written left, assignment }
              :: lexemes steps after left
          let faulty (fault : Fault) : List Lexeme :=
            broken fault (line + linesBetween (c :: rest) [])
          match if isAdded && reading.begins then readAssignment? (c :: rest) else none with
          | some (.error fault) => faulty fault
          | some (.ok (assignment, left)) =>
            { token := .word assignment.value, line := line + linesBetween (c :: rest) left
              written := written left, assignment := some assignment }
              :: lexemes steps { reading with line := line + linesBetween (c :: rest) left } left
          | none =>
            let read := if reading.afterMatch then
                parts reading.dialect (rest.length + 2) .regex (c :: rest)
              else word reading.dialect (c :: rest)
            match read, reading.operator? ((read.toOption.map (·.1)).getD []) with
            | .error fault, _ => faulty fault
            | .ok (_, left), some text => put (.operator text) (reading.afterOperator text) left
            | .ok (word, left), none =>
              match left with
              | '(' :: inner =>
                if !opensRow reading.dialect word then go word (assignment? .plain word) left
                else
                  match scriptText (inner.length + 1) {} inner with
                  | none => faulty (.unclosed ')')
                  | some (elements, left) => go (word ++ [.row elements]) none left
              | left => go word (assignment? .plain word) left
where
  chars (text : String) : Chars := text.toList

/-- The tokens of the elements of an array. -/
def Lexeme.ofRow (text : Chars) : List Lexeme :=
  lexemes (text.length + 1) { dialect := .extended, begins := false, inRow := true } text

/-- The key in brackets at the start of an element, whether its value is appended, and the text
of the value. -/
def Lexeme.element? (lexeme : Lexeme) : Option (Chars × Bool × Chars) :=
  match lexeme.written with
  | '[' :: inner =>
    match subscriptText 0 inner with
    | some (key, '=' :: value) => some (key, false, value)
    | some (key, '+' :: '=' :: value) => some (key, true, value)
    | _ => none
  | _ => none

def Lexeme.ofText (dialect : Dialect) (text : Chars) : List Lexeme :=
  lexemes (text.length + 1) { dialect } text

end LiveCompile.Shell
