import LiveCompile.Shell.Token

/-! Reading commands. A reader gives what it read and the tokens after it. A script is read
line by line: the commands of a line are complete before those of the next one are looked
at, so what is wrong with a later line does not touch an earlier one. -/

namespace LiveCompile.Shell

abbrev Tokens := List Lexeme

/-- What is wrong with a script, and on which line. -/
structure Misplaced where
  line : Nat
  fault : Fault
  /-- the line on which the token begins that cannot be read -/
  begins : Nat := line
  deriving Repr, Inhabited, DecidableEq

/-- The next token, which is the end if no other one follows. -/
def next (input : Tokens) : Lexeme := input.headD { token := .finish, line := 1 }

/-- The complaint about the next token; `expected` is what should be there. -/
def unexpected (asKeyword : Bool) (expected : Option String) (input : Tokens) : Misplaced :=
  let next := next input
  match next.token with
  | .broken fault => { line := next.line, fault, begins := next.begins }
  | token =>
    let wanted := match expected with
      | some "word" => " (expecting word)"
      | some expected => " (expecting \"" ++ expected ++ "\")"
      | none => ""
    let told := token.label asKeyword ++ " unexpected" ++ wanted
    { line := next.line, fault := .unexpected told next.near? }

/-- The name of the next token where a keyword may stand. -/
def nextLabel (input : Tokens) : String := (next input).token.label true

def isNext (input : Tokens) (text : String) : Bool := nextLabel input == "\"" ++ text ++ "\""

def expect (text : String) (input : Tokens) : Except Misplaced Tokens :=
  if isNext input text then .ok (input.drop 1) else .error (unexpected true (some text) input)

/-- Expects a parenthesis where no keyword may stand. -/
def expectParenthesis (input : Tokens) : Except Misplaced Tokens :=
  if isNext input ")" then .ok (input.drop 1) else .error (unexpected false (some ")") input)

def skipNewlines : Tokens → Tokens
  | [] => []
  | next :: rest =>
    match next.token with
    | .newline => skipNewlines rest
    | _ => next :: rest

/-- Tokens that end the commands of an enclosing command. -/
def closers : List String :=
  [")", ";;", "do", "done", "elif", "else", "esac", "fi", "then", "\x7d"]

def isCloser (input : Tokens) : Bool := closers.any (isNext input)

/-- Commands that are part of the shell's grammar in a narrower sense: no function can take
their names. -/
def specialBuiltins : List String :=
  [".", ":", "break", "continue", "eval", "exec", "exit", "export", "local", "readonly", "return",
    "set", "shift", "times", "trap", "unset"]

/-- A redirection at the start of the tokens, if there is one. -/
def redirect? : Tokens → Option (Except Misplaced (Redirect × Tokens))
  | [] => none
  | next :: rest =>
    match next.token, rest with
    | .given descriptor body, rest => some (.ok ({ descriptor, opening := .text, word := body }, rest))
    | .redirect descriptor opening, target :: others =>
      match target.token with
      | .word word => some (.ok (⟨descriptor, opening, word, target.written⟩, others))
      | _ => some (.error (unexpected false none rest))
    | .redirect .., [] => some (.error (unexpected false none []))
    | _, _ => none

/-- All redirections at the start of the tokens. The first argument bounds their number. -/
def redirects : Nat → Tokens → Except Misplaced (List Redirect × Tokens)
  | 0, input => .ok ([], input)
  | count + 1, input =>
    match redirect? input with
    | none => .ok ([], input)
    | some reading => do
      let (first, rest) ← reading
      let (others, rest) ← redirects count rest
      return (first :: others, rest)

/-- The assignments, words and redirections of a simple command. -/
structure Pieces where
  assignments : List Assignment := []
  words : List Word := []
  redirects : List Redirect := []

/-- What is read of a simple command, up to the first token that is no part of it. The first
argument bounds the number of tokens. -/
def pieces : Nat → Pieces → Tokens → Except Misplaced (Pieces × Tokens)
  | 0, read, input => .ok (read, input)
  | count + 1, read, input =>
    match redirect? input, input with
    | some reading, _ => do
      let (redirect, rest) ← reading
      pieces count { read with redirects := read.redirects ++ [redirect] } rest
    | none, [] => .ok (read, input)
    | none, next :: rest =>
      match next.token, next.assignment.filter fun _ => read.words.isEmpty with
      | .word _, some assignment =>
        pieces count { read with assignments := read.assignments ++ [assignment] } rest
      | .word word, none => pieces count { read with words := read.words ++ [word] } rest
      | _, _ => .ok (read, input)

/-- The words at the start of the tokens. -/
def leadingWords : Tokens → List Word × Tokens
  | [] => ([], [])
  | next :: rest =>
    match next.token with
    | .word word =>
      let (words, rest) := leadingWords rest
      (word :: words, rest)
    | _ => ([], next :: rest)

/-- The patterns of a clause up to the parenthesis that ends them. -/
def patterns : Tokens → Except Misplaced (List Word × Tokens)
  | [] => .error (unexpected true (some ")") [])
  | next :: rest =>
    match next.token, rest with
    | .word word, after :: others =>
      match after.token with
      | .operator "|" => do
        let (more, rest) ← patterns others
        return (word :: more, rest)
      | _ => do return ([word], ← expectParenthesis rest)
    | .word word, [] => do return ([word], ← expectParenthesis [])
    | _, rest => do return ([], ← expectParenthesis rest)

/-- The operator at the start of the tokens, and what follows it. -/
def leadingOperator (input : Tokens) : Option String × Tokens :=
  match (next input).token with
  | .operator text => (some text, input.drop 1)
  | _ => (none, input)

/-- Whether a word between double brackets is an operator. -/
def operatorIn? (operators : List String) (word : Word) : Option Chars :=
  ((Word.bare? word).filter fun text => operators.contains (String.ofList text))

/-- The operators with two operands between double brackets. -/
def comparing : List String :=
  ["=", "==", "!=", "=~", "<", ">", "-eq", "-ne", "-gt", "-ge", "-lt", "-le", "-nt", "-ot", "-ef"]

/-- The operators with one operand between double brackets. -/
def asking : List String :=
  ["-a", "-b", "-c", "-d", "-e", "-f", "-g", "-h", "-k", "-n", "-o", "-p", "-r", "-s", "-t", "-u",
    "-v", "-w", "-x", "-z", "-G", "-L", "-N", "-O", "-R", "-S"]

/-- A complaint about a condition that shows where it is. -/
def misjudgedAt (near : Lexeme) (told : String) : Misplaced :=
  { line := near.line, fault := .inCondition told.toList (near.near?.getD []) }

/-- A complaint about a condition that names a token. -/
def misjudged (before after : String) (named near : Lexeme) : Misplaced :=
  misjudgedAt near (before ++ "\x60" ++ String.ofList (named.near?.getD []) ++ "'" ++ after)

mutual

/-- A condition up to a closing bracket or parenthesis. The first argument of each reader bounds
the depth of its calls. -/
def eitherCondition : Nat → Tokens → Except Misplaced (Condition × Tokens)
  | 0, input => .error (unexpected true none input)
  | steps + 1, input => do
    let (first, rest) ← bothCondition steps input
    match leadingOperator (skipNewlines rest) with
    | (some "||", rest) =>
      let (second, rest) ← eitherCondition steps rest
      return (.either first second, rest)
    | _ => return (first, rest)

def bothCondition : Nat → Tokens → Except Misplaced (Condition × Tokens)
  | 0, input => .error (unexpected true none input)
  | steps + 1, input => do
    let (first, rest) ← singleCondition steps input
    match leadingOperator (skipNewlines rest) with
    | (some "&&", rest) =>
      let (second, rest) ← bothCondition steps rest
      return (.both first second, rest)
    | _ => return (first, rest)

def singleCondition : Nat → Tokens → Except Misplaced (Condition × Tokens)
  | 0, input => .error (unexpected true none input)
  | steps + 1, input => do
    let input := skipNewlines input
    let operator? (lexeme : Lexeme) (known : List String) : Option Chars :=
      match lexeme.token with
      | .word word => operatorIn? known word
      | _ => none
    match leadingOperator input, input with
    | (some "(", rest), _ =>
      let (inner, rest) ← eitherCondition steps rest
      let rest := skipNewlines rest
      if isNext rest ")" then return (inner, rest.drop 1)
      else .error (misjudged "unexpected token " ", expected \x60)'" (next rest) (next rest))
    | _, first :: rest =>
      let second := next rest
      match first.token, operator? first ["!"], operator? first asking, operator? second comparing with
      | .word left, none, _, some operator =>
        match rest.drop 1 with
        | third :: rest =>
          match third.token with
          | .word right => return (.binary left operator right, rest)
          | .newline =>
            .error (misjudged "unexpected argument " " to conditional binary operator" third second)
          | _ =>
            .error (misjudged "unexpected argument " " to conditional binary operator" third third)
        | [] => .error (unexpected true none [])
      | .word _, some _, _, _ =>
        let (inner, rest) ← singleCondition steps rest
        return (.negation inner, rest)
      | .word _, none, some operator, none =>
        match second.token with
        | .word operand => return (.unary operator operand, rest.drop 1)
        | .newline =>
          .error (misjudged "unexpected argument " " to conditional unary operator" second first)
        | _ =>
          .error (misjudged "unexpected argument " " to conditional unary operator" second second)
      | .word left, none, none, none =>
        match second.token with
        | .word _ => .error (misjudgedAt second "conditional binary operator expected")
        | .newline =>
          .error (misjudged "unexpected token " ", conditional binary operator expected" second first)
        | _ => return (.word left, rest)
      | .broken _, _, _, _ => .error (unexpected true none input)
      | .finish, _, _, _ => .error (unexpected true none input)
      | _, _, _, _ => .error (misjudgedAt first "")
    | _, [] => .error (unexpected true none [])

end

/-- The pieces of a text between semicolons. -/
def betweenSemicolons (text : Chars) : List Chars :=
  text.foldr (fun c pieces =>
    match c, pieces with
    | ';', pieces => [] :: pieces
    | c, piece :: rest => (c :: piece) :: rest
    | c, [] => [[c]]) [[]]

/-- Whether a command begins that may be the body of any function. -/
def opensBody (input : Tokens) : Bool :=
  ["\x7b", "(", "((", "[[", "if", "for", "while", "until", "case"].any (isNext input)

/-- A command whose complaints go where its output goes. -/
def withComplaints (line : Nat) (command : Command) : Command :=
  .redirected line command [⟨2, .copy, [.literal false ['1']], ['1']⟩]

section Reading

variable (dialect : Dialect)

mutual

/-- Commands up to a token that closes what encloses them, at least one unless `mayBeEmpty`
or the text ends. The first argument of each reader bounds the depth of its calls. -/
def commands (mayBeEmpty : Bool) :
    Nat → Option Command → Tokens → Except Misplaced (Option Command × Tokens)
  | 0, _, input => .error (unexpected true none input)
  | steps + 1, before, input => do
    let input := skipNewlines input
    if nextLabel input == "end of file" then return (before, input)
    else if (mayBeEmpty || before.isSome) && isCloser input then return (before, input)
    else
      let (command, rest) ← chain steps input
      let join (command : Command) : Option Command :=
        some (match before with
          | none => command
          | some before => .sequence before command)
      match (next rest).token with
      | .operator "&" => commands mayBeEmpty steps (join (.background command)) (rest.drop 1)
      | .operator ";" => commands mayBeEmpty steps (join command) (rest.drop 1)
      | .newline => commands mayBeEmpty steps (join command) (rest.drop 1)
      | _ => return (join command, rest)

/-- Pipelines that run depending on how the one before them ended. -/
def chain : Nat → Tokens → Except Misplaced (Command × Tokens)
  | 0, input => .error (unexpected true none input)
  | steps + 1, input => do
    let (first, rest) ← pipeline steps input
    chainAfter steps first rest

def chainAfter : Nat → Command → Tokens → Except Misplaced (Command × Tokens)
  | 0, _, input => .error (unexpected true none input)
  | steps + 1, first, input =>
    match leadingOperator input with
    | (some "&&", rest) => do
      let (second, rest) ← pipeline steps (skipNewlines rest)
      chainAfter steps (.both first second) rest
    | (some "||", rest) => do
      let (second, rest) ← pipeline steps (skipNewlines rest)
      chainAfter steps (.either first second) rest
    | _ => .ok (first, input)

def pipeline : Nat → Tokens → Except Misplaced (Command × Tokens)
  | 0, input => .error (unexpected true none input)
  | steps + 1, input => do
    let negated := isNext input "!"
    let (stages, rest) ← stages steps (if negated then input.drop 1 else input)
    let command := match stages with
      | [stage] => stage
      | stages => .pipeline stages
    return (if negated then .negation command else command, rest)

def stages : Nat → Tokens → Except Misplaced (List Command × Tokens)
  | 0, input => .error (unexpected true none input)
  | steps + 1, input => do
    let (first, rest) ← command steps input
    match leadingOperator rest with
    | (some "|", rest) =>
      let (others, rest) ← stages steps (skipNewlines rest)
      return (first :: others, rest)
    | (some "|&", rest) =>
      let (others, rest) ← stages steps (skipNewlines rest)
      return (withComplaints (next input).line first :: others, rest)
    | _ => return ([first], rest)

/-- Commands that must be there, up to a closing keyword or parenthesis. -/
def block (close : String) : Nat → Tokens → Except Misplaced (Command × Tokens)
  | 0, input => .error (unexpected true none input)
  | steps + 1, input => do
    match ← commands false steps none input with
    | (some body, rest) => return (body, ← expect close rest)
    | (none, rest) => .error (unexpected true (some close) rest)

/-- What follows the condition of a conditional. -/
def branches : Nat → Tokens → Except Misplaced (Command × Tokens)
  | 0, input => .error (unexpected true none input)
  | steps + 1, input => do
    let (condition, rest) ← block "then" steps input
    let (first?, rest) ← commands false steps none rest
    let some first := first? | .error (unexpected true (some "fi") rest)
    let conditional (second : Option Command) : Command := .conditional condition first second
    if isNext rest "elif" then
      let (second, rest) ← branches steps (rest.drop 1)
      return (conditional (some second), rest)
    else if isNext rest "else" then
      let (second, rest) ← commands false steps none (rest.drop 1)
      return (conditional second, ← expect "fi" rest)
    else return (conditional none, ← expect "fi" rest)

/-- The clauses of a choice. -/
def clauses :
    Nat → Tokens → Except Misplaced (List (List Word × Option Command × ClauseEnd) × Tokens)
  | 0, input => .error (unexpected true none input)
  | steps + 1, input => do
    let input := skipNewlines input
    if isNext input "esac" then return ([], input.drop 1)
    else
      let (patterns, rest) ← patterns (if isNext input "(" then input.drop 1 else input)
      let (body, rest) ← commands true steps none rest
      let rest := skipNewlines rest
      if isNext rest "esac" then return ([(patterns, body, .nothing)], rest.drop 1)
      else
        let (after, rest) ← match leadingOperator rest with
          | (some ";&", rest) => .ok (.next, rest)
          | (some ";;&", rest) => .ok (.others, rest)
          | _ => (expect ";;" rest).map (ClauseEnd.nothing, ·)
        let (others, rest) ← clauses steps rest
        return ((patterns, body, after) :: others, rest)

/-- A command that may be redirected as a whole. -/
def withRedirects : Nat → Nat → Command → Tokens → Except Misplaced (Command × Tokens)
  | 0, _, _, input => .error (unexpected true none input)
  | _ + 1, line, command, input => do
    let (found, rest) ← redirects input.length input
    return (if found.isEmpty then command else .redirected line command found, rest)

def command : Nat → Tokens → Except Misplaced (Command × Tokens)
  | 0, input => .error (unexpected true none input)
  | steps + 1, input => do
    let line := (next input).line
    let rest := input.drop 1
    match nextLabel input with
    | "\"if\"" =>
      let (command, rest) ← branches steps rest
      withRedirects steps line command rest
    | "\"while\"" =>
      let (condition, rest) ← block "do" steps rest
      let (body, rest) ← block "done" steps rest
      withRedirects steps line (.loop false condition body) rest
    | "\"until\"" =>
      let (condition, rest) ← block "do" steps rest
      let (body, rest) ← block "done" steps rest
      withRedirects steps line (.loop true condition body) rest
    | "\"for\"" =>
      match (next rest).token with
      | .word word => eachLoop steps line (next rest) word (rest.drop 1)
      | .calculation text =>
        let (start, test, step) := match betweenSemicolons text with
          | [start, test, step] => (start, test, step)
          | _ => (text, [], [])
        let rest := rest.drop 1
        let rest := skipNewlines (if isNext rest ";" then rest.drop 1 else rest)
        let (body, rest) ← if isNext rest "\x7b" then block "\x7d" steps (rest.drop 1)
          else do block "done" steps (← expect "do" rest)
        withRedirects steps line (.counting line start test step body) rest
      | .broken fault => .error { line := (next rest).line, fault, begins := (next rest).begins }
      | _ =>
        match dialect with
        | .plain => .error { line := (next rest).line, fault := .badLoopVariable [] }
        | .extended => .error (unexpected true none rest)
    | "\"case\"" =>
      match (next rest).token with
      | .word subject =>
        let written := "case ".toList ++ (next rest).written ++ " in".toList
        let rest ← expect "in" (skipNewlines (rest.drop 1))
        let (clauses, rest) ← clauses steps rest
        withRedirects steps line (.choice line subject clauses written) rest
      | _ => .error (unexpected false (some "word") rest)
    | "\"((\"" =>
      match (next input).token with
      | .calculation text => withRedirects steps line (.calculation line text) rest
      | _ => .error (unexpected true none input)
    | "\"[[\"" =>
      let (condition, rest) ← eitherCondition (16 * input.length + 16) rest
      let rest := skipNewlines rest
      if isNext rest "]]" then withRedirects steps line (.condition line condition) (rest.drop 1)
      else
        let told := match (next rest).token with
          | .operator text => ": unexpected token \x60" ++ text ++ "'"
          | _ => ""
        .error (misjudgedAt (next rest) ("syntax error in conditional expression" ++ told))
    | "\"function\"" =>
      match (next rest).token with
      | .word word =>
        let rest := rest.drop 1
        let rest ← if isNext rest "(" then expectParenthesis (rest.drop 1) else .ok rest
        let (body, rest) ← command steps (skipNewlines rest)
        return (.define ((Word.bare? word).getD []) body, rest)
      | _ => .error (unexpected true none rest)
    | "\"(\"" =>
      let (body, rest) ← block ")" steps rest
      withRedirects steps line (.subshell body) rest
    | "\"\x7b\"" =>
      let (body, rest) ← block "\x7d" steps rest
      withRedirects steps line body rest
    | "word" => simple steps input
    | "redirection" => simple steps input
    | _ => .error (unexpected true none input)

/-- A loop over words, after its variable. -/
def eachLoop :
    Nat → Nat → Lexeme → Word → Tokens → Except Misplaced (Command × Tokens)
  | 0, _, _, _, input => .error (unexpected true none input)
  | steps + 1, line, named, word, rest => do
    let bare := (Word.bare? word).filter fun name => isName name || dialect = .extended
    let some name := bare | .error { line := named.line, fault := .badLoopVariable [] }
    let rest := skipNewlines rest
    let afterName := rest
    let (words, rest) ← if isNext rest "in" then
        let (words, rest) := leadingWords (rest.drop 1)
        match (next rest).token with
        | .newline => .ok (some words, rest.drop 1)
        | .operator ";" => .ok (some words, rest.drop 1)
        | _ => .error (unexpected false none rest)
      else .ok (none, if isNext rest ";" then rest.drop 1 else rest)
    let rest ← expect "do" (skipNewlines rest)
    let (body, rest) ← block "done" steps rest
    let listed := (leadingWords afterName).1.length
    let shown := match words with
      | none => ["in".toList, "\"$@\"".toList]
      | some _ => (afterName.take listed).map (·.written)
    let written := "for".toList :: named.written :: shown
    withRedirects steps line (.each line name words body ([' '].intercalate written)) rest

/-- A simple command, or the definition of a function. -/
def simple : Nat → Tokens → Except Misplaced (Command × Tokens)
  | 0, input => .error (unexpected true none input)
  | steps + 1, input => do
    let line := (next input).line
    let (read, rest) ← pieces input.length {} input
    match read.words, leadingOperator rest with
    | [word], (some "(", inner) =>
      if !(read.assignments.isEmpty && read.redirects.isEmpty) then
        .error { unexpected true none rest with line }
      else
        let rest ← expectParenthesis inner
        match (Word.bare? word).filter fun name => dialect = .extended
            || (isName name && !specialBuiltins.contains (String.ofList name)) with
        | none => .error { line, fault := .badFunctionName [] }
        | some name =>
          let rest := skipNewlines rest
          if dialect = .extended && !opensBody rest then .error (unexpected true none rest)
          else
            let (body, rest) ← command steps rest
            return (.define name body, rest)
    | words, _ => return (.simple line read.assignments words read.redirects, rest)

end

/-- The commands of the next line, if there are any. The first argument bounds the number of
commands. -/
def lineOfCommands (bound : Nat) :
    Nat → Option Command → Tokens → Except Misplaced (Option Command × Tokens)
  | 0, before, input => .ok (before, input)
  | count + 1, before, input =>
    match (next input).token with
    | .newline => .ok (before, input.drop 1)
    | .finish => .ok (before, input)
    | _ => do
      let (command, rest) ← chain dialect bound input
      let join (command : Command) : Option Command :=
        some (match before with
          | none => command
          | some before => .sequence before command)
      match (next rest).token with
      | .operator "&" => lineOfCommands bound count (join (.background command)) (rest.drop 1)
      | .operator ";" => lineOfCommands bound count (join command) (rest.drop 1)
      | .newline => .ok (join command, rest.drop 1)
      | .finish => .ok (join command, rest)
      | _ => .error (unexpected true none rest)

/-- A script: the commands of its lines, and what is wrong with the line after them. -/
structure Script where
  lines : List Command
  fault : Option Misplaced
  deriving Repr, Inhabited

namespace Script

/-- Reads line by line. The first argument bounds the number of lines. -/
def ofLexemes (bound : Nat) : Nat → Tokens → Script
  | 0, _ => ⟨[], none⟩
  | count + 1, input =>
    if (next input).token matches .finish then ⟨[], none⟩
    else
      match lineOfCommands dialect bound input.length none input with
      | .error fault => ⟨[], some fault⟩
      | .ok (command, rest) =>
        let script := ofLexemes bound count rest
        { script with lines := command.toList ++ script.lines }

def ofTokens (input : Tokens) : Script :=
  ofLexemes dialect (16 * input.length + 16) (input.length + 1) input

/-- What is wrong with a script in a word, up to the parenthesis that ends it. -/
def faultOf (input : Tokens) : Option Fault :=
  let bound := 16 * input.length + 16
  match commands dialect true bound none input with
  | .error misplaced => some misplaced.fault
  | .ok (_, rest) =>
    match expect ")" rest with
    | .error misplaced => some misplaced.fault
    | .ok _ => none

/-- The tokens of a text. A word with a script that cannot be read cannot be read either; what
is between backquotes is looked at only by the plain shell. The first argument bounds the depth
of scripts in words. -/
def tokens : Nat → Chars → Tokens
  | 0, text => Lexeme.ofText dialect text
  | depth + 1, text =>
    (Lexeme.ofText dialect text).map fun lexeme =>
      match lexeme.token with
      | .word word =>
        let faults := (scriptsOf word).filterMap fun (isBackquoted, script) =>
          if isBackquoted then
            if dialect = .extended then none
            else (ofTokens dialect (tokens depth script)).fault.map (·.fault)
          else
            let close := if script.contains '\n' then ['\n', ')'] else [')']
            faultOf dialect (tokens depth (script ++ close))
        match faults with
        | [] => lexeme
        | fault :: _ => { lexeme with token := .broken fault, begins := lexeme.line }
      | _ => lexeme

/-- The depth up to which scripts in words are looked at before they run. -/
def depth : Nat := 20

def ofText (text : Chars) : Script := ofTokens dialect (tokens dialect depth text)

end Script

end Reading

end LiveCompile.Shell
