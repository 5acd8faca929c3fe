import LiveCompile.Shell.Regex.Basic

/-! Reading expressions: first the signs of a text, then what they are made to. -/

namespace LiveCompile.Shell

namespace Regex

/-- An operator of repetition, by the character that it is written with. -/
structure Repetition where
  mark : Char
  least : Nat
  most : Option Nat
  deriving Repr

inductive Sign where
  | one (element : Element)
  | edge (kind : Edge)
  | bar
  | opening
  | closing
  | repetition (repetition : Repetition)
  /-- a repetition that is passed over -/
  | ignored (mark : Char)
  | same (index : Nat)
  deriving Repr

/-- A part of a bracket expression. -/
inductive BracketPart where
  | character (c : Char)
  | named (name : Chars)

/-- The text up to a sign such as `:]`, and what follows it. -/
def upToSign (sign : Char) : Chars → Option (Chars × Chars)
  | [] => none
  | [_] => none
  | c :: next :: rest =>
    if c = sign && next = ']' then some ([], rest)
    else (upToSign sign (next :: rest)).map fun (text, rest) => (c :: text, rest)

/-- The names of the classes of characters. -/
def classNames : List String :=
  ["alpha", "digit", "alnum", "upper", "lower", "space", "blank", "punct", "cntrl", "print",
    "graph", "xdigit"]

/-- A part of a bracket expression and what follows it. -/
def bracketPart (dialect : Dialect) : Chars → Except Fault (BracketPart × Chars)
  | '\\' :: rest =>
    match dialect.escape? rest, rest with
    | some (c, rest), _ => .ok (.character c, rest)
    | none, '\\' :: others =>
      .ok (.character '\\', if (dialect.escape? ['n']).isSome then others else rest)
    | none, _ => .ok (.character '\\', rest)
  | '[' :: ':' :: rest =>
    match upToSign ':' rest with
    | none => .error .unmatchedBracket
    | some (name, rest) =>
      if classNames.contains (String.ofList name) then .ok (.named name, rest)
      else .error .invalidClass
  | '[' :: '.' :: rest => collated '.' rest
  | '[' :: '=' :: rest => collated '=' rest
  | c :: rest => .ok (.character c, rest)
  | [] => .error .unmatchedBracket
where
  collated (sign : Char) (rest : Chars) : Except Fault (BracketPart × Chars) :=
    match upToSign sign rest with
    | none => .error .unmatchedBracket
    | some ([c], rest) => .ok (.character c, rest)
    | some (_, _) => .error .invalidCollation

/-- The members up to the closing bracket, and what follows it; `isFirst` tells that a closing
bracket would be a member. The first argument bounds the number of members. -/
def bracketMembers (dialect : Dialect) : Nat → Bool → Chars → Except Fault (List Member × Chars)
  | 0, _, _ => .error .unmatchedBracket
  | count + 1, isFirst, input => do
    match isFirst, input with
    | false, ']' :: rest => return ([], rest)
    | _, input =>
      let (part, rest) ← bracketPart dialect input
      let (member, rest) ← match part, rest with
        | part, '-' :: next :: rest =>
          if next = ']' then .ok (single part, '-' :: next :: rest)
          else
            match part, ← bracketPart dialect (next :: rest) with
            | .character first, (.character last, rest) =>
              if first ≤ last || dialect.keepsEmptyRanges then .ok (.range first last, rest)
              else .error .invalidRange
            | _, _ => .error .invalidRange
        | part, rest => .ok (single part, rest)
      let (members, rest) ← bracketMembers dialect count false rest
      return (member :: members, rest)
where
  single : BracketPart → Member
    | .character c => .range c c
    | .named name => .named name

/-- The element that a bracket expression is, after its opening bracket, and what follows it. -/
def bracket (dialect : Dialect) (text : Chars) : Except Fault (Element × Chars) := do
  let (negated, inner) := match text with
    | '^' :: inner => (true, inner)
    | inner => (false, inner)
  if inner.isEmpty then throw .invalidPattern
  let (members, rest) ← bracketMembers dialect (inner.length + 1) true inner
  let taken := inner.take (inner.length - rest.length - 1)
  if !negated && 1 < taken.length && taken.head? = some ':' && taken.getLast? = some ':' then
    .error .bareClass
  else return (.oneOf negated members, rest)

/-- How often something may be repeated by bounds. -/
def mostBounds : Nat := 32767

/-- The bounds of a repetition after its opening brace and what follows the closing one. -/
def bounds (dialect : Dialect) (text : Chars) : Except Fault (Repetition × Chars) := do
  let least := text.takeWhile Char.isDigit
  let afterLeast := text.dropWhile Char.isDigit
  let (most, rest) := match afterLeast with
    | ',' :: rest =>
      let digits := rest.takeWhile Char.isDigit
      (if digits.isEmpty then none else some (number digits), rest.dropWhile Char.isDigit)
    | rest => (some (number least), rest)
  let rest ← match dialect.extended, rest with
    | _, [] => .error .unmatchedBrace
    | true, '}' :: rest => .ok rest
    | false, '\\' :: '}' :: rest => .ok rest
    | _, _ => .error .invalidBounds
  if (least.isEmpty && afterLeast.head? ≠ some ',') || most.any (· < number least) then
    .error .invalidBounds
  else if mostBounds < most.getD (number least) then .error .tooBig
  else return (⟨'{', number least, most⟩, rest)
where
  number (digits : Chars) : Nat :=
    digits.foldl (fun value c => value * 10 + (c.toNat - '0'.toNat)) 0

def wordMembers : List Member := [.named "alnum".toList, .range '_' '_']

def spaceMembers : List Member := [.named "space".toList]

/-- What a letter after a backslash stands for. -/
def escaped? : Char → Option Sign
  | '<' => some (.edge .wordStart)
  | '>' => some (.edge .wordEnd)
  | 'b' => some (.edge .wordEdge)
  | 'B' => some (.edge .noWordEdge)
  | '\x60' => some (.edge .textStart)
  | '\x27' => some (.edge .textEnd)
  | 'w' => some (.one (.oneOf false wordMembers))
  | 'W' => some (.one (.oneOf true wordMembers))
  | 's' => some (.one (.oneOf false spaceMembers))
  | 'S' => some (.one (.oneOf true spaceMembers))
  | _ => none

/-- Whether a sign leaves nothing to repeat. -/
def Sign.isIdle : Sign → Bool
  | .edge _ => true
  | .bar => true
  | .opening => true
  | .ignored _ => true
  | _ => false

/-- The signs of an expression; `begins` tells that nothing is there yet to repeat. The first
argument bounds their number. -/
def signs (dialect : Dialect) : Nat → Bool → Chars → Except Fault (List Sign)
  | 0, _, _ => .ok []
  | _ + 1, _, [] => .ok []
  | count + 1, begins, c :: rest =>
    let go (sign : Sign) (rest : Chars) : Except Fault (List Sign) := do
      return sign :: (← signs dialect count sign.isIdle rest)
    let literal (c : Char) (rest : Chars) := go (.one (.character c)) rest
    let repeating (repetition : Repetition) (rest : Chars) :=
      if !begins then go (.repetition repetition) rest
      else
        match dialect.idle with
        | .literal => literal repetition.mark rest
        | .ignored => go (.ignored repetition.mark) rest
        | .refused => .error .invalidPreceding
    let operator (c : Char) (rest : Chars) : Except Fault (List Sign) :=
      match c with
      | '(' => go .opening rest
      | ')' => go .closing rest
      | '|' => go .bar rest
      | '+' => repeating ⟨'+', 1, none⟩ rest
      | '?' => repeating ⟨'?', 0, some 1⟩ rest
      | _ =>
        if begins && dialect.idle = .literal && dialect.refusesDouble then
          .error .invalidPreceding
        else if begins && dialect.idle = .literal then literal '{' rest
        else
          match bounds dialect rest with
          | .ok (repetition, rest) => repeating repetition rest
          | .error .tooBig => .error .tooBig
          | .error fault =>
            if dialect.keepsBraces then literal '{' rest
            else if begins then .error .invalidPreceding
            else .error fault
    match c, rest with
    | '\\', [] => .error .trailingBackslash
    | '\\', next :: rest =>
      if "()|+?\x7b".toList.contains next then
        if dialect.extended then literal next rest else operator next rest
      else if next.isDigit && next ≠ '0' then go (.same (next.toNat - '0'.toNat)) rest
      else
        match escaped? next, dialect.escape? (next :: rest) with
        | some sign, _ => go sign rest
        | none, some (c, rest) => literal c rest
        | none, none => literal next rest
    | '.', rest => go (.one .anyCharacter) rest
    | '[', rest => do
      let (element, rest) ← bracket dialect rest
      go (.one element) rest
    | '*', rest => repeating ⟨'*', 0, none⟩ rest
    | '^', rest =>
      if begins || dialect.extended then go (.edge .lineStart) rest else literal '^' rest
    | '$', rest =>
      let atEnd := dialect.extended || rest.isEmpty || ['\\', ')'].isPrefixOf rest
        || ['\\', '|'].isPrefixOf rest
      if atEnd then go (.edge .lineEnd) rest else literal '$' rest
    | c, rest =>
      if dialect.extended && "()|+?\x7b".toList.contains c then operator c rest else literal c rest

/-- What is known while an expression is put together: how many groups were opened, those that
were closed, and the signs that are left. -/
structure Progress where
  opened : Nat := 0
  closed : List Nat := []
  rest : List Sign

/-- An expression repeated as the next signs say. -/
def repetitions (dialect : Dialect) : Nat → Regex → List Sign → Except Fault (Regex × List Sign)
  | 0, body, input => .ok (body, input)
  | count + 1, body, input =>
    match input with
    | .repetition first :: rest =>
      let body := .repeated body first.least first.most
      match rest with
      | .repetition next :: _ =>
        if dialect.refusesDouble && (next.mark = '*' || next.mark = '{') then
          .error .invalidPreceding
        else repetitions dialect count body rest
      | rest => .ok (body, rest)
    | input => .ok (body, input)

mutual

/-- Alternatives up to a closing parenthesis; `depth` is the number of groups around them. The
first argument of each reader bounds the depth of its calls. -/
def alternatives (dialect : Dialect) :
    Nat → Nat → Progress → Except Fault (Regex × Progress)
  | 0, _, _ => .error .tooBig
  | steps + 1, depth, progress => do
    let (first, progress) ← sequenced dialect steps depth .empty progress
    match progress.rest with
    | .bar :: rest =>
      let (second, progress) ← alternatives dialect steps depth { progress with rest }
      return (.alternative first second, progress)
    | _ => return (first, progress)

def sequenced (dialect : Dialect) :
    Nat → Nat → Regex → Progress → Except Fault (Regex × Progress)
  | 0, _, _, _ => .error .tooBig
  | steps + 1, depth, before, progress =>
    let go (part : Regex) (progress : Progress) : Except Fault (Regex × Progress) := do
      let (part, rest) ← repetitions dialect steps part progress.rest
      sequenced dialect steps depth (.sequence before part) { progress with rest }
    match progress.rest with
    | [] => .ok (before, progress)
    | .bar :: _ => .ok (before, progress)
    | .closing :: rest =>
      if depth = 0 && dialect.keepsClosing then
        go (.one (.character ')')) { progress with rest }
      else .ok (before, progress)
    | .opening :: rest => do
      let index := progress.opened + 1
      let (body, progress) ←
        alternatives dialect steps (depth + 1) { progress with opened := index, rest }
      match progress.rest with
      | .closing :: rest =>
        go (.group index body) { progress with closed := index :: progress.closed, rest }
      | _ => .error .unmatchedOpening
    | .one element :: rest => go (.one element) { progress with rest }
    | .edge kind :: rest => go (.edge kind) { progress with rest }
    | .ignored _ :: rest => sequenced dialect steps depth before { progress with rest }
    | .repetition _ :: rest => sequenced dialect steps depth before { progress with rest }
    | .same index :: rest =>
      if progress.closed.contains index then go (.same index) { progress with rest }
      else .error .invalidReference

end

/-- An expression, with the marks of the repetitions that were passed over. -/
def ofText (dialect : Dialect) (text : Chars) : Except Fault (Regex × List Char) := do
  let signs ← signs dialect (text.length + 1) true text
  let (regex, progress) ← alternatives dialect (4 * signs.length + 4) 0 { rest := signs }
  let ignored := signs.filterMap fun
    | .ignored mark => some mark
    | _ => none
  if progress.rest.isEmpty then return (regex, ignored) else .error .unmatchedClosing

end Regex

end LiveCompile.Shell
