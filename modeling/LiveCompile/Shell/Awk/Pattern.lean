import LiveCompile.Shell.Awk.Token
import LiveCompile.Shell.Regex.Reader
import LiveCompile.Shell.Regex.Search

/-! The expressions of patterns: operators are written without backslashes, and a sign of
repetition needs something before it. -/

namespace LiveCompile.Shell.Awk

namespace Pattern

/-- What is wrong with an expression. -/
inductive Fault where
  | missingClosing
  | missingOperand
  | badInterval
  | badClass
  | repeatedStart
  | tooLarge
  deriving DecidableEq, Repr

def Fault.message : Fault → String
  | .missingClosing => "missing ')'"
  | .missingOperand => "missing operand"
  | .badInterval => "bad interval expression"
  | .badClass => "bad class -- [], [^] or ["
  | .repeatedStart => "syntax error ^* or ^+"
  | .tooLarge => "resource exhaustion -- regular expression too large"

/-- The character that is written after a backslash, and what follows it. -/
def escape (text : Chars) : Char × Chars :=
  match text with
  | [] => ('\\', [])
  | c :: rest =>
    let isOctal (c : Char) : Bool := '0' ≤ c && c ≤ '7'
    if isOctal c then
      let digits := (text.take 3).takeWhile isOctal
      (Char.ofNat (Expression.valueInBase 8 digits % 256), text.drop digits.length)
    else if c = 'x' && (rest.head?.bind (Expression.digitValue? 16)).isSome then
      let digits := (rest.take 2).takeWhile fun c => (Expression.digitValue? 16 c).isSome
      (Char.ofNat (Expression.valueInBase 16 digits % 256), rest.drop digits.length)
    else
      let meant := match c with
        | 'a' => '\x07'
        | 'b' => '\x08'
        | 'f' => '\x0c'
        | 'n' => '\n'
        | 'r' => '\r'
        | 't' => '\t'
        | 'v' => '\x0b'
        | c => c
      (meant, rest)

/-- A character of a set in brackets, and what follows it. -/
def setCharacter : Chars → Option (Char × Chars)
  | [] => none
  | '\\' :: rest => some (escape rest)
  | c :: rest => some (c, rest)

/-- The members of a set up to its closing bracket, and what follows it. The first argument
bounds their number. -/
def members : Nat → Bool → Chars → Except Fault (List Member × Chars)
  | 0, _, _ => .error .badClass
  | count + 1, isFirst, text =>
    match isFirst, text with
    | false, ']' :: rest => .ok ([], rest)
    | _, '[' :: ':' :: rest =>
      match Regex.upToSign ':' rest with
      | none => .error .badClass
      | some (name, rest) =>
        if Regex.classNames.contains (String.ofList name) then do
          let (others, rest) ← members count false rest
          return (.named name :: others, rest)
        else .error .badClass
    | _, text =>
      match setCharacter text with
      | none => .error .badClass
      | some (first, rest) =>
        let single : Except Fault (List Member × Chars) := do
          let (others, rest) ← members count false rest
          return (.range first first :: others, rest)
        match rest with
        | '-' :: ']' :: _ => single
        | '-' :: more =>
          match setCharacter more with
          | none => .error .badClass
          | some (last, after) =>
            if last < first then single
            else do
              let (others, rest) ← members count false after
              return (.range first last :: others, rest)
        | _ => single

/-- The set after an opening bracket, and what follows it. -/
def set (text : Chars) : Except Fault (Element × Chars) := do
  let isNegated := text.head? = some '^'
  let inner := if isNegated then text.drop 1 else text
  let (members, rest) ← members (inner.length + 1) true inner
  return (.oneOf isNegated members, rest)

/-- The bounds of a repetition after an opening brace, and what follows the closing one. -/
def bounds? (text : Chars) : Option (Option Nat × Option (Option Nat) × Chars) :=
  let least := natural? (text.takeWhile Char.isDigit)
  match text.dropWhile Char.isDigit with
  | '}' :: rest => least.map fun n => (some n, none, rest)
  | ',' :: rest =>
    let most := natural? (rest.takeWhile Char.isDigit)
    match rest.dropWhile Char.isDigit with
    | '}' :: rest => if least.isNone && most.isNone then none else some (least, some most, rest)
    | _ => none
  | _ => none

/-- An expression repeated as the signs after it say, and what follows these. -/
def repeated : Nat → Regex → Chars → Except Fault (Regex × Chars)
  | 0, body, text => .ok (body, text)
  | steps + 1, body, text =>
    match text with
    | '*' :: rest => repeated steps (.repeated body 0 none) rest
    | '+' :: rest => repeated steps (.repeated body 1 none) rest
    | '?' :: rest => repeated steps (.repeated body 0 (some 1)) rest
    | '{' :: rest =>
      match bounds? rest with
      | none => .ok (body, text)
      | some (least, none, rest) => repeated steps (.repeated body (least.getD 0) least) rest
      | some (least, some most, rest) =>
        if most.any (· < least.getD 0) then .error .badInterval
        else repeated steps (.repeated body (least.getD 0) most) rest
    | text => .ok (body, text)

mutual

/-- Alternatives up to a closing parenthesis; `depth` counts the groups around them, `afterBar`
tells that others are before. The first argument of each reader bounds the depth of its calls. -/
def alternatives : Nat → Nat → Bool → Chars → Except Fault (Regex × Chars)
  | 0, _, _, _ => .error .tooLarge
  | steps + 1, depth, afterBar, text => do
    let (first, rest) ← sequence steps depth afterBar none text
    match rest with
    | '|' :: rest =>
      let (second, rest) ← alternatives steps depth true rest
      return (.alternative first second, rest)
    | rest => return (first, rest)

def sequence : Nat → Nat → Bool → Option Regex → Chars → Except Fault (Regex × Chars)
  | 0, _, _, _, _ => .error .tooLarge
  | steps + 1, depth, afterBar, before, text =>
    let ended (text : Chars) : Except Fault (Regex × Chars) :=
      match before with
      | some before => .ok (before, text)
      | none => .error .missingOperand
    let go (part : Regex) (rest : Chars) : Except Fault (Regex × Chars) := do
      let (part, rest) ← repeated (rest.length + 1) part rest
      sequence steps depth afterBar (some (match before with
        | some before => .sequence before part
        | none => part)) rest
    match text with
    | [] =>
      if 0 < depth && before.isNone && !afterBar then .error .missingClosing else ended []
    | '(' :: ')' :: rest => if before.isSome then go .empty rest else .error .missingOperand
    | '|' :: _ => ended text
    | ')' :: rest => if 0 < depth then ended text else go (.one (.character ')')) rest
    | '(' :: rest => do
      let (body, rest) ← alternatives steps (depth + 1) false rest
      match rest with
      | ')' :: rest => go body rest
      | _ => .error .missingClosing
    | '*' :: _ => .error .missingOperand
    | '+' :: _ => .error .missingOperand
    | '?' :: _ => .error .missingOperand
    | '.' :: rest => go (.one .anyText) rest
    | '^' :: '*' :: _ => .error .repeatedStart
    | '^' :: '+' :: _ => .error .repeatedStart
    | '^' :: rest => go (.edge .textStart) rest
    | '$' :: rest => go (.edge .textEnd) rest
    | '[' :: rest => do
      let (element, rest) ← set rest
      go (.one element) rest
    | '\\' :: rest =>
      let (c, rest) := escape rest
      go (.one (.character c)) rest
    | '{' :: rest =>
      if (bounds? rest).isSome then .error .missingOperand else go (.one (.character '{')) rest
    | c :: rest => go (.one (.character c)) rest

end

/-- The expression that a text writes. -/
def ofText (text : Chars) : Except Fault Regex :=
  if text.isEmpty then .ok .empty
  else
    (alternatives (4 * text.length + 8) 0 false text).map (·.1)

end Pattern

end LiveCompile.Shell.Awk
