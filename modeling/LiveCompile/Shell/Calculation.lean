import LiveCompile.Shell.State

/-! Arithmetic of the extended shell. An expression is computed while it is read; what is not
chosen is read without an effect. Complaints show the text from the token on that was read last. -/

namespace LiveCompile.Shell

namespace Calculation

inductive Token where
  | finish
  | number (value : Int)
  | name (name : Chars)
  | sign (text : String)
  deriving DecidableEq

/-- Where a computation is in its text. -/
structure Cursor where
  state : State
  /-- the whole text -/
  text : Chars
  token : Token := .finish
  /-- the text from the last token on -/
  start : Chars := []
  /-- the text after the last token -/
  rest : Chars
  /-- the operand before the token is a variable -/
  target : Option Chars := none
  /-- how many parts that are not chosen are around -/
  muted : Nat := 0

/-- A computation, which may fail with a complaint. -/
abbrev Calculator := EStateM Chars Cursor

def isBlank (c : Char) : Bool := c = ' ' || c = '\t' || c = '\n'

/-- Stops with a complaint. -/
def fail {α : Type} (message : String) : Calculator α := do
  let cursor ← get
  throw (cursor.text.dropWhile isBlank ++ chars (": " ++ message ++ " (error token is \"")
    ++ cursor.start ++ chars "\")")

/-- Stops because a number is none. -/
def failNumber {α : Type} (word : Chars) (message : String) : Calculator α :=
  throw (word ++ chars (": " ++ message ++ " (error token is \"") ++ word ++ chars "\")")

/-- The value of a digit in a base of at most 64. -/
def digitIn? (base : Nat) (c : Char) : Option Nat :=
  let value := if c.isDigit then c.toNat - 48
    else if c.isLower then c.toNat - 87
    else if c.isUpper then (if base ≤ 36 then c.toNat - 55 else c.toNat - 29)
    else if c = '@' then 62
    else if c = '_' then 63
    else base
  if value < base then some value else none

def numberIn (word : Chars) (base : Nat) (digits : Chars) : Calculator Int := do
  match digits.mapM (digitIn? base) with
  | some values =>
    let number := values.foldl (fun (total : Int) (value : Nat) => total * base + value) 0
    return Expression.wrapped number
  | none => failNumber word "value too great for base"

/-- The number that digits and letters write. -/
def numeral (word : Chars) : Calculator Int := do
  match word.dropWhile (· ≠ '#') with
  | _ :: digits =>
    let written := word.takeWhile (· ≠ '#')
    match natural? written with
    | some base =>
      if written.head? = some '0' && 1 < written.length || base < 2 || 64 < base then
        failNumber word "invalid arithmetic base"
      else if digits.isEmpty then failNumber word "invalid integer constant"
      else numberIn word base digits
    | none => failNumber word "invalid number"
  | [] =>
    match word with
    | '0' :: 'x' :: digits => numberIn word 16 digits
    | '0' :: 'X' :: digits => numberIn word 16 digits
    | '0' :: digits => numberIn word 8 digits
    | digits => numberIn word 10 digits

/-- Signs, the longer ones first. -/
def signs : List String :=
  ["<<=", ">>=", "&&", "||", "==", "!=", "<=", ">=", "<<", ">>", "**", "+=", "-=", "*=", "/=", "%=",
    "&=", "|=", "^=", "+", "-", "*", "/", "%", "&", "|", "^", "~", "!", "<", ">", "?", ":", "=",
    "(", ")", ","]

/-- The text up to the bracket that closes one, with it, and what follows. -/
def subscript : Nat → Chars → Option (Chars × Chars)
  | _, [] => none
  | depth, c :: rest =>
    if c = ']' && depth = 0 then some ([], rest)
    else
      let depth := if c = '[' then depth + 1 else if c = ']' then depth - 1 else depth
      (subscript depth rest).map fun (text, rest) => (c :: text, rest)

/-- Reads the next token. -/
def advance : Calculator Unit := do
  let cursor ← get
  let text := cursor.rest.dropWhile isBlank
  let go (token : Token) (rest : Chars) : Calculator Unit :=
    modify fun cursor => { cursor with token, rest }
  match text with
  | [] => set { cursor with token := .finish, rest := [] }
  | c :: after =>
    set { cursor with start := text }
    if isNameStart c then
      let name := c :: after.takeWhile isNameChar
      let rest := after.dropWhile isNameChar
      match rest with
      | '[' :: inner =>
        match subscript 0 inner with
        | some (key, rest) => go (.name (name ++ '[' :: key ++ [']'])) rest
        | none => go (.name name) rest
      | rest => go (.name name) rest
    else if c.isDigit then
      let isPart (c : Char) : Bool := c.isAlphanum || c = '#' || c = '@' || c = '_'
      let word := text.takeWhile isPart
      go (.number (← numeral word)) (text.dropWhile isPart)
    else
      let isOperand := match cursor.token with
        | .name _ => true
        | _ => false
      let doubled := c = '+' || c = '-'
      if doubled && after.head? = some c && isOperand then
        go (.sign (if c = '+' then "x++" else "x--")) (after.drop 1)
      else if doubled && after.head? = some c
          && ((after.drop 1).dropWhile isBlank).head?.any isNameStart then
        go (.sign (if c = '+' then "++x" else "--x")) (after.drop 1)
      else if doubled && after.head? = some c then go (.sign (String.singleton c)) after
      else
        match signs.find? fun sign => sign.toList.isPrefixOf text with
        | some sign => go (.sign sign) (text.drop sign.length)
        | none =>
          let afterOperand := match cursor.token with
            | .name _ => true
            | .number _ => true
            | _ => false
          if afterOperand then fail "syntax error: invalid arithmetic operator"
          else fail "syntax error: operand expected"

def isNext (sign : String) : Calculator Bool := return (← get).token = .sign sign

/-- Runs a part that counts only if it is chosen. -/
def mutedIf (isMuted : Bool) (run : Calculator Int) : Calculator Int := do
  if isMuted then modify fun cursor => { cursor with muted := cursor.muted + 1 }
  let value ← run
  if isMuted then modify fun cursor => { cursor with muted := cursor.muted - 1 }
  return value

/-- What is before a number stands for no variable. -/
def settle (value : Int) : Calculator Int := do
  modify fun cursor => { cursor with target := none }
  return value

/-- A name without its subscript, and the subscript. -/
def nameParts (name : Chars) : Chars × Option Chars :=
  match name.dropWhile (· ≠ '[') with
  | _ :: key => (name.takeWhile (· ≠ '['), some key.dropLast)
  | [] => (name, none)

def decimalOf (value : Int) : Chars := (toString value).toList

/-- The operators with two operands, from those that bind least on. -/
def levels : List (List String) :=
  [["||"], ["&&"], ["|"], ["^"], ["&"], ["==", "!="], ["<", "<=", ">", ">="], ["<<", ">>"],
    ["+", "-"], ["*", "/", "%"]]

/-- The sign of an operator that assigns, without the equals sign. -/
def assigning? (token : Token) : Option String :=
  match token with
  | .sign text =>
    if ["=", "+=", "-=", "*=", "/=", "%=", "&=", "|=", "^=", "<<=", ">>="].contains text then
      some (text.dropEnd 1).toString
    else none
  | _ => none

/-- A number multiplied with itself; only its lowest 64 bits count. The first argument bounds the
number of bits of the exponent. -/
def raisedIn : Nat → Int → Nat → Int
  | 0, _, _ => 1
  | bits + 1, base, exponent =>
    if exponent = 0 then 1
    else
      let half := raisedIn bits (Expression.wrapped (base * base)) (exponent / 2)
      if exponent % 2 = 1 then Expression.wrapped (base * half) else half

def raised (base : Int) (exponent : Nat) : Int := raisedIn 64 base exponent

mutual

/-- Expressions between commas; the last one counts. The first argument of each reader bounds
the depth of its calls. -/
def whole : Nat → Calculator Int
  | 0 => fail "expression recursion level exceeded"
  | steps + 1 => do
    let value ← assignment steps
    if ← isNext "," then
      advance
      whole steps
    else return value

def assignment : Nat → Calculator Int
  | 0 => fail "expression recursion level exceeded"
  | steps + 1 => do
    let before ← choice steps
    let cursor ← get
    match assigning? cursor.token with
    | none => return before
    | some operator =>
      match cursor.target with
      | none => fail "attempted assignment to non-variable"
      | some name =>
        advance
        let operand ← assignment steps
        let value ← if operator.isEmpty then pure operand
          else if (← get).muted > 0 then pure 0
          else match Expression.operate? operator before operand with
            | some value => pure value
            | none => fail "division by 0"
        store steps name value
        settle value

def choice : Nat → Calculator Int
  | 0 => fail "expression recursion level exceeded"
  | steps + 1 => do
    let condition ← level steps levels
    if ← isNext "?" then
      advance
      if (← get).token = .finish || (← isNext ":") then fail "expression expected"
      let first ← mutedIf (condition = 0) (whole steps)
      if !(← isNext ":") then fail "\x60:' expected for conditional expression"
      advance
      if (← get).token = .finish then fail "expression expected"
      let second ← mutedIf (condition ≠ 0) (choice steps)
      settle (if condition ≠ 0 then first else second)
    else return condition

def level : Nat → List (List String) → Calculator Int
  | 0, _ => fail "expression recursion level exceeded"
  | steps + 1, [] => power steps
  | steps + 1, signs :: tighter => do
    let left ← level steps tighter
    operations steps signs tighter left

def operations : Nat → List String → List (List String) → Int → Calculator Int
  | 0, _, _, _ => fail "expression recursion level exceeded"
  | steps + 1, signs, tighter, left => do
    match (← get).token with
    | .sign sign =>
      if !signs.contains sign then return left
      else
        let after := (← get).rest.dropWhile isBlank
        advance
        let isMuted := (sign = "&&" && left = 0) || (sign = "||" && left ≠ 0)
        let right ← mutedIf isMuted (level steps tighter)
        let value ← if sign = "&&" then pure (Expression.ofBool (left ≠ 0 && right ≠ 0))
          else if sign = "||" then pure (Expression.ofBool (left ≠ 0 || right ≠ 0))
          else match Expression.operate? sign left right with
            | some value => pure value
            | none => do
              if (← get).muted > 0 then pure 0
              else
                modify fun cursor => { cursor with start := after }
                fail "division by 0"
        operations steps signs tighter (← settle value)
    | _ => return left

def power : Nat → Calculator Int
  | 0 => fail "expression recursion level exceeded"
  | steps + 1 => do
    let base ← unary steps
    if ← isNext "**" then
      advance
      let exponent ← power steps
      if exponent < 0 then fail "exponent less than 0"
      settle (Expression.wrapped (raised base exponent.toNat))
    else return base

def unary : Nat → Calculator Int
  | 0 => fail "expression recursion level exceeded"
  | steps + 1 => do
    match (← get).token with
    | .sign "!" =>
      advance
      settle (Expression.ofBool ((← unary steps) = 0))
    | .sign "~" =>
      advance
      settle (-(← unary steps) - 1)
    | .sign "-" =>
      advance
      settle (Expression.wrapped (-(← unary steps)))
    | .sign "+" =>
      advance
      settle (← unary steps)
    | _ => operand steps

def operand : Nat → Calculator Int
  | 0 => fail "expression recursion level exceeded"
  | steps + 1 => do
    let count (sign : String) : Int := if sign = "++x" || sign = "x++" then 1 else -1
    match (← get).token with
    | .number value =>
      advance
      settle value
    | .name name =>
      let value ← fetch steps name
      advance
      match (← get).token with
      | .sign sign =>
        if sign = "x++" || sign = "x--" then
          store steps name (Expression.wrapped (value + count sign))
          modify fun cursor => { cursor with token := .number value }
          advance
          settle value
        else
          modify fun cursor => { cursor with target := some name }
          return value
      | _ =>
        modify fun cursor => { cursor with target := some name }
        return value
    | .sign "(" =>
      advance
      let value ← whole steps
      if !(← isNext ")") then fail "missing \x60)'"
      modify fun cursor => { cursor with token := .number value }
      advance
      settle value
    | .sign sign =>
      if sign = "++x" || sign = "--x" then
        advance
        match (← get).token with
        | .name name =>
          let value := Expression.wrapped ((← fetch steps name) + count sign)
          store steps name value
          modify fun cursor => { cursor with token := .number value }
          advance
          settle value
        | _ => fail "identifier expected after pre-increment or pre-decrement"
      else fail "syntax error: operand expected"
    | .finish => fail "syntax error: operand expected"

/-- The number that a variable or an element holds. -/
def fetch : Nat → Chars → Calculator Int
  | 0, _ => fail "expression recursion level exceeded"
  | steps + 1, name => do
    let cursor ← get
    if cursor.muted > 0 then return 0
    else
      let (array, key?) := nameParts name
      let value? ← match key? with
        | none => pure (cursor.state.value? array)
        | some key => do
          let key ← keyOf steps array key
          pure ((← get).state.element? array key)
      match value? with
      | some value => inner steps value
      | none =>
        if cursor.state.settings.contains .nounset then
          throw (array ++ chars ": unbound variable")
        else return 0

def store : Nat → Chars → Int → Calculator Unit
  | 0, _, _ => fail "expression recursion level exceeded"
  | steps + 1, name, value => do
    if (← get).muted > 0 then return
    else
      let (array, key?) := nameParts name
      match key? with
      | none => modify fun cursor =>
          { cursor with state := cursor.state.assign array (decimalOf value) }
      | some key =>
        let key ← keyOf steps array key
        modify fun cursor =>
          { cursor with state := cursor.state.putElement array key (decimalOf value) }

/-- The key that a subscript means. -/
def keyOf : Nat → Chars → Chars → Calculator Chars
  | 0, _, _ => fail "expression recursion level exceeded"
  | steps + 1, array, key => do
    if (← get).state.isMap array then return key
    else
      let value ← inner steps key
      let last := ((((← get).state.cellsOf array).getLast?).bind fun (key, _) => natural? key)
      return decimalOf (if value < 0 then (last.map fun n => (n : Int) + 1).getD 0 + value else value)

/-- The value of another text. -/
def inner : Nat → Chars → Calculator Int
  | 0, _ => fail "expression recursion level exceeded"
  | steps + 1, text => do
    let outer ← get
    set { outer with text, rest := text, token := .finish, start := [], target := none }
    let value ← if (text.dropWhile isBlank).isEmpty then pure 0
      else do
        advance
        let value ← whole steps
        if (← get).token ≠ .finish then fail "syntax error in expression"
        pure value
    modify fun cursor => { outer with state := cursor.state }
    return value

end

end Calculation

namespace State

/-- How deep the parts of an expression may go. -/
def depthOfExpressions : Nat := 4096

/-- The value of an expression with the state after it, or a complaint. -/
def compute (state : State) (text : Chars) : Except Chars (Int × State) :=
  let steps := 64 * text.length + depthOfExpressions
  match (Calculation.inner steps text).run { state, text, rest := text } with
  | .ok value cursor => .ok (value, cursor.state)
  | .error complaint _ => .error complaint

end State

end LiveCompile.Shell
