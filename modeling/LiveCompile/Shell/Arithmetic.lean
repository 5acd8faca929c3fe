import LiveCompile.Shell.Syntax

/-! Arithmetic of the shell on integers of 64 bits: expressions with the operators of C
that have no side effect, and assignments. -/

namespace LiveCompile.Shell

inductive ArithmeticToken where
  | number (value : Int)
  | name (name : Chars)
  | sign (text : String)
  /-- from here on there are no tokens -/
  | unknown
  deriving DecidableEq, Repr

inductive Expression where
  | constant (value : Int)
  | parameter (name : Chars)
  | unary (sign : String) (operand : Expression)
  | binary (sign : String) (left right : Expression)
  | choice (condition first second : Expression)
  /-- an assignment; the sign is that of the operator before the equals sign, if any -/
  | assign (name : Chars) (sign : String) (value : Expression)
  deriving Repr, Inhabited

namespace Expression

/-- The value of a number that fits in 64 bits, of any other one the value modulo 2^64. -/
def wrapped (value : Int) : Int := Int.bmod value 18446744073709551616

def greatest : Int := 9223372036854775807

def least : Int := -9223372036854775808

def digitValue? (base : Nat) (c : Char) : Option Nat :=
  let value := if c.isDigit then c.toNat - 48 else if c.isLower then c.toNat - 87
    else if c.isUpper then c.toNat - 55 else base
  if value < base then some value else none

def valueInBase (base : Nat) (digits : Chars) : Nat :=
  digits.foldl (fun value c => value * base + (digitValue? base c).getD 0) 0

/-- A number at the start of a text, and what follows it: hexadecimal after `0x`, octal
after `0`. A number that is too great is the greatest one. -/
def numeral (text : Chars) : Int × Chars :=
  let read (base : Nat) (digits : Chars) : Int × Chars :=
    let isDigit (c : Char) := (digitValue? base c).isSome
    (min (valueInBase base (digits.takeWhile isDigit)) greatest, digits.dropWhile isDigit)
  match text with
  | '0' :: 'x' :: rest => read 16 rest
  | '0' :: 'X' :: rest => read 16 rest
  | '0' :: rest => read 8 ('0' :: rest)
  | text => read 10 text

def signs : List String :=
  ["<<=", ">>=", "&&", "||", "==", "!=", "<=", ">=", "<<", ">>", "+=", "-=", "*=", "/=", "%=",
    "&=", "|=", "^=", "+", "-", "*", "/", "%", "&", "|", "^", "~", "!", "<", ">", "?", ":", "=",
    "(", ")"]

/-- The tokens of an expression. The first argument bounds their number. -/
def tokens? : Nat → Chars → Option (List ArithmeticToken)
  | 0, _ => none
  | _ + 1, [] => some []
  | count + 1, c :: rest =>
    if isBlank c then tokens? count rest
    else if c.isDigit then
      let (value, rest) := numeral (c :: rest)
      (tokens? count rest).map (.number value :: ·)
    else if isNameStart c then
      (tokens? count (rest.dropWhile isNameChar)).map (.name (c :: rest.takeWhile isNameChar) :: ·)
    else
      match signs.find? fun sign => sign.toList.isPrefixOf (c :: rest) with
      | some sign => (tokens? count ((c :: rest).drop sign.length)).map (.sign sign :: ·)
      | none => some [.unknown]
where
  isBlank (c : Char) : Bool := c = ' ' || c = '\t' || c = '\n'

/-- The operators with two operands, from those that bind least on. -/
def levels : List (List String) :=
  [["||"], ["&&"], ["|"], ["^"], ["&"], ["==", "!="], ["<", "<=", ">", ">="], ["<<", ">>"],
    ["+", "-"], ["*", "/", "%"]]

def assignmentSigns : List String :=
  ["=", "+=", "-=", "*=", "/=", "%=", "&=", "|=", "^=", "<<=", ">>="]

mutual

/-- An assignment or a choice. Readers give what follows; the first argument bounds the
depth of the calls. -/
def whole? : Nat → List ArithmeticToken → Option (Expression × List ArithmeticToken)
  | 0, _ => none
  | steps + 1, .name name :: .sign sign :: rest =>
    if assignmentSigns.contains sign then do
      let (value, rest) ← whole? steps rest
      return (.assign name (sign.dropEnd 1).toString value, rest)
    else choice? steps (.name name :: .sign sign :: rest)
  | steps + 1, input => choice? steps input

def choice? : Nat → List ArithmeticToken → Option (Expression × List ArithmeticToken)
  | 0, _ => none
  | steps + 1, input => do
    let (condition, rest) ← level? steps levels input
    match rest with
    | .sign "?" :: rest =>
      let (first, rest) ← whole? steps rest
      match rest with
      | .sign ":" :: rest =>
        let (second, rest) ← choice? steps rest
        return (.choice condition first second, rest)
      | _ => none
    | rest => return (condition, rest)

def level? : Nat → List (List String) → List ArithmeticToken →
    Option (Expression × List ArithmeticToken)
  | 0, _, _ => none
  | steps + 1, [], input => operand? steps input
  | steps + 1, signs :: tighter, input => do
    let (left, rest) ← level? steps tighter input
    operations? steps signs tighter left rest

def operations? : Nat → List String → List (List String) → Expression → List ArithmeticToken →
    Option (Expression × List ArithmeticToken)
  | 0, _, _, _, _ => none
  | steps + 1, signs, tighter, left, input =>
    match input with
    | .sign sign :: rest =>
      if signs.contains sign then do
        let (right, rest) ← level? steps tighter rest
        operations? steps signs tighter (.binary sign left right) rest
      else some (left, input)
    | input => some (left, input)

def operand? : Nat → List ArithmeticToken → Option (Expression × List ArithmeticToken)
  | 0, _ => none
  | steps + 1, input =>
    match input with
    | .number value :: rest => some (.constant value, rest)
    | .name name :: rest => some (.parameter name, rest)
    | .sign "(" :: rest => do
      let (inner, rest) ← whole? steps rest
      match rest with
      | .sign ")" :: rest => return (inner, rest)
      | _ => none
    | .sign sign :: rest =>
      if ["+", "-", "!", "~"].contains sign then do
        let (operand, rest) ← operand? steps rest
        return (.unary sign operand, rest)
      else none
    | .unknown :: _ => none
    | [] => none

end

/-- What is wrong with the text of an expression. -/
inductive Misread where
  | operandMissing
  | endMissing
  deriving DecidableEq, Repr

def Misread.message : Misread → String
  | operandMissing => "expecting primary"
  | endMissing => "expecting EOF"

def ofText (text : Chars) : Except Misread Expression :=
  let tokens := (tokens? (text.length + 1) text).getD []
  match whole? (16 * tokens.length + 16) tokens with
  | none => .error .operandMissing
  | some (expression, []) => .ok expression
  | some _ => .error .endMissing

def ofBool (b : Bool) : Int := if b then 1 else 0

/-- The bits of a number as a natural number. -/
def bits (value : Int) : Nat := (value % 18446744073709551616).toNat

/-- The value of an operation; nothing for a division by zero. -/
def operate? (sign : String) (left right : Int) : Option Int :=
  match sign with
  | "+" => some (wrapped (left + right))
  | "-" => some (wrapped (left - right))
  | "*" => some (wrapped (left * right))
  | "/" => if right = 0 then none else some (wrapped (left.tdiv right))
  | "%" => if right = 0 then none else some (wrapped (left.tmod right))
  | "==" => some (ofBool (left = right))
  | "!=" => some (ofBool (left ≠ right))
  | "<" => some (ofBool (left < right))
  | "<=" => some (ofBool (left ≤ right))
  | ">" => some (ofBool (right < left))
  | ">=" => some (ofBool (right ≤ left))
  | "<<" => some (wrapped (Int.shiftLeft left (bits right % 64)))
  | ">>" => some (Int.shiftRight left (bits right % 64))
  | "&" => some (wrapped (Nat.land (bits left) (bits right)))
  | "|" => some (wrapped (Nat.lor (bits left) (bits right)))
  | "^" => some (wrapped (Nat.xor (bits left) (bits right)))
  | _ => some right

/-- What the evaluation of an expression reads and changes. -/
abbrev Values := List (Chars × Int)

/-- Why an expression has no value. -/
inductive Trouble where
  | divisionByZero
  /-- the value of a variable is no number -/
  | notNumber (text : Chars)
  deriving DecidableEq, Repr

/-- The number that a variable holds after some assignments. -/
def held (read : Chars → Except Chars Int) (name : Chars) (assigned : Values) :
    Except Trouble Int :=
  match assigned.find? (·.1 = name) with
  | some (_, number) => .ok number
  | none =>
    match read name with
    | .ok number => .ok number
    | .error text => .error (.notNumber text)

/-- The value of an expression and the values that it assigns, the last one first;
`read` gives the number that a variable holds. -/
def value (read : Chars → Except Chars Int) : Expression → Values → Except Trouble (Int × Values)
  | .constant number, assigned => .ok (number, assigned)
  | .parameter name, assigned => do return (← held read name assigned, assigned)
  | .unary sign operand, assigned => do
    let (number, assigned) ← value read operand assigned
    let result := match sign with
      | "-" => wrapped (-number)
      | "!" => ofBool (number = 0)
      | "~" => -number - 1
      | _ => number
    return (result, assigned)
  | .binary sign left right, assigned => do
    let (first, assigned) ← value read left assigned
    if sign = "&&" ∧ first = 0 then return (0, assigned)
    else if sign = "||" ∧ first ≠ 0 then return (1, assigned)
    else
      let (second, assigned) ← value read right assigned
      if sign = "&&" ∨ sign = "||" then return (ofBool (second ≠ 0), assigned)
      else
        match operate? sign first second with
        | some number => return (number, assigned)
        | none => .error .divisionByZero
  | .choice condition first second, assigned => do
    let (number, assigned) ← value read condition assigned
    if number ≠ 0 then value read first assigned else value read second assigned
  | .assign name sign operand, assigned => do
    let (number, assigned) ← value read operand assigned
    if sign.isEmpty then return (number, (name, number) :: assigned)
    else
      match operate? sign (← held read name assigned) number with
      | some number => return (number, (name, number) :: assigned)
      | none => .error .divisionByZero

end Expression

end LiveCompile.Shell
