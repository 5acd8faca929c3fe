import LiveCompile.Shell.Program.Output
import LiveCompile.Shell.Regex.Reader
import LiveCompile.Shell.Regex.Search

/-! The program `expr`: an expression of which each operand and operator is an argument. -/

namespace LiveCompile.Shell.Expr

/-- Why an expression has no value. -/
inductive Fault where
  | notAnInteger
  | notAPattern (fault : Regex.Fault)
  | zeroDivision
  /-- the arguments end where an operand should be -/
  | missing
  /-- the arguments end where a parenthesis should be closed -/
  | unclosed
  | expectedParenthesis (found : Chars)
  | unexpectedParenthesis
  | unexpected (argument : Chars)
  deriving DecidableEq, Repr

/-- The words for a fault, with the last of the arguments. -/
def Fault.text (last : Chars) : Fault → Chars
  | .notAnInteger => chars "non-integer argument"
  | .notAPattern fault => chars fault.message
  | .zeroDivision => chars "division by zero"
  | .missing => chars "syntax error: missing argument after " ++ quotedName last
  | .unclosed => chars "syntax error: expecting ')' after " ++ quotedName last
  | .expectedParenthesis found =>
    chars "syntax error: expecting ')' instead of " ++ quotedName found
  | .unexpectedParenthesis => chars "syntax error: unexpected ')'"
  | .unexpected argument => chars "syntax error: unexpected argument " ++ quotedName argument

/-- The operators between two operands, those first that bind least. -/
def levels : List (List String) :=
  [["|"], ["&"], ["<", "<=", "=", "==", "!=", ">=", ">"], ["+", "-"], ["*", "/", "%"], [":"]]

def integerOf (text : Chars) : Except Fault Int :=
  match integer? text with
  | some value => if text.head? = some '+' then .error .notAnInteger else .ok value
  | none => .error .notAnInteger

def ofInt (value : Int) : Chars := (toString value).toList

/-- Whether a value counts as false: it is empty or zero. -/
def isNull (text : Chars) : Bool := text.isEmpty || integer? text = some 0

def ofBool (value : Bool) : Chars := if value then ['1'] else ['0']

/-- What a pattern matches at the start of a text: its first group, or how much it is. -/
def matching (text pattern : Chars) : Except Fault Chars :=
  match Regex.ofText { keepsEmptyRanges := true } pattern with
  | .error fault => .error (.notAPattern fault)
  | .ok (regex, _) =>
    let hasGroup := 0 < regex.groupCount
    match regex.matchAt? {} (fun _ => true) { after := text } with
    | some found => .ok (if hasGroup then found.group 1 else decimal found.text.length)
    | none => .ok (if hasGroup then [] else ['0'])

/-- Whether a comparison holds of texts in an order. -/
def compared (operator : String) (order : Ordering) : Bool :=
  match operator with
  | "<" => order.isLT
  | "<=" => order.isLE
  | ">" => order.isGT
  | ">=" => order.isGE
  | "!=" => order ≠ .eq
  | _ => order = .eq

def quotient (divide : Int → Int → Int) (left right : Chars) : Except Fault Chars := do
  let first ← integerOf left
  let second ← integerOf right
  if second = 0 then .error .zeroDivision else return ofInt (divide first second)

def operate (operator : String) (left right : Chars) : Except Fault Chars :=
  match operator with
  | "|" => .ok (if !isNull left then left else if !isNull right then right else ['0'])
  | "&" => .ok (if !isNull left && !isNull right then left else ['0'])
  | "+" => do return ofInt ((← integerOf left) + (← integerOf right))
  | "-" => do return ofInt ((← integerOf left) - (← integerOf right))
  | "*" => do return ofInt ((← integerOf left) * (← integerOf right))
  | "/" => quotient Int.tdiv left right
  | "%" => quotient Int.tmod left right
  | ":" => matching left right
  | operator =>
    let order := match integerOf left, integerOf right with
      | .ok first, .ok second => Ord.compare first second
      | _, _ => compareOctets (octetsOf left) (octetsOf right)
    .ok (ofBool (compared operator order))

/-- The functions with the number of their arguments. -/
def functions : List (String × Nat) :=
  [("length", 1), ("match", 2), ("index", 2), ("substr", 3)]

def call (function : String) (arguments : List Chars) : Except Fault Chars :=
  match function, arguments with
  | "length", [text] => .ok (decimal text.length)
  | "match", [text, pattern] => matching text pattern
  | "index", [text, members] =>
    .ok (decimal (((text.findIdx? members.contains).map (· + 1)).getD 0))
  | "substr", [text, first, count] =>
    match integerOf first, integerOf count with
    | .ok first, .ok count =>
      .ok (if first ≤ 0 || count ≤ 0 then [] else (text.drop (first.toNat - 1)).take count.toNat)
    | _, _ => .ok []
  | _, _ => .ok []

/-- A value and the arguments after it. -/
abbrev Reading := Except Fault (Chars × List Chars)

mutual

/-- Reads an expression whose operators are on some levels. The first argument of the readers
bounds the depth of their calls. -/
def level : Nat → List (List String) → List Chars → Reading
  | 0, _, _ => .error .missing
  | steps + 1, [], words => operand steps words
  | steps + 1, operators :: tighter, words => do
    let (left, rest) ← level steps tighter words
    operations steps operators tighter left rest

/-- Reads the operators of a level after a first operand, from left to right. -/
def operations : Nat → List String → List (List String) → Chars → List Chars → Reading
  | 0, _, _, left, words => .ok (left, words)
  | _ + 1, _, _, left, [] => .ok (left, [])
  | steps + 1, operators, tighter, left, operator :: rest =>
    if operators.contains (String.ofList operator) then do
      let (right, rest) ← level steps tighter rest
      operations steps operators tighter (← operate (String.ofList operator) left right) rest
    else .ok (left, operator :: rest)

def operand : Nat → List Chars → Reading
  | 0, _ => .error .missing
  | _ + 1, [] => .error .missing
  | steps + 1, ['('] :: rest => do
    let (value, rest) ← level steps levels rest
    match rest with
    | [')'] :: rest => return (value, rest)
    | found :: _ => .error (.expectedParenthesis found)
    | [] => .error .unclosed
  | _ + 1, [')'] :: _ => .error .unexpectedParenthesis
  | _ + 1, ['+'] :: word :: rest => .ok (word, rest)
  | steps + 1, word :: rest =>
    match functions.find? fun (name, _) => name.toList = word with
    | some (name, count) => do
      let (arguments, rest) ← operands steps count rest
      return (← call name arguments, rest)
    | none => .ok (word, rest)

def operands : Nat → Nat → List Chars → Except Fault (List Chars × List Chars)
  | _, 0, words => .ok ([], words)
  | 0, _, _ => .error .missing
  | steps + 1, count + 1, words => do
    let (first, rest) ← operand steps words
    let (others, rest) ← operands steps count rest
    return (first :: others, rest)

end

/-- The value of an expression. -/
def value (arguments : List Chars) : Except Fault Chars := do
  let (value, rest) ← level (16 * arguments.length + 16) levels arguments
  match rest with
  | [] => return value
  | next :: _ => .error (.unexpected next)

end LiveCompile.Shell.Expr

namespace LiveCompile.Shell

/-- Writes the value of an expression. -/
def expr : Program := fun situation arguments =>
  match arguments.getLast? with
  | none => situation.refuseUsage 2 (chars "missing operand")
  | some last =>
    match Expr.value arguments with
    | .error fault => situation.refuse 2 (fault.text last)
    | .ok value =>
      { output := value ++ ['\n'], code := if Expr.isNull value then 1 else 0
        unread := situation.input }

end LiveCompile.Shell
