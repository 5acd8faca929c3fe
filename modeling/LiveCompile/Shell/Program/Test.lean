import LiveCompile.Shell.Pattern
import LiveCompile.Shell.Program.Basic
import LiveCompile.Path

/-! The program `test`, which is also called by an opening bracket: conditions on files,
texts and numbers. -/

namespace LiveCompile.Shell.Test

/-- What is wrong with a condition. -/
abbrev Fault := Chars

def isUnary (operator : Chars) : Bool :=
  match operator with
  | ['-', letter] => "bcdefghkLnprsStuwxzGO".toList.contains letter
  | _ => false

def binaryOperators : List String :=
  ["=", "==", "!=", "<", ">", "-eq", "-ne", "-gt", "-ge", "-lt", "-le", "-nt", "-ot", "-ef"]

def isBinary (operator : Chars) : Bool := binaryOperators.contains (String.ofList operator)

def unary (view : FileView) (letter : Char) (operand : Chars) : Bool :=
  let path := pathOf operand
  match letter with
  | 'n' => !operand.isEmpty
  | 'z' => operand.isEmpty
  | 'd' => view.isDirectory path
  | 'f' => view.isFile path
  | 'e' => view.found path
  | 'r' => view.found path
  | 'w' => view.found path
  | 'x' => view.isDirectory path || view.isExecutable path
  | 's' =>
    match view.read path with
    | .ok octets => !octets.isEmpty
    | .error _ => view.isDirectory path
  | 'c' => view.isDevice path
  | _ => false

def number (text : Chars) : Except Fault Int :=
  match integer? ((text.dropWhile (· = ' ')).reverse.dropWhile (· = ' ')).reverse with
  | some value => .ok value
  | none => .error (chars "Illegal number: " ++ text)

def binary (view : FileView) (left operator right : Chars) : Except Fault Bool :=
  let numbers (holds : Int → Int → Bool) : Except Fault Bool := do
    return holds (← number left) (← number right)
  match String.ofList operator with
  | "=" => .ok (left = right)
  | "==" => .ok (left = right)
  | "!=" => .ok (left ≠ right)
  | "<" => .ok (compareOctets (octetsOf left) (octetsOf right)).isLT
  | ">" => .ok (compareOctets (octetsOf left) (octetsOf right)).isGT
  | "-eq" => numbers (· = ·)
  | "-ne" => numbers (· ≠ ·)
  | "-gt" => numbers (· > ·)
  | "-ge" => numbers (· ≥ ·)
  | "-lt" => numbers (· < ·)
  | "-le" => numbers (· ≤ ·)
  | "-ef" =>
    let first := (view.locate (pathOf left)).toOption
    .ok (first.isSome && first == (view.locate (pathOf right)).toOption)
  | _ => .ok false

mutual

/-- Conditions of which one must hold. Readers give the words that follow; the first
argument bounds the depth of the calls. -/
def anyOf (view : FileView) : Nat → List Chars → Except Fault (Bool × List Chars)
  | 0, _ => .ok (false, [])
  | steps + 1, words => do
    let (first, rest) ← allOf view steps words
    match rest with
    | ['-', 'o'] :: rest =>
      let (second, rest) ← anyOf view steps rest
      return (first || second, rest)
    | rest => return (first, rest)

/-- Conditions that must all hold. -/
def allOf (view : FileView) : Nat → List Chars → Except Fault (Bool × List Chars)
  | 0, _ => .ok (false, [])
  | steps + 1, words => do
    let (first, rest) ← negated view steps words
    match rest with
    | ['-', 'a'] :: rest =>
      let (second, rest) ← allOf view steps rest
      return (first && second, rest)
    | rest => return (first, rest)

def negated (view : FileView) : Nat → List Chars → Except Fault (Bool × List Chars)
  | 0, _ => .ok (false, [])
  | steps + 1, words =>
    match words with
    | ['!'] :: next :: rest => do
      let (holds, rest) ← negated view steps (next :: rest)
      return (!holds, rest)
    | words => single view steps words

def single (view : FileView) : Nat → List Chars → Except Fault (Bool × List Chars)
  | 0, _ => .ok (false, [])
  | steps + 1, words =>
    match words with
    | left :: operator :: right :: rest =>
      if isBinary operator then do return (← binary view left operator right, rest)
      else if left = ['('] then do
        let (holds, rest) ← anyOf view steps (operator :: right :: rest)
        match rest with
        | [')'] :: rest => return (holds, rest)
        | _ => .error (chars "closing paren expected")
      else if isUnary left then
        return (unary view (left.getD 1 ' ') operator, right :: rest)
      else return (!left.isEmpty, operator :: right :: rest)
    | [operator, operand] =>
      if isBinary operand then .error (operand ++ chars ": argument expected")
      else if isUnary operator then .ok (unary view (operator.getD 1 ' ') operand, [])
      else .ok (!operator.isEmpty, [operand])
    | [word] => .ok (!word.isEmpty, [])
    | [] => .error (chars "argument expected")

end

/-- Whether the words hold as a condition. -/
def condition (view : FileView) (words : List Chars) : Except Fault Bool := do
  if words.isEmpty then return false
  else
    let (holds, rest) ← anyOf view (4 * words.length + 4) words
    if rest.isEmpty then return holds
    else .error (words.getD (words.length - rest.length - 1) [] ++ chars ": unexpected operator")

end LiveCompile.Shell.Test

namespace LiveCompile.Shell.Test

def isSwitch (operator : Chars) : Bool :=
  match operator with
  | ['-', letter] => "abcdefghkLnNoprRsStuvwxzGO".toList.contains letter
  | _ => false

/-- A number between blanks, as the extended shell words what is none. -/
def integer (text : Chars) : Except Fault Int :=
  let bare := ((text.dropWhile isBlankOrLine).reverse.dropWhile isBlankOrLine).reverse
  let isInRange (value : Int) : Bool :=
    -9223372036854775808 ≤ value && value ≤ 9223372036854775807
  match (integer? bare).filter isInRange with
  | some value => .ok value
  | none => .error (text ++ chars ": integer expression expected")

def comparison (view : FileView) (left operator right : Chars) : Except Fault Bool := do
  if (operator.take 1 = ['-']) && ! ["-nt", "-ot", "-ef"].contains (String.ofList operator) then
    let first ← integer left
    let second ← integer right
    binary view (decimalText first) operator (decimalText second)
  else binary view left operator right
where
  decimalText (value : Int) : Chars := (toString value).toList

def switch (view : FileView) (operator operand : Chars) : Bool :=
  let letter := operator.getD 1 ' '
  unary view (if letter = 'a' then 'e' else letter) operand

def ofTwo (view : FileView) (first second : Chars) : Except Fault Bool :=
  if first = ['!'] then .ok second.isEmpty
  else if isSwitch first then .ok (switch view first second)
  else .error (first ++ chars ": unary operator expected")

def ofThree (view : FileView) (first second third : Chars) : Except Fault Bool :=
  if isBinary second then comparison view first second third
  else if second = ['-', 'a'] then .ok (!first.isEmpty && !third.isEmpty)
  else if second = ['-', 'o'] then .ok (!first.isEmpty || !third.isEmpty)
  else if first = ['!'] then (ofTwo view second third).map (!·)
  else if first = ['('] && third = [')'] then .ok !second.isEmpty
  else .error (second ++ chars ": binary operator expected")

mutual

/-- Conditions of which one must hold. Readers give the words that follow; the first
argument bounds the depth of the calls. -/
def someOf (view : FileView) : Nat → List Chars → Except Fault (Bool × List Chars)
  | 0, _ => .ok (false, [])
  | steps + 1, words => do
    let (first, rest) ← everyOf view steps words
    match rest with
    | ['-', 'o'] :: rest =>
      let (second, rest) ← someOf view steps rest
      return (first || second, rest)
    | rest => return (first, rest)

def everyOf (view : FileView) : Nat → List Chars → Except Fault (Bool × List Chars)
  | 0, _ => .ok (false, [])
  | steps + 1, words => do
    let (first, rest) ← term view steps words
    match rest with
    | ['-', 'a'] :: rest =>
      let (second, rest) ← everyOf view steps rest
      return (first && second, rest)
    | rest => return (first, rest)

def term (view : FileView) : Nat → List Chars → Except Fault (Bool × List Chars)
  | 0, _ => .ok (false, [])
  | steps + 1, words =>
    match words with
    | [] => .error (chars "argument expected")
    | ['!'] :: rest => do
      let (holds, rest) ← term view steps rest
      return (!holds, rest)
    | ['('] :: rest => do
      let (holds, rest) ← someOf view steps rest
      match rest with
      | [')'] :: rest => return (holds, rest)
      | [] => .error ('\x60' :: chars ")' expected")
      | found :: _ => .error ('\x60' :: chars ")' expected, found " ++ found)
    | first :: rest =>
      match rest with
      | operator :: right :: others =>
        if isBinary operator then do return (← comparison view first operator right, others)
        else if isSwitch first then .ok (switch view first operator, right :: others)
        else .ok (!first.isEmpty, rest)
      | [operand] =>
        if isSwitch first then .ok (switch view first operand, [])
        else .ok (!first.isEmpty, rest)
      | [] => .ok (!first.isEmpty, [])

end

/-- Whether words hold as a condition of the extended shell: up to four words are read by their
number alone. -/
def extendedCondition (view : FileView) (words : List Chars) : Except Fault Bool :=
  let whole : Except Fault Bool := do
    let (holds, rest) ← someOf view (4 * words.length + 4) words
    if rest.isEmpty then return holds else .error (chars "too many arguments")
  match words with
  | [] => .ok false
  | [word] => .ok !word.isEmpty
  | [first, second] => ofTwo view first second
  | [first, second, third] => ofThree view first second third
  | [first, second, third, fourth] =>
    if first = ['!'] then (ofThree view second third fourth).map (!·)
    else if first = ['('] && fourth = [')'] then ofTwo view second third
    else whole
  | _ => whole

end LiveCompile.Shell.Test

namespace LiveCompile.Shell

/-- `test` of the extended shell. -/
def extendedTest (bracketed : Bool) : Program := fun situation arguments =>
  let judge (words : List Chars) : Ran :=
    match Test.extendedCondition situation.view words with
    | .ok holds => { code := if holds then 0 else 1, unread := situation.input }
    | .error fault => situation.refuse 2 fault
  if !bracketed then judge arguments
  else if arguments.getLast? = some [']'] then judge arguments.dropLast
  else situation.refuse 2 (chars "missing " ++ '\x60' :: chars "]'")

/-- `test`, and with `bracketed` the name that needs a closing bracket; `bracket` is how that
bracket is called. -/
def test (bracketed : Bool) (bracket : String) : Program := fun situation arguments =>
  let judge (words : List Chars) : Ran :=
    match Test.condition situation.view words with
    | .ok holds => { code := if holds then 0 else 1, unread := situation.input }
    | .error fault => situation.refuse 2 fault
  if !bracketed then judge arguments
  else if arguments.getLast? = some [']'] then judge arguments.dropLast
  else situation.refuse 2 (chars ("missing " ++ bracket))

end LiveCompile.Shell
