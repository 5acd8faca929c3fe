import LiveCompile.Shell.Awk.Pattern

/-! Reading programs: from tokens to rules and functions. -/

namespace LiveCompile.Shell.Awk

/-- How a name is used. -/
inductive Usage where
  | unknown
  | scalar
  | array
  deriving DecidableEq, Repr

/-- What is known while a program is read. -/
structure Reading where
  tokens : List Placed
  names : Array (Chars × Usage) := #[]
  functions : Array Function := #[]
  /-- the parameters of the function that is read -/
  parameters : List Chars := []
  inFunction : Bool := false
  inRule : Bool := false
  loops : Nat := 0
  /-- calls of functions: which one, how many arguments, and the line -/
  calls : List (Nat × Nat × Nat) := []

/-- What is wrong, with its line. -/
structure Misreading where
  line : Option Nat
  text : Chars

abbrev Reader := StateT Reading (Except Misreading)

namespace Reader

def peek : Reader Token := do
  return match (← get).tokens with
    | placed :: _ => placed.token
    | [] => .ended

/-- The token after the next one. -/
def peekSecond : Reader Token := do
  return match (← get).tokens with
    | _ :: placed :: _ => placed.token
    | _ => .ended

def line : Reader Nat := do
  return match (← get).tokens with
    | placed :: _ => placed.line
    | [] => 1

def advance : Reader Unit := modify fun reading => { reading with tokens := reading.tokens.drop 1 }

def complain {α : Type} (text : Chars) : Reader α := do
  throw ⟨some (← line), text⟩

/-- The next token cannot stand where it is. -/
def refuse {α : Type} : Reader α := do
  match ← peek with
  | .bad complaint =>
    if (chars "unexpected").isPrefixOf complaint then
      throw ⟨none, decimal (← line) ++ chars ": " ++ complaint⟩
    else complain complaint
  | token => complain (chars "syntax error at or near " ++ token.shown)

def isNext (text : String) : Reader Bool := do
  return match ← peek with
    | .sign other => other = text
    | _ => false

def isKeyword (word : String) : Reader Bool := do
  return match ← peek with
    | .keyword other => other = word
    | _ => false

/-- Takes a sign if it is the next token. -/
def take? (text : String) : Reader Bool := do
  if ← isNext text then
    advance
    return true
  else return false

def expect (text : String) : Reader Unit := do
  if !(← take? text) then refuse

/-- Passes over line ends. The first argument bounds their number. -/
def skipLines : Nat → Reader Unit
  | 0 => return
  | count + 1 => do
    match ← peek with
    | .newline =>
      advance
      skipLines count
    | _ => return

def skipNewlines : Reader Unit := do skipLines (← get).tokens.length

/-- Passes over line ends and semicolons. -/
def skipSeparators : Nat → Reader Unit
  | 0 => return
  | count + 1 => do
    match ← peek with
    | .newline =>
      advance
      skipSeparators count
    | .sign ";" =>
      advance
      skipSeparators count
    | _ => return

/-- A name, with how it is used. -/
def named (name : Chars) (usage : Usage) : Reader Name := do
  let reading ← get
  match reading.parameters.idxOf? name with
  | some index => return ⟨true, index⟩
  | none =>
    match reading.names.findIdx? (·.1 = name) with
    | none =>
      set { reading with names := reading.names.push (name, usage) }
      return ⟨false, reading.names.size⟩
    | some index =>
      let before := (reading.names.getD index ([], .unknown)).2
      if before ≠ .unknown && usage ≠ .unknown && before ≠ usage then
        complain (chars "illegal reference to "
          ++ chars (if before = .array then "array " else "variable ") ++ name)
      else
        let usage := if before = .unknown then usage else before
        set { reading with names := reading.names.setIfInBounds index (name, usage) }
        return ⟨false, index⟩

/-- The number of a function, which may be defined later. -/
def functionNumber (name : Chars) : Reader Nat := do
  let reading ← get
  match reading.functions.findIdx? (·.name = name) with
  | some index => return index
  | none =>
    set { reading with functions := reading.functions.push { name } }
    return reading.functions.size

def regex (text : Chars) : Reader Regex := do
  match Pattern.ofText text with
  | .ok regex => return regex
  | .error fault =>
    complain (chars "regular expression compile failed (" ++ chars fault.message ++ chars ")\n"
      ++ text)

/-- Whether a token can begin an operand that is joined to the one before. -/
def beginsOperand : Token → Bool
  | .number _ _ => true
  | .text _ => true
  | .pattern _ => true
  | .name _ _ => true
  | .known _ => true
  | .sign "$" => true
  | .sign "!" => true
  | .sign "(" => true
  | .sign "-" => true
  | .sign "+" => true
  | .sign "++" => true
  | .sign "--" => true
  | .keyword "getline" => true
  | _ => false

def isTarget : Expr → Bool
  | .name _ => true
  | .element _ _ => true
  | .field _ => true
  | _ => false

/-- Where an expression stands: a greater sign or a bar may send output away. -/
structure Setting where
  isPrinted : Bool := false

def primitive? : String → Option Primitive
  | "length" => some .length
  | "substr" => some .substr
  | "index" => some .index
  | "sprintf" => some .sprintf
  | "sin" => some .sin
  | "cos" => some .cos
  | "atan2" => some .atan2
  | "exp" => some .exp
  | "log" => some .log
  | "sqrt" => some .sqrt
  | "int" => some .int
  | "rand" => some .rand
  | "srand" => some .srand
  | "tolower" => some .tolower
  | "toupper" => some .toupper
  | "system" => some .system
  | "close" => some .close
  | "fflush" => some .flush
  | _ => none

/-- The least and the greatest number of arguments. -/
def argumentCounts : Primitive → Nat × Nat
  | .length => (0, 1)
  | .substr => (2, 3)
  | .index => (2, 2)
  | .sprintf => (1, 255)
  | .atan2 => (2, 2)
  | .rand => (0, 0)
  | .srand => (0, 1)
  | .flush => (0, 1)
  | _ => (1, 1)

def comparison? : Token → Option Comparison
  | .sign "<" => some .less
  | .sign "<=" => some .lessOrEqual
  | .sign "==" => some .equal
  | .sign "!=" => some .unequal
  | .sign ">" => some .greater
  | .sign ">=" => some .greaterOrEqual
  | _ => none

def assignment? : Token → Option (Option Arithmetic)
  | .sign "=" => some none
  | .sign "+=" => some (some .plus)
  | .sign "-=" => some (some .minus)
  | .sign "*=" => some (some .times)
  | .sign "/=" => some (some .over)
  | .sign "%=" => some (some .modulo)
  | .sign "^=" => some (some .power)
  | _ => none

/-- An operand that is taken for a pattern: a text is compiled at once. -/
def asPattern (expr : Expr) : Reader Expr := do
  match expr with
  | .text content => return .pattern (← regex content)
  | expr => return expr

/-- The name of an array that is the next argument of a function. -/
def arrayArgument : Reader Name := do
  match ← peek with
  | .name name false =>
    let array ← named name .array
    advance
    return array
  | _ => refuse

mutual

/-- An expression. The first argument of each reader bounds the depth of its calls. -/
def expression : Nat → Setting → Reader Expr
  | 0, _ => complain (chars "program too large")
  | steps + 1, setting => do
    choice steps setting

def choice : Nat → Setting → Reader Expr
  | 0, _ => complain (chars "program too large")
  | steps + 1, setting => do
    let condition ← disjunction steps setting
    if ← take? "?" then
      skipNewlines
      let first ← expression steps setting
      skipNewlines
      expect ":"
      skipNewlines
      let second ← expression steps setting
      return .choice condition first second
    else return condition

def disjunction : Nat → Setting → Reader Expr
  | 0, _ => complain (chars "program too large")
  | steps + 1, setting => do
    let first ← conjunction steps setting
    moreDisjunction steps setting first

def moreDisjunction : Nat → Setting → Expr → Reader Expr
  | 0, _, _ => complain (chars "program too large")
  | steps + 1, setting, first => do
    if ← take? "||" then
      let second ← conjunction steps setting
      moreDisjunction steps setting (.either first second)
    else return first

def conjunction : Nat → Setting → Reader Expr
  | 0, _ => complain (chars "program too large")
  | steps + 1, setting => do
    let first ← membership steps setting
    moreConjunction steps setting first

def moreConjunction : Nat → Setting → Expr → Reader Expr
  | 0, _, _ => complain (chars "program too large")
  | steps + 1, setting, first => do
    if ← take? "&&" then
      let second ← membership steps setting
      moreConjunction steps setting (.both first second)
    else return first

def membership : Nat → Setting → Reader Expr
  | 0, _ => complain (chars "program too large")
  | steps + 1, setting => do
    let first ← matching steps setting
    moreMembership steps setting first

def moreMembership : Nat → Setting → Expr → Reader Expr
  | 0, _, _ => complain (chars "program too large")
  | steps + 1, setting, first => do
    if ← isKeyword "in" then
      advance
      let array ← arrayArgument
      moreMembership steps setting (.holds array [first])
    else return first

def matching : Nat → Setting → Reader Expr
  | 0, _ => complain (chars "program too large")
  | steps + 1, setting => do
    let first ← comparing steps setting
    moreMatching steps setting first

def moreMatching : Nat → Setting → Expr → Reader Expr
  | 0, _, _ => complain (chars "program too large")
  | steps + 1, setting, first => do
    let isNegated ← isNext "!~"
    if isNegated || (← isNext "~") then
      advance
      let second ← asPattern (← comparing steps setting)
      moreMatching steps setting (.matched isNegated first second)
    else return first

def comparing : Nat → Setting → Reader Expr
  | 0, _ => complain (chars "program too large")
  | steps + 1, setting => do
    let first ← joining steps setting
    moreComparing steps setting first

def moreComparing : Nat → Setting → Expr → Reader Expr
  | 0, _, _ => complain (chars "program too large")
  | steps + 1, setting, first => do
    match comparison? (← peek) with
    | none => return first
    | some comparison =>
      if setting.isPrinted && comparison = .greater then return first
      else
        advance
        let second ← joining steps setting
        moreComparing steps setting (.compared comparison first second)

def joining : Nat → Setting → Reader Expr
  | 0, _ => complain (chars "program too large")
  | steps + 1, setting => do
    let first ← adding steps setting
    moreJoining steps setting first

def moreJoining : Nat → Setting → Expr → Reader Expr
  | 0, _, _ => complain (chars "program too large")
  | steps + 1, setting, first => do
    if beginsOperand (← peek) then
      let second ← adding steps setting
      moreJoining steps setting (.joined first second)
    else return first

def adding : Nat → Setting → Reader Expr
  | 0, _ => complain (chars "program too large")
  | steps + 1, setting => do
    let first ← multiplying steps setting
    moreAdding steps setting first

def moreAdding : Nat → Setting → Expr → Reader Expr
  | 0, _, _ => complain (chars "program too large")
  | steps + 1, setting, first => do
    let isPlus ← isNext "+"
    if isPlus || (← isNext "-") then
      advance
      let second ← multiplying steps setting
      moreAdding steps setting (.arithmetic (if isPlus then .plus else .minus) first second)
    else return first

def multiplying : Nat → Setting → Reader Expr
  | 0, _ => complain (chars "program too large")
  | steps + 1, setting => do
    let first ← signed steps setting
    moreMultiplying steps setting first

def moreMultiplying : Nat → Setting → Expr → Reader Expr
  | 0, _, _ => complain (chars "program too large")
  | steps + 1, setting, first => do
    let operation? : Option Arithmetic := match ← peek with
      | .sign "*" => some .times
      | .sign "/" => some .over
      | .sign "%" => some .modulo
      | _ => none
    match operation? with
    | none => return first
    | some operation =>
      advance
      let second ← signed steps setting
      moreMultiplying steps setting (.arithmetic operation first second)

def signed : Nat → Setting → Reader Expr
  | 0, _ => complain (chars "program too large")
  | steps + 1, setting => do
    match ← peek with
    | .sign "!" =>
      advance
      return .negation (← signed steps setting)
    | .sign "-" =>
      advance
      return .negative (← signed steps setting)
    | .sign "+" =>
      advance
      return .positive (← signed steps setting)
    | _ =>
      let operand ← powering steps setting
      piping steps setting operand

/-- What reads from a command after an operand. -/
def piping : Nat → Setting → Expr → Reader Expr
  | 0, _, _ => complain (chars "program too large")
  | steps + 1, setting, script => do
    let isGetline := match ← peekSecond with
      | .keyword "getline" => true
      | _ => false
    if (← isNext "|") && isGetline then
      advance
      advance
      let target ← target? steps setting
      piping steps setting (.record (.command script) target)
    else return script

def powering : Nat → Setting → Reader Expr
  | 0, _ => complain (chars "program too large")
  | steps + 1, setting => do
    let base ← stepping steps setting
    if ← take? "^" then
      let exponent ← match ← peek with
        | .sign "-" => do
          advance
          pure (.negative (← powering steps setting))
        | .sign "+" => do
          advance
          pure (.positive (← powering steps setting))
        | .sign "!" => do
          advance
          pure (.negation (← powering steps setting))
        | _ => powering steps setting
      return .arithmetic .power base exponent
    else return base

/-- An operand with what assigns to it, or with signs for one more or less after it. -/
def stepping : Nat → Setting → Reader Expr
  | 0, _ => complain (chars "program too large")
  | steps + 1, setting => do
    let operand ← operand steps setting
    match assignment? (← peek) with
    | none => counting steps operand
    | some operation =>
      if !isTarget operand then refuse
      else
        if let .name name := operand then checkScalar name
        advance
        let value ← expression steps setting
        return match operation with
          | none => .assign operand value
          | some operation => .update operation operand value

/-- An operand with signs for one more or less after it. -/
def counting : Nat → Expr → Reader Expr
  | 0, _ => complain (chars "program too large")
  | _ + 1, operand => do
    let isUp ← isNext "++"
    if isTarget operand && (isUp || (← isNext "--")) then
      if let .name name := operand then checkScalar name
      advance
      return .step operand isUp true
    else return operand

/-- What may be assigned to and is the next operand, if it is one. -/
def target? : Nat → Setting → Reader (Option Expr)
  | 0, _ => complain (chars "program too large")
  | steps + 1, setting => do
    match ← peek with
    | .name _ false => return some (← operand steps setting)
    | .sign "$" => return some (← operand steps setting)
    | _ => return none

/-- A name that is used as a variable. -/
def checkScalar (name : Name) : Reader Unit := do
  if !name.isLocal then
    let (text, _) := (← get).names.getD name.index ([], .unknown)
    let _ ← named text .scalar

/-- Expressions between commas. -/
def expressions : Nat → Setting → Reader (List Expr)
  | 0, _ => complain (chars "program too large")
  | steps + 1, setting => do
    let first ← expression steps setting
    if ← take? "," then
      skipNewlines
      return first :: (← expressions steps setting)
    else return [first]

/-- Arguments up to a closing parenthesis, after the opening one. -/
def arguments : Nat → Reader (List Expr)
  | 0 => complain (chars "program too large")
  | steps + 1 => do
    if ← take? ")" then return []
    else
      let list ← callArguments steps
      expect ")"
      return list

/-- Arguments of a function of the program: a name alone may be an array. -/
def callArguments : Nat → Reader (List Expr)
  | 0 => complain (chars "program too large")
  | steps + 1 => do
    let first ← match ← peek, ← peekSecond with
      | .name name false, .sign "," => do
        let argument ← named name .unknown
        advance
        pure (.name argument)
      | .name name false, .sign ")" => do
        let argument ← named name .unknown
        advance
        pure (.name argument)
      | _, _ => expression steps {}
    if ← take? "," then
      skipNewlines
      return first :: (← callArguments steps)
    else return [first]

def operand : Nat → Setting → Reader Expr
  | 0, _ => complain (chars "program too large")
  | steps + 1, setting => do
    match ← peek with
    | .number value _ =>
      advance
      return .number value
    | .text content =>
      advance
      return .text content
    | .pattern content =>
      let regex ← regex content
      advance
      return .pattern regex
    | .sign "$" =>
      advance
      match ← peek with
      | .sign "-" =>
        advance
        return .field (.negative (← operand steps setting))
      | .sign "+" =>
        advance
        return .field (← operand steps setting)
      | .sign "!" =>
        advance
        return .field (.negation (← operand steps setting))
      | _ => return .field (← operand steps setting)
    | .sign "++" =>
      advance
      let target ← operand steps setting
      if isTarget target then return .step target true false else refuse
    | .sign "--" =>
      advance
      let target ← operand steps setting
      if isTarget target then return .step target false false else refuse
    | .sign "(" =>
      advance
      let list ← expressions steps {}
      expect ")"
      match list with
      | [only] => return only
      | list =>
        if ← isKeyword "in" then
          advance
          return .holds (← arrayArgument) list
        else refuse
    | .keyword "getline" =>
      advance
      let target ← target? steps setting
      if ← take? "<" then
        let name ← powering steps setting
        return .record (.file name) target
      else return .record .input target
    | .name name isCalled =>
      if isCalled then
        let number ← functionNumber name
        advance
        advance
        let line ← line
        let list ← arguments steps
        modify fun reading => { reading with
          calls := reading.calls ++ [(number, list.length, line)] }
        return .call number list
      else if let .sign "[" := ← peekSecond then
        let array ← named name .array
        advance
        advance
        let subscripts ← expressions steps {}
        expect "]"
        return .element array subscripts
      else
        let isFunction := (← get).functions.any fun function =>
          function.name = name && function.body.isSome
        let found ← named name .scalar
        advance
        if isFunction then refuse
        return .name found
    | .known word =>
      advance
      known steps word
    | _ => refuse

/-- A call of a function that every program has, after its name. -/
def known : Nat → String → Reader Expr
  | 0, _ => complain (chars "program too large")
  | steps + 1, word => do
    let wrong {α : Type} : Reader α :=
      complain (chars ("wrong number of arguments in call to " ++ word))
    if word = "length" && !(← isNext "(") then return .primitive .length []
    else
      expect "("
      match word with
      | "split" =>
        let subject ← expression steps {}
        if !(← take? ",") then wrong
        skipNewlines
        let array ← arrayArgument
        let separator ← if ← take? "," then
            skipNewlines
            pure (some (← expression steps {}))
          else pure none
        expect ")"
        return .split subject array separator
      | "match" =>
        let subject ← expression steps {}
        if !(← take? ",") then wrong
        skipNewlines
        let pattern ← asPattern (← expression steps {})
        expect ")"
        return .find subject pattern
      | "sub" => replacing steps false
      | "gsub" => replacing steps true
      | "length" =>
        match ← peek, ← peekSecond with
        | .name name false, .sign ")" =>
          let name ← named name .unknown
          advance
          advance
          return .size name
        | _, _ => return .primitive .length (← arguments steps)
      | word =>
        let list ← arguments steps
        match primitive? word with
        | none => wrong
        | some primitive =>
          let (least, most) := argumentCounts primitive
          if list.length < least || most < list.length then wrong
          else return .primitive primitive list

/-- The arguments of a function that replaces. -/
def replacing : Nat → Bool → Reader Expr
  | 0, _ => complain (chars "program too large")
  | steps + 1, isGlobal => do
    let pattern ← asPattern (← expression steps {})
    if !(← take? ",") then
      complain (chars ("wrong number of arguments in call to " ++ if isGlobal then "gsub" else "sub"))
    skipNewlines
    let replacement ← expression steps {}
    let target ← if ← take? "," then
        skipNewlines
        pure (← expression steps {})
      else pure (.field (.number .zero))
    if !isTarget target then refuse
    expect ")"
    return .replaced isGlobal pattern replacement target

end

/-- What ends a statement. -/
def terminator : Reader Unit := do
  match ← peek with
  | .newline =>
    advance
    skipNewlines
  | .sign ";" =>
    advance
    skipNewlines
  | .sign "\x7d" => return
  | _ => refuse

/-- Whether output is sent away, or a statement ends here. -/
def endsPrint (token : Token) : Bool :=
  match token with
  | .newline => true
  | .sign ";" => true
  | .sign "\x7d" => true
  | .sign ">" => true
  | .sign ">>" => true
  | .sign "|" => true
  | .ended => true
  | _ => false

/-- The arguments of `print`, which may be in parentheses. -/
def printed (steps : Nat) : Reader (List Expr) := do
  if endsPrint (← peek) then return []
  else
    let reading ← get
    let grouped : Reader (Option (List Expr)) := do
      expect "("
      if ← take? ")" then
        return if endsPrint (← peek) then some [] else none
      else
        let list ← expressions steps {}
        expect ")"
        return if endsPrint (← peek) then some list else none
    if ← isNext "(" then
      match grouped.run reading with
      | .ok (some list, after) =>
        set after
        return list
      | _ => expressions steps { isPrinted := true }
    else expressions steps { isPrinted := true }

/-- A statement that prints. -/
def printing (steps : Nat) (isFormatted : Bool) : Reader Statement := do
  advance
  let list ← printed steps
  if isFormatted && list.isEmpty then complain (chars "no arguments in call to printf")
  let route? : Option Route := match ← peek with
    | .sign ">" => some .file
    | .sign ">>" => some .append
    | .sign "|" => some .pipe
    | _ => none
  match route? with
  | none => return .print isFormatted list none
  | some route =>
    advance
    let target ← expression steps {}
    return .print isFormatted list (some (route, target))

def inLoop {α : Type} (read : Reader α) : Reader α := do
  modify fun reading => { reading with loops := reading.loops + 1 }
  let result ← read
  modify fun reading => { reading with loops := reading.loops - 1 }
  return result

mutual

/-- Statements up to a closing brace. -/
def statements : Nat → Reader (List Statement)
  | 0 => complain (chars "program too large")
  | steps + 1 => do
    skipSeparators (← get).tokens.length
    if ← take? "\x7d" then return []
    else
      let first ← statement steps
      return first :: (← statements steps)

/-- A statement with what ends it. -/
def statement : Nat → Reader Statement
  | 0 => complain (chars "program too large")
  | steps + 1 => do
    let ended (statement : Statement) : Reader Statement := do
      terminator
      return statement
    match ← peek with
    | .sign "\x7b" =>
      advance
      return .block (← statements steps)
    | .sign ";" =>
      advance
      skipNewlines
      return .block []
    | .keyword "if" =>
      advance
      expect "("
      let test ← expression steps {}
      expect ")"
      skipNewlines
      let first ← statement steps
      skipNewlines
      if ← isKeyword "else" then
        advance
        skipNewlines
        return .condition test first (some (← statement steps))
      else return .condition test first none
    | .keyword "while" =>
      advance
      expect "("
      let test ← expression steps {}
      expect ")"
      if ← take? ";" then
        skipNewlines
        return .loop test (.block [])
      else
        skipNewlines
        return .loop test (← inLoop (statement steps))
    | .keyword "do" =>
      advance
      skipNewlines
      let body ← inLoop (statement steps)
      skipNewlines
      if !(← isKeyword "while") then refuse
      advance
      expect "("
      let test ← expression steps {}
      expect ")"
      ended (.loopAfter body test)
    | .keyword "for" =>
      advance
      expect "("
      forLoop steps
    | .keyword "break" =>
      if (← get).loops = 0 then complain (chars "break statement outside of loop")
      advance
      ended .breaks
    | .keyword "continue" =>
      if (← get).loops = 0 then complain (chars "continue statement outside of loop")
      advance
      ended .continues
    | .keyword "next" =>
      if !(← get).inRule then complain (chars "improper use of next")
      advance
      ended .next
    | .keyword "nextfile" =>
      if !(← get).inRule then complain (chars "improper use of nextfile")
      advance
      ended .nextFile
    | .keyword "exit" =>
      advance
      let code ← if beginsOperand (← peek) then some <$> expression steps {} else pure none
      ended (.exit code)
    | .keyword "return" =>
      if !(← get).inFunction then complain (chars "return outside function body")
      advance
      let value ← if beginsOperand (← peek) then some <$> expression steps {} else pure none
      ended (.returns value)
    | .keyword "delete" =>
      advance
      let array ← arrayArgument
      if ← take? "[" then
        let subscripts ← expressions steps {}
        expect "]"
        ended (.delete array (some subscripts))
      else ended (.delete array none)
    | .keyword "print" => do ended (← printing steps false)
    | .keyword "printf" => do ended (← printing steps true)
    | _ => do
      let expr ← expression steps {}
      ended (.expression expr)

/-- A loop after `for` and the opening parenthesis. -/
def forLoop : Nat → Reader Statement
  | 0 => complain (chars "program too large")
  | steps + 1 => do
    let reading ← get
    match reading.tokens.map Placed.token with
    | .name target false :: .keyword "in" :: .name array false :: .sign ")" :: _ =>
      let target ← named target .scalar
      let array ← named array .array
      advance
      advance
      advance
      advance
      skipNewlines
      return .each target array (← inLoop (statement steps))
    | _ =>
      let part (closing : String) : Reader (Option Expr) := do
        if ← take? closing then return none
        else
          let expr ← expression steps {}
          expect closing
          return some expr
      let start ← part ";"
      skipNewlines
      let test ← part ";"
      skipNewlines
      let step ← part ")"
      if ← take? ";" then
        skipNewlines
        return .loopWith start test step (.block [])
      else
        skipNewlines
        return .loopWith start test step (← inLoop (statement steps))

end

/-- The names of parameters up to a closing parenthesis. -/
def parameters : Nat → Chars → List Chars → Reader (List Chars)
  | 0, _, _ => refuse
  | count + 1, function, before => do
    match ← peek with
    | .name name _ =>
      if name = function then complain (chars "function parameter cannot be the function")
      if before.contains name then complain (name ++ chars " is duplicated in argument list")
      advance
      let before := before ++ [name]
      if ← take? "," then
        skipNewlines
        parameters count function before
      else
        expect ")"
        return before
    | _ => refuse

/-- A function after the word that begins it. -/
def function (steps : Nat) : Reader Unit := do
  match ← peek with
  | .name name _ =>
    let number ← functionNumber name
    if ((← get).functions.getD number { name }).body.isSome then
      complain (chars "redefinition of " ++ name)
    advance
    expect "("
    let names ← if ← take? ")" then pure [] else parameters steps name []
    skipNewlines
    expect "\x7b"
    modify fun reading => { reading with
      parameters := names, inFunction := true, inRule := true
      functions := reading.functions.setIfInBounds number
        { name, parameters := names.length, body := some (.block []) } }
    let body ← statements steps
    modify fun reading => { reading with
      parameters := [], inFunction := false, inRule := false
      functions := reading.functions.setIfInBounds number
        { name, parameters := names.length, body := some (.block body) } }
  | _ => refuse

/-- An action after its opening brace; a semicolon may follow it. -/
def action (steps : Nat) (inRule : Bool) : Reader Statement := do
  modify fun reading => { reading with inRule }
  let body ← statements steps
  modify fun reading => { reading with inRule := false }
  let _ ← take? ";"
  return .block body

/-- A rule or a function. -/
def rule (steps : Nat) : Reader (Option Rule) := do
  match ← peek with
  | .keyword "BEGIN" =>
    advance
    expect "\x7b"
    return some ⟨.start, some (← action steps false)⟩
  | .keyword "END" =>
    advance
    expect "\x7b"
    return some ⟨.finish, some (← action steps false)⟩
  | .keyword "function" =>
    advance
    function steps
    return none
  | .keyword "func" =>
    advance
    function steps
    return none
  | .sign "\x7b" =>
    advance
    return some ⟨.always, some (← action steps true)⟩
  | _ =>
    let first ← expression steps {}
    let occasion : Occasion ← if ← take? "," then
        skipNewlines
        pure (.between first (← expression steps {}))
      else pure (.when first)
    if ← take? "\x7b" then return some ⟨occasion, some (← action steps true)⟩
    else
      match ← peek with
      | .newline => return some ⟨occasion, none⟩
      | .ended => return some ⟨occasion, none⟩
      | .sign ";" =>
        advance
        return some ⟨occasion, none⟩
      | _ => refuse

def rules : Nat → Reader (List Rule)
  | 0 => complain (chars "program too large")
  | steps + 1 => do
    skipNewlines
    match ← peek with
    | .ended => return []
    | _ =>
      let rule? ← rule steps
      return rule?.toList ++ (← rules steps)

/-- All rules; every function that is called must be there. -/
def program (steps : Nat) : Reader (List Rule) := do
  let rules ← rules steps
  match (← get).functions.find? (·.body.isNone) with
  | some function => complain (chars "function " ++ function.name ++ chars " never defined")
  | none =>
    let reading ← get
    let isWrong (call : Nat × Nat × Nat) : Bool :=
      (reading.functions.getD call.1 { name := [] }).parameters < call.2.1
    match reading.calls.find? isWrong with
    | some (number, _, line) =>
      let name := (reading.functions.getD number { name := [] }).name
      throw ⟨some line, chars "too many arguments in call to " ++ name⟩
    | none => return rules

end Reader

/-- How a known name is used. -/
def knownUsage (name : String) : Usage :=
  if name = "ENVIRON" || name = "ARGV" then .array else .scalar

/-- The program that a text writes, or what is wrong with it. -/
def Program.ofText (text : Chars) : Except (List Misreading) Program := do
  let text := if text.getLast? = some '\n' then text else text ++ ['\n']
  let all := tokens text
  let isExcess (placed : Placed) : Bool := placed.token matches .excess _
  let excess := (all.filter isExcess).map fun placed => ⟨some placed.line, placed.token.shown⟩
  let kept := all.filter fun placed => !isExcess placed
  let names := (knownNames.map fun name => (chars name, knownUsage name)).toArray
  match (Reader.program (30 * kept.length + 100)).run { tokens := kept, names } with
  | .error misreading => throw (excess ++ [misreading])
  | .ok (rules, reading) =>
    if !excess.isEmpty then throw excess
    else return { rules, functions := reading.functions, names := reading.names.map (·.1) }

end LiveCompile.Shell.Awk
