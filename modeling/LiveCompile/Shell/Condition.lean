import LiveCompile.Shell.Program.Test
import LiveCompile.Shell.Regex.Reader
import LiveCompile.Shell.Regex.Search
import LiveCompile.Shell.Trace

/-! Conditions between double brackets. Their words are neither split nor taken for patterns of
names; the right side of a comparison may be a pattern or a regular expression. -/

namespace LiveCompile.Shell

/-- Quoted characters of a regular expression stand for themselves. -/
def regexText (marked : Marked) : Chars :=
  marked.flatMap fun (c, quoted) =>
    if quoted && !c.isAlphanum && c ≠ '\n' && c ≠ ' ' then ['\\', c] else [c]

namespace State

/-- Whether a text matches an expression; what its groups match is kept. Nothing is told if it
is no expression. -/
def matchedRegex (state : State) (text : Chars) (marked : Marked) : State × Option Bool :=
  match Regex.ofText { extended := true, idle := .refused } (regexText marked) with
  | .error _ => (state, none)
  | .ok (regex, _) =>
    let kept := chars "BASH_REMATCH"
    match regex.find? {} { after := text } with
    | none => (state.putCells kept false [], some false)
    | some found =>
      let cells := (List.range (regex.groupCount + 1)).map fun index =>
        (decimal index, found.group index)
      (state.putCells kept false cells, some true)

/-- Whether a variable or an element has a value. -/
def hasValue (state : State) (text : Chars) : Bool :=
  let (name, key) := Calculation.nameParts text
  match (state.parameterOf name key).2 with
  | .single value => value.isSome
  | .several _ values => !values.isEmpty

end State

namespace Condition

/-- How two numbers compare. -/
def compares (operator : String) (left right : Int) : Bool :=
  match operator with
  | "-eq" => left = right
  | "-ne" => left ≠ right
  | "-lt" => left < right
  | "-le" => left ≤ right
  | "-gt" => left > right
  | _ => left ≥ right

/-- Whether a condition on two operands holds; the right one is given with its quotes. -/
def ofTwo (state : State) (left : Chars) (operator : String) (right : Marked) :
    State × Option Bool :=
  let fits := (Pattern.ofMarked right).matchesText left
  if ["=", "=="].contains operator then (state, some fits)
  else if operator = "!=" then (state, some !fits)
  else if operator = "=~" then state.matchedRegex left right
  else if ["<", ">", "-nt", "-ot", "-ef"].contains operator then
    (state, (Test.binary state.view left operator.toList right.text).toOption)
  else
    let (state, first) := state.calculate left
    let (state, second) := if state.isGoing then state.calculate right.text else (state, [])
    if !state.isGoing then ({ state with flow := .going }, some false)
    else
      (state, some (compares operator ((integer? first).getD 0) ((integer? second).getD 0)))

/-- Shows the operands and the operator of a condition. -/
def traced (state : State) (parts : List Chars) : State :=
  let shown := parts.map fun part => if part.isEmpty then [apostrophe, apostrophe] else part
  state.traceText ([' '].intercalate (chars "[[" :: shown ++ [chars "]]"]))

/-- Whether a condition holds; nothing is told if a regular expression is none. -/
def holds (interpret : Interpreter) : Condition → State → State × Option Bool
  | .word content, state =>
    let (state, text) := expandText interpret content state
    (traced state [chars "-n", text], some !text.isEmpty)
  | .unary operator operand, state =>
    let (state, text) := expandText interpret operand state
    let state := traced state [operator, text]
    match String.ofList operator with
    | "-v" => (state, some (state.hasValue text))
    | "-o" => (state, some ((Setting.ofName? state.dialect text).any state.settings.contains))
    | _ => (state, some (Test.switch state.view operator text))
  | .binary left operator right, state =>
    let (state, text) := expandText interpret left state
    let (state, atoms) := expandWord interpret right state
    if !state.isGoing then (state, some false)
    else
      let right := Atom.marked atoms
      let shown := right.flatMap fun (c, quoted) => if quoted then ['\\', c] else [c]
      ofTwo (traced state [text, operator, shown]) text (String.ofList operator) right
  | .negation condition, state =>
    let (state, judged) := condition.holds interpret state
    (state, judged.map (!·))
  | .both first second, state =>
    match first.holds interpret state with
    | (state, some true) => second.holds interpret state
    | other => other
  | .either first second, state =>
    match first.holds interpret state with
    | (state, some false) => second.holds interpret state
    | other => other

end Condition

end LiveCompile.Shell
