import LiveCompile.Shell.Expansion

/-! Scripts that cannot be read, and how each shell tells what is wrong with them. -/

namespace LiveCompile.Shell

namespace Misplaced

/-- The number of lines of a text. -/
def linesIn (text : Chars) : Nat :=
  text.count '\n' + if text.isEmpty || text.getLast? = some '\n' then 0 else 1

/-- What the extended shell says is wrong with a text, and on which line; it may show the line. -/
def told (found : Misplaced) (text : Chars) : Nat × List Chars × Bool :=
  let unclosed (sign : Char) : Chars :=
    chars "unexpected EOF while looking for matching " ++ [backquote, sign, apostrophe]
  match found.fault with
  | .unclosed sign => (found.begins, [unclosed sign], false)
  | .unclosedBrace => (found.begins, [unclosed '}'], false)
  | .unclosedExpression => (found.begins, [unclosed ')'], false)
  | .unclosedScript => (linesIn text + 1, [unclosed ')'], false)
  | .unexpected _ (some near) =>
    (found.line,
      [chars "syntax error near unexpected token " ++ backquote :: near ++ [apostrophe]], true)
  | .inCondition told near =>
    (found.line, (if told.isEmpty then [] else [told])
      ++ [chars "syntax error near " ++ backquote :: near ++ [apostrophe]], true)
  | _ => (linesIn text + 1, [chars "syntax error: unexpected end of file"], false)

end Misplaced

namespace State

/-- Tells what is wrong with a script. The plain shell gives up; the extended one does only if it
was started with the script. -/
def refuseScript (state : State) (text : Chars) (found : Misplaced) : State :=
  match state.dialect with
  | .plain =>
    { state with line := found.line }.giveUp (chars ("Syntax error: " ++ found.fault.message))
  | .extended =>
    let (line, told, isShown) := found.told text
    let reading := if state.reading.isEmpty then [] else chars (": " ++ state.reading)
    let label := state.sourced.getD (state.name ++ reading) ++ chars ": line " ++ decimal line
      ++ chars ": "
    let state := state.write 2 (told.flatMap fun text => label ++ text ++ ['\n'])
    let source := (piecesBetween '\n' text).getD (line - 1) []
    let state := if !isShown then state
      else state.write 2 (label ++ backquote :: source ++ [apostrophe, '\n'])
    let isOwn := state.sourced.isNone && (state.reading.isEmpty || state.reading = "-c")
    let status := if found.fault = .unclosed ')' then 1 else 2
    if isOwn then { state with status, flow := .leaving } else state.withStatus status

end State

end LiveCompile.Shell
