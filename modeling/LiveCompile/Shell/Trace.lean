import LiveCompile.Shell.Expansion

/-! Showing commands before they run. -/

namespace LiveCompile.Shell.State

/-- Whether a shell shows a text between quotes. -/
def needsQuotes (text : Chars) : Bool :=
  text.isEmpty || text.any (fun c => !isPrintable c || c = apostrophe || c = backquote
    || " \"\\|&;()<>!{}*[]?^$".toList.contains c)
    || text.head? = some '#' || text.head? = some '~'

/-- A value as it is shown before a command runs. -/
def shownValue (state : State) (text : Chars) : Chars :=
  match state.dialect with
  | .plain => text
  | .extended => if !text.isEmpty && needsQuotes text then Alteration.quoted text else text

/-- Shows commands before they run, each on a line. -/
def traceLines (state : State) (endpoint : Option Endpoint) (lines : List Chars) : State :=
  let lead := (state.value? (chars "PS4")).getD []
  let lead := List.replicate state.depth (lead.headD '+') ++ lead
  state.writeTo endpoint (lines.flatMap fun line => lead ++ line ++ ['\n'])

/-- Shows a text before a command runs, if the extended shell does so. -/
def traceText (state : State) (text : Chars) : State :=
  if state.isExtended && state.settings.contains .xtrace then
    state.traceLines (state.endpoint? 2) [text]
  else state

/-- Shows a command before it runs, if the settings say so. -/
def trace (state : State) (endpoint : Option Endpoint) (assigned words : List Chars) : State :=
  if !state.settings.contains .xtrace || (assigned.isEmpty && words.isEmpty) then state
  else
    match state.dialect with
    | .plain =>
      let lead := (state.value? (chars "PS4")).getD []
      state.writeTo endpoint (lead ++ [' '].intercalate (assigned ++ words) ++ ['\n'])
    | .extended =>
      let shown := words.map fun word => if needsQuotes word then Alteration.quoted word else word
      state.traceLines endpoint
        (assigned ++ (if shown.isEmpty then [] else [[' '].intercalate shown]))

end LiveCompile.Shell.State
