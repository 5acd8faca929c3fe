import LiveCompile.Shell.State

/-! Redirections: descriptors that stand for files, for texts or for what other descriptors
stand for. -/

namespace LiveCompile.Shell

/-- Why a file could not be opened, to read it or to write it. -/
def openCause (writes : Bool) (error : FileError) : Chars :=
  match error with
  | .notFound => chars (if writes then "Directory nonexistent" else "No such file")
  | .notDirectory => chars (if writes then "Directory nonexistent" else "No such file")
  | error => cause error

/-- The descriptor that a path under the directory of the devices names. -/
def deviceDescriptor? (path : Chars) : Option Nat :=
  if path = chars "/dev/stdin" then some 0
  else if path = chars "/dev/stdout" then some 1
  else if path = chars "/dev/stderr" then some 2
  else if (chars "/dev/fd/").isPrefixOf path then natural? (path.drop 8)
  else none

/-- Whether a path names the device that has no space. -/
def isFull (path : Chars) : Bool := path = chars "/dev/full"

namespace State

/-- The state in which one descriptor stands for what another one does; a hyphen closes it. -/
def copy (state : State) (descriptor : Nat) (target : Chars) : Except Chars State :=
  if target = ['-'] then .ok (state.connect descriptor none)
  else
    match (natural? target).bind state.endpoint? with
    | some endpoint => .ok (state.connect descriptor (some endpoint))
    | none => .error (target ++ chars ": Bad file descriptor")

/-- The state in which a descriptor reads a file. -/
def openToRead (state : State) (descriptor : Nat) (target : Chars) : Except Chars State :=
  let cannot (error : FileError) : Except Chars State :=
    .error (chars "cannot open " ++ target ++ chars ": " ++ openCause false error)
  match state.view.locate (pathOf target) with
  | .error error =>
    if state.isExtended then .error (target ++ chars ": " ++ cause error) else cannot error
  | .ok place =>
    if state.view.tree.isDeviceAt place then
      .ok (state.connect descriptor (some (.device (isFull target))))
    else
      let text := charsOf ((state.view.tree.file? place).getD [])
      let (source, state) := state.addSource text true
      .ok (state.connect descriptor (some source))

/-- What stands for a file that is written from its start or at its end. -/
def target (state : State) (appends : Bool) (path : Chars) : Except FileError (Endpoint × State) :=
  match state.view.placeToWrite (pathOf path) with
  | .error error => .error error
  | .ok place =>
    let tree := state.view.tree
    if tree.isDeviceAt place then .ok (.device (isFull path), state)
    else
      let before := if appends then (tree.file? place).getD [] else []
      .ok (.file place, state.withTree (tree.write place before))

/-- The state in which a descriptor writes a file, from its start or at its end. -/
def openToWrite (state : State) (descriptor : Nat) (appends : Bool) (path : Chars) :
    Except Chars State :=
  match state.target appends path with
  | .error error =>
    if state.isExtended then .error (path ++ chars ": " ++ cause error)
    else .error (chars "cannot create " ++ path ++ chars ": " ++ openCause true error)
  | .ok (endpoint, state) => .ok (state.connect descriptor (some endpoint))

/-- The state in which a descriptor writes a file that does not exist yet. -/
def openNew (state : State) (descriptor : Nat) (target : Chars) : Except Chars State :=
  if state.view.isFile (pathOf target) then
    .error (if state.isExtended then target ++ chars ": cannot overwrite existing file"
      else chars "cannot create " ++ target ++ chars ": File exists")
  else state.openToWrite descriptor false target

/-- Whether a text names a descriptor that can be copied. -/
def isDescriptor (text : Chars) : Bool :=
  match text with
  | [c] => c.isDigit || c = '-'
  | _ => false

/-- The state after a redirection to what its word stands for, or why there is none. -/
def redirect (state : State) (descriptor : Nat) (opening : Opening) (target : Chars) :
    Except Chars State :=
  let copied := (deviceDescriptor? target).bind state.endpoint?
  match opening, copied with
  | .text, _ =>
    let (source, state) := state.addSource target false
    .ok (state.connect descriptor (some source))
  | .line, _ =>
    let (source, state) := state.addSource (target ++ ['\n']) false
    .ok (state.connect descriptor (some source))
  | .copy, _ => state.copy descriptor target
  | .both, none => do (← state.openToWrite 1 false target).copy 2 ['1']
  | .bothAppend, none => do (← state.openToWrite 1 true target).copy 2 ['1']
  | _, some endpoint => .ok (state.connect descriptor (some endpoint))
  | .read, none => state.openToRead descriptor target
  | .write, none =>
    if state.settings.contains .noclobber then state.openNew descriptor target
    else state.openToWrite descriptor false target
  | .replace, none => state.openToWrite descriptor false target
  | .append, none => state.openToWrite descriptor true target
  | .readWrite, none =>
    if state.view.found (pathOf target) then state.openToRead descriptor target
    else state.openToWrite descriptor true target

/-- Makes redirections in turn, and tells whether all could be made. -/
def redirectAll (state : State) : List (Redirect × Chars) → State × Bool
  | [] => (state, true)
  | (redirect, target) :: rest =>
    match state.redirect redirect.descriptor redirect.opening target with
    | .ok state => redirectAll state rest
    | .error text => (state.complain text, false)

end State

end LiveCompile.Shell
