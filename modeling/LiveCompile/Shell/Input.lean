import LiveCompile.Shell.Declaration

/-! Commands of the extended shell that read a line into variables, or all lines into an array. -/

namespace LiveCompile.Shell.Builtin

/-- What is read up to a character that ends it, with its escaped characters marked, whether it is
complete, and what follows it. At most so many characters are read. -/
def readPiece (isRaw : Bool) (stop : Option Char) : Option Nat → Chars → Marked × Bool × Chars
  | some 0, rest => ([], true, rest)
  | _, [] => ([], false, [])
  | limit, c :: rest =>
    let limit := limit.map (· - 1)
    let before (marked : Marked) (read : Marked × Bool × Chars) : Marked × Bool × Chars :=
      (marked ++ read.1, read.2)
    if some c = stop then ([], true, rest)
    else if c = '\x00' then readPiece isRaw stop limit rest
    else if c = '\\' && !isRaw then
      match rest with
      | [] => ([], false, [])
      | next :: rest =>
        before (if next = '\n' then [] else [(next, true)]) (readPiece isRaw stop limit rest)
    else before [(c, false)] (readPiece isRaw stop limit rest)

/-- The fields of what was read. -/
def fieldsRead (state : State) (marked : Marked) : List Chars :=
  let atoms := marked.map fun (c, quoted) => Atom.character c quoted true
  (fields state.separators atoms).map Marked.text

/-- The state after an array took texts as its elements, from a key on. -/
def putTexts (state : State) (name : Chars) (start : Nat) (texts : List Chars) : State :=
  let before := if start = 0 then [] else state.cellsOf name
  let cells := texts.zipIdx.map fun (text, index) => (decimal (start + index), text)
  state.putCells name false
    (cells.foldl (fun cells (key, text) => State.withCell false cells key text) before)

/-- The descriptor that an option names, if it is open. -/
def sourceOf (state : State) (options : List (Char × Chars)) : Except Chars Nat :=
  match (options.find? (·.1 = 'u')).map (·.2) with
  | none => .ok 0
  | some text =>
    match (natural? text).filter fun number => (state.endpoint? number).isSome with
    | some number => .ok number
    | none => .error (text ++ chars ": invalid file descriptor: Bad file descriptor")

def readUsage : String :=
  "read [-ers] [-a array] [-d delim] [-i text] [-n nchars] [-N nchars] [-p prompt] [-t timeout] "
    ++ "[-u fd] [name ...]"

def reads : Builtin := fun state arguments =>
  match lettersOf "ers" "adinNptu" arguments with
  | .error letter => state.refuseOption ['-', letter] readUsage
  | .ok (options, names) =>
    let value? (letter : Char) : Option Chars := (options.find? (·.1 = letter)).map (·.2)
    match names.find? fun name => (assigned? (name ++ ['='])).isNone, sourceOf state options with
    | some name, _ => state.refuseName name name
    | none, .error told => state.object 1 told
    | none, .ok source =>
      let exact := (value? 'N').bind natural?
      let limit := exact.or ((value? 'n').bind natural?)
      let stop := if exact.isSome then none
        else some (((value? 'd').map fun text => text.headD '\x00').getD '\n')
      let (marked, isComplete, rest) :=
        readPiece (options.any (·.1 = 'r')) stop limit (state.readable source).1
      let state := state.leave source rest
      let put (state : State) (name value : Chars) : State :=
        let (name, key) := Calculation.nameParts name
        state.assignTo name key false value
      let after : State := match value? 'a', names with
        | some array, _ => putTexts state array 0 (fieldsRead state marked)
        | none, [] => state.assign (chars "REPLY") marked.text
        | none, first :: others =>
          if exact.isSome then
            others.foldl (fun state name => put state name []) (put state first marked.text)
          else
            let values := fieldsOfLine state.separators names.length marked
            (names.zip values).foldl (fun state (name, value) => put state name value) state
      if after.isGoing then after.withStatus (if isComplete then 0 else 1) else after

/-- Reads lines into an array. -/
def readsLines : Builtin := fun state arguments =>
  match lettersOf "t" "dnOsuCc" arguments with
  | .error letter =>
    state.refuseOption ['-', letter]
      ("mapfile [-d delim] [-n count] [-O origin] [-s count] [-t] [-u fd] [-C callback] "
        ++ "[-c quantum] [array]")
  | .ok (options, names) =>
    let number (letter : Char) : Nat :=
      ((options.find? (·.1 = letter)).bind fun found => natural? found.2).getD 0
    match sourceOf state options with
    | .error told => state.object 1 told
    | .ok source =>
      let ending := ((options.find? (·.1 = 'd')).map fun found => found.2.headD '\x00').getD '\n'
      let pieces := (piecesEndedBy ending (state.readable source).1).drop (number 's')
      let taken := if number 'n' = 0 then pieces else pieces.take (number 'n')
      let left := (pieces.drop taken.length).flatten
      let texts := if options.any (·.1 = 't') then taken.map (barePiece ending) else taken
      let name := names.headD (chars "MAPFILE")
      (putTexts (state.leave source left) name (number 'O') texts).withStatus 0

end LiveCompile.Shell.Builtin
