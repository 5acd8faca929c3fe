import LiveCompile.Shell.Sed.Script

/-! Reading scripts of the stream editor. A fault tells how many characters were left when
it was found, which gives its place. -/

namespace LiveCompile.Shell.Sed

/-- What is wrong with a script. -/
inductive Cause where
  | doubleNegation
  | missingSecondAddress
  | extentFirst
  | unmatchedOpening
  | unmatchedClosing
  | extraCharacters
  | missingText
  | addressedClosing
  | addressedLabel
  | addressedComment
  | missingCommand
  | oneAddress
  | unterminatedAddress
  | unterminatedSubstitution
  | unterminatedTransliteration
  | unknownFlag
  | repeatedFlag (name : String)
  | zeroNumber
  | differentLengths
  | newerVersion
  | zeroAddress
  | unknownCommand (c : Char)
  | missingLabel
  | missingFile
  | emptyWithFlags
  | unknownGroup (index : Nat)
  | regex (fault : Regex.Fault)
  deriving DecidableEq

def Cause.message : Cause → Chars
  | .doubleNegation => chars "multiple \x60!'s"
  | .missingSecondAddress => chars "unexpected \x60,'"
  | .extentFirst => chars "invalid usage of +N or ~N as first address"
  | .unmatchedOpening => chars "unmatched \x60\x7b'"
  | .unmatchedClosing => chars "unexpected \x60\x7d'"
  | .extraCharacters => chars "extra characters after command"
  | .missingText => chars "expected \\ after \x60a', \x60c' or \x60i'"
  | .addressedClosing => chars "\x60\x7d' doesn't want any addresses"
  | .addressedLabel => chars ": doesn't want any addresses"
  | .addressedComment => chars "comments don't accept any addresses"
  | .missingCommand => chars "missing command"
  | .oneAddress => chars "command only uses one address"
  | .unterminatedAddress => chars "unterminated address regex"
  | .unterminatedSubstitution => chars "unterminated \x60s' command"
  | .unterminatedTransliteration => chars "unterminated \x60y' command"
  | .unknownFlag => chars "unknown option to \x60s'"
  | .repeatedFlag name => chars ("multiple " ++ name ++ " options to \x60s' command")
  | .zeroNumber => chars "number option to \x60s' command may not be zero"
  | .differentLengths => chars "strings for \x60y' command are different lengths"
  | .newerVersion => chars "expected newer version of sed"
  | .zeroAddress => chars "invalid usage of line address 0"
  | .unknownCommand c => chars "unknown command: \x60" ++ [c, '\x27']
  | .missingLabel => chars "\":\" lacks a label"
  | .missingFile => chars "missing filename in r/R/w/W commands"
  | .emptyWithFlags => chars "cannot specify modifiers on empty regexp"
  | .unknownGroup index =>
    chars "invalid reference \\" ++ decimal index ++ chars " on \x60s' command's RHS"
  | .regex fault => chars fault.message

/-- A fault, with the number of characters behind the place where it was found. -/
structure Fault where
  cause : Cause
  left : Nat

def fail {α : Type} (cause : Cause) (rest : Chars) : Except Fault α :=
  .error ⟨cause, rest.length⟩

def isBlank (c : Char) : Bool := c = ' ' || c = '\t'

def skipBlanks (text : Chars) : Chars := text.dropWhile isBlank

/-- The value of up to so many digits. -/
def code? (base most : Nat) (text : Chars) : Option (Char × Chars) :=
  let digits := (text.take most).takeWhile fun c => (digitIn? base c).isSome
  if digits.isEmpty then none
  else
    let value := digits.foldl (fun value c => value * base + (digitIn? base c).getD 0) 0
    some (Char.ofNat (value % 256), text.drop digits.length)
where
  digitIn? (base : Nat) (c : Char) : Option Nat :=
    let value := if c.isDigit then c.toNat - '0'.toNat
      else if 'a' ≤ c && c ≤ 'f' then c.toNat - 'a'.toNat + 10
      else if 'A' ≤ c && c ≤ 'F' then c.toNat - 'A'.toNat + 10
      else base
    if value < base then some value else none

/-- The character that is written after a backslash, with what follows it. -/
def escape? : Chars → Option (Char × Chars)
  | 'a' :: rest => some ('\x07', rest)
  | 'f' :: rest => some ('\x0c', rest)
  | 'n' :: rest => some ('\n', rest)
  | 'r' :: rest => some ('\r', rest)
  | 't' :: rest => some ('\t', rest)
  | 'v' :: rest => some ('\x0b', rest)
  | 'c' :: c :: rest => some (Char.ofNat (c.toUpper.toNat ^^^ 64), rest)
  | 'd' :: rest => code? 10 3 rest
  | 'o' :: rest => code? 8 3 rest
  | 'x' :: rest => code? 16 2 rest
  | _ => none

def dialect (extended : Bool) : Regex.Dialect :=
  if extended then { extended, idle := .refused, escape? }
  else { refusesDouble := true, escape? }

/-- The text up to a delimiter, and what follows it. A delimiter after a backslash stands for
itself. In an expression a delimiter may stand between brackets. -/
def delimited? (delimiter : Char) (isRegex : Bool) : Nat → Chars → Except Chars (Chars × Chars)
  | 0, rest => .error rest
  | _ + 1, [] => .error []
  | count + 1, c :: rest =>
    let go (taken rest : Chars) : Except Chars (Chars × Chars) :=
      (delimited? delimiter isRegex count rest).map fun (text, rest) => (taken ++ text, rest)
    if c = delimiter then .ok ([], rest)
    else if c = '\n' && isRegex then .error (c :: rest)
    else if c = '\\' then
      match rest with
      | [] => .error []
      | '\n' :: rest => go ['\n'] rest
      | next :: rest =>
        if next = delimiter && (isRegex || next ≠ '&') then go [next] rest
        else go ['\\', next] rest
    else if c = '\n' then .error (c :: rest)
    else if c = '[' && isRegex then
      match brackets rest with
      | some (inner, rest) => go ('[' :: inner) rest
      | none => .error (rest.dropWhile (· ≠ '\n'))
    else go [c] rest
where
  /-- The text up to the bracket that closes a list of characters. -/
  brackets (text : Chars) : Option (Chars × Chars) :=
    let negation := if text.head? = some '^' then ['^'] else []
    let text := text.drop negation.length
    let first := if text.head? = some ']' then [']'] else []
    (inside (text.length + 1) (text.drop first.length)).map fun (inner, rest) =>
      (negation ++ first ++ inner, rest)
  inside : Nat → Chars → Option (Chars × Chars)
    | 0, _ => none
    | _ + 1, [] => none
    | _ + 1, ']' :: rest => some ([']'], rest)
    | _ + 1, '\n' :: _ => none
    | count + 1, '[' :: sign :: rest =>
      if sign = ':' || sign = '.' || sign = '=' then
        match Regex.upToSign sign rest with
        | some (name, rest) =>
          (inside count rest).map fun (inner, rest) =>
            (['[', sign] ++ name ++ [sign, ']'] ++ inner, rest)
        | none => none
      else (inside count (sign :: rest)).map fun (inner, rest) => ('[' :: inner, rest)
    | count + 1, c :: rest => (inside count rest).map fun (inner, rest) => (c :: inner, rest)

/-- The expression that a text is; an empty one takes the last one, and no flags. -/
def sought (extended : Bool) (manner : Regex.Manner) (text rest : Chars) :
    Except Fault Sought :=
  if text.isEmpty then
    if manner = {} then .ok ⟨none, {}⟩ else fail .emptyWithFlags rest
  else
    match Regex.ofText (dialect extended) text with
    | .ok (regex, _) => .ok ⟨some regex, manner⟩
    | .error fault => fail (.regex fault) rest

def number (text : Chars) : Nat × Chars :=
  ((natural? (text.takeWhile Char.isDigit)).getD 0, text.dropWhile Char.isDigit)

/-- The flags behind an expression that is an address. -/
def addressFlags : Nat → Regex.Manner → Chars → Regex.Manner × Chars
  | 0, manner, text => (manner, text)
  | count + 1, manner, text =>
    match skipBlanks text with
    | 'I' :: rest => addressFlags count { manner with folds := true } rest
    | 'M' :: rest => addressFlags count { manner with lines := true } rest
    | rest => (manner, rest)

/-- An address with an expression, after the delimiter that begins it. -/
def soughtAddress (extended : Bool) (delimiter : Char) (rest : Chars) :
    Except Fault (Sought × Chars) := do
  match delimited? delimiter true (rest.length + 1) rest with
  | .error rest => fail .unterminatedAddress rest
  | .ok (text, rest) =>
    let (manner, rest) := addressFlags rest.length {} rest
    return (← sought extended manner text rest, rest)

/-- An address, if there is one. -/
def address? (extended : Bool) (text : Chars) : Except Fault (Option Address × Chars) := do
  match text with
  | '$' :: rest => return (some .last, rest)
  | '/' :: rest =>
    let (sought, rest) ← soughtAddress extended '/' rest
    return (some (.matching sought), rest)
  | '\\' :: delimiter :: rest =>
    let (sought, rest) ← soughtAddress extended delimiter rest
    return (some (.matching sought), rest)
  | ['\\'] => fail .unterminatedAddress []
  | c :: rest =>
    if c.isDigit then
      let (first, rest) := number (c :: rest)
      match skipBlanks rest with
      | '~' :: rest =>
        let (step, rest) := number (skipBlanks rest)
        return (some (if step = 0 then .line first else .every first step), rest)
      | _ => return (some (.line first), rest)
    else if c = '+' || c = '~' then fail .extentFirst (number rest).2
    else return (none, text)
  | [] => return (none, [])

/-- The end of a range of lines. -/
def extent (extended : Bool) (text : Chars) : Except Fault (Extent × Chars) := do
  match text with
  | '+' :: rest =>
    let (count, rest) := number (skipBlanks rest)
    return (.more count, rest)
  | '~' :: rest =>
    let (divisor, rest) := number (skipBlanks rest)
    return (.multiple divisor, rest)
  | text =>
    match ← address? extended text with
    | (some (.line number), rest) => return (.line number, rest)
    | (some (.every number _), rest) => return (.line number, rest)
    | (some .last, rest) => return (.last, rest)
    | (some (.matching sought), rest) => return (.matching sought, rest)
    | (none, rest) => fail .missingSecondAddress (rest.drop 1)

/-- The parts of a replacement: `text` is what was read since the last part, `kept` the case
that holds when the next part is over. The first argument bounds the number of steps. -/
def pieces : Nat → Chars → Case → Case → Case → Chars → List Piece
  | 0, _, _, _, _, _ => []
  | _ + 1, text, case, first, _, [] =>
    if text.isEmpty then [] else [{ text := text.reverse, case, first }]
  | count + 1, text, case, first, kept, '\\' :: rest =>
    let piece : Piece := { text := text.reverse, case, first }
    match rest with
    | 'L' :: rest => piece :: pieces count [] .lower .asIs .lower rest
    | 'U' :: rest => piece :: pieces count [] .upper .asIs .upper rest
    | 'E' :: rest => piece :: pieces count [] .asIs .asIs .asIs rest
    | 'l' :: rest => piece :: pieces count [] kept .lower kept rest
    | 'u' :: rest => piece :: pieces count [] kept .upper kept rest
    | c :: others =>
      if c.isDigit then
        { piece with group := some (c.toNat - '0'.toNat) } :: pieces count [] kept .asIs kept others
      else
        match escape? rest with
        | some (c, rest) => pieces count (c :: text) case first kept rest
        | none => pieces count (c :: text) case first kept others
    | [] => pieces count ('\\' :: text) case first kept []
  | count + 1, text, case, first, kept, '&' :: rest =>
    { text := text.reverse, group := some 0, case, first } :: pieces count [] kept .asIs kept rest
  | count + 1, text, case, first, kept, c :: rest => pieces count (c :: text) case first kept rest

/-- The flags of a substitution. -/
structure Flags where
  manner : Regex.Manner := {}
  number : Option Nat := none
  every : Bool := false
  prints : Nat := 0
  file : Option Chars := none

/-- The name of a file up to the end of the line. -/
def fileName (text : Chars) : Except Fault (Chars × Chars) :=
  let text := skipBlanks text
  let name := text.takeWhile (· ≠ '\n')
  let rest := text.dropWhile (· ≠ '\n')
  if name.isEmpty then fail .missingFile rest else .ok (name, rest)

/-- Reads the flags of a substitution. The first argument bounds their number. -/
def flags : Nat → Flags → Chars → Except Fault (Flags × Chars)
  | 0, found, text => .ok (found, text)
  | _ + 1, found, [] => .ok (found, [])
  | count + 1, found, c :: rest =>
    match c with
    | 'i' => flags count { found with manner := { found.manner with folds := true } } rest
    | 'I' => flags count { found with manner := { found.manner with folds := true } } rest
    | 'm' => flags count { found with manner := { found.manner with lines := true } } rest
    | 'M' => flags count { found with manner := { found.manner with lines := true } } rest
    | 'p' =>
      if 0 < found.prints then fail (.repeatedFlag "\x60p'") rest
      else flags count { found with prints := 1 } rest
    | 'g' =>
      if found.every then fail (.repeatedFlag "\x60g'") rest
      else flags count { found with every := true } rest
    | 'w' => do
      let (file, rest) ← fileName rest
      return ({ found with file := some file }, rest)
    | ' ' => flags count found rest
    | '}' => .ok (found, c :: rest)
    | '#' => .ok (found, c :: rest)
    | ';' => .ok (found, rest)
    | '\n' => .ok (found, rest)
    | c =>
      if c.isDigit then
        let (value, rest) := number (c :: rest)
        if found.number.isSome then fail (.repeatedFlag "number") rest
        else if value = 0 then fail .zeroNumber rest
        else flags count { found with number := some value } rest
      else fail .unknownFlag rest

def substitution (extended : Bool) (text : Chars) : Except Fault (Action × Chars) := do
  let unterminated (rest : Chars) : Except Fault (Action × Chars) :=
    fail .unterminatedSubstitution rest
  match text with
  | [] => unterminated []
  | delimiter :: rest =>
    match delimited? delimiter true (rest.length + 1) rest with
    | .error rest => unterminated rest
    | .ok (pattern, rest) =>
      match delimited? delimiter false (rest.length + 1) rest with
      | .error rest => unterminated rest
      | .ok (replacement, rest) =>
        let (flags, rest) ← flags (rest.length + 1) {} rest
        let sought ← sought extended flags.manner pattern rest
        let pieces := pieces (replacement.length + 1) [] .asIs .asIs .asIs replacement
        let groups := (sought.regex.map (·.groupCount)).getD 9
        match pieces.find? fun piece => piece.group.any (groups < ·) with
        | some piece => fail (.unknownGroup (piece.group.getD 0)) rest
        | none =>
          return (.substitute {
            sought, pieces, from? := flags.number.getD 1, every := flags.every
            prints := flags.prints, file := flags.file }, rest)

/-- A text in which a backslash and a letter stand for a character. The first argument bounds
the number of steps. -/
def unescaped : Nat → Chars → Chars
  | 0, _ => []
  | _ + 1, [] => []
  | count + 1, '\\' :: rest =>
    match escape? rest, rest with
    | some (c, rest), _ => c :: unescaped count rest
    | none, c :: rest => c :: unescaped count rest
    | none, [] => ['\\']
  | count + 1, c :: rest => c :: unescaped count rest

def transliteration (text : Chars) : Except Fault (Action × Chars) :=
  match text with
  | [] => fail .unterminatedTransliteration []
  | delimiter :: rest =>
    match delimited? delimiter false (rest.length + 1) rest with
    | .error rest => fail .unterminatedTransliteration rest
    | .ok (members, rest) =>
      match delimited? delimiter false (rest.length + 1) rest with
      | .error rest => fail .unterminatedTransliteration rest
      | .ok (targets, rest) =>
        let members := unescaped (members.length + 1) members
        let targets := unescaped (targets.length + 1) targets
        if members.length ≠ targets.length then fail .differentLengths rest
        else .ok (.transliterate (members.zip targets), rest)

/-- The text of a command that adds lines: up to a line feed that is not escaped. The first
argument bounds the number of steps. -/
def addedText : Nat → Chars → Chars × Chars
  | 0, text => ([], text)
  | _ + 1, [] => (['\n'], [])
  | _ + 1, '\n' :: rest => (['\n'], rest)
  | count + 1, '\\' :: c :: rest =>
    let (c, rest) := (escape? (c :: rest)).getD (c, rest)
    let (text, rest) := addedText count rest
    (c :: text, rest)
  | count + 1, c :: rest =>
    let (text, rest) := addedText count rest
    (c :: text, rest)

/-- The text of a command that adds lines, after the letter of the command. -/
def addition (action : Chars → Action) (text : Chars) : Except Fault (Action × Chars) :=
  let finish (text : Chars) : Action × Chars :=
    let (added, rest) := addedText (text.length + 1) text
    (action added, rest)
  match skipBlanks text with
  | [] => fail .missingText []
  | ['\\'] => .ok (action [], [])
  | '\\' :: rest =>
    match skipBlanks rest with
    | '\n' :: rest => .ok (finish rest)
    | _ => .ok (finish rest)
  | rest => .ok (finish rest)

/-- The end of a command. -/
def commandEnd (text : Chars) : Except Fault Chars :=
  match skipBlanks text with
  | [] => .ok []
  | '\n' :: rest => .ok rest
  | ';' :: rest => .ok rest
  | '}' :: rest => .ok ('}' :: rest)
  | '#' :: rest => .ok ('#' :: rest)
  | _ :: rest => fail .extraCharacters rest

/-- The label behind a command. -/
def label (text : Chars) : Chars × Chars :=
  let text := skipBlanks text
  let isPart (c : Char) : Bool := !isBlankOrLine c && c ≠ ';' && c ≠ '}'
  (text.takeWhile isPart, text.dropWhile isPart)

/-- An instruction whose jumps do not know their targets. -/
inductive Raw where
  | instruction (instruction : Instruction)
  | opening (selection : Selection)
  | closing
  | label (name : Chars)
  | jump (selection : Selection) (condition : Condition) (name : Chars)

/-- An instruction that has no more to read than its end. -/
def plain? : Char → Option Action
  | 'd' => some .delete
  | 'D' => some .deleteFirst
  | 'p' => some .print
  | 'P' => some .printFirst
  | 'n' => some .next
  | 'N' => some .appendNext
  | 'h' => some .hold
  | 'H' => some .appendHold
  | 'g' => some .get
  | 'G' => some .appendGet
  | 'x' => some .exchange
  | 'z' => some .clear
  | '=' => some .number
  | 'F' => some .fileName
  | _ => none

/-- The version that scripts may ask for at most, as its two numbers. -/
def version : Nat × Nat := (4, 9)

/-- Whether a script asks for a newer version. -/
def isNewer (text : Chars) : Bool :=
  let parts := (piecesBetween '.' text).map fun part => (natural? part).getD 0
  let major := parts.headD 0
  version.1 < major || (version.1 = major && version.2 < parts.getD 1 0)

/-- A command after its addresses; `depth` is the number of blocks around it. -/
def command (extended : Bool) (depth : Nat) (selection : Selection) (text : Chars) :
    Except Fault (Raw × Chars) := do
  let isAddressed := selection.first.isSome || selection.extent.isSome
  let finish (action : Action) (rest : Chars) : Except Fault (Raw × Chars) := do
    return (.instruction ⟨selection, action⟩, ← commandEnd rest)
  let instruction (reading : Except Fault (Action × Chars)) : Except Fault (Raw × Chars) := do
    let (action, rest) ← reading
    return (.instruction ⟨selection, action⟩, rest)
  let toLabel (condition : Condition) (rest : Chars) : Except Fault (Raw × Chars) :=
    let (name, rest) := label rest
    .ok (.jump selection condition name, rest)
  match text with
  | [] => fail .missingCommand []
  | c :: rest =>
    match c with
    | '{' => return (.opening selection, rest)
    | '}' =>
      if depth = 0 then fail .unmatchedClosing rest
      else if isAddressed then fail .addressedClosing rest
      else return (.closing, ← commandEnd rest)
    | '#' =>
      if isAddressed then fail .addressedComment rest
      else return (.instruction ⟨selection, .nothing⟩, rest.dropWhile (· ≠ '\n'))
    | ':' =>
      if isAddressed then fail .addressedLabel rest
      else
        let (name, rest) := label rest
        if name.isEmpty then fail .missingLabel rest else return (.label name, rest)
    | 'b' => toLabel .always rest
    | 't' => toLabel .replaced rest
    | 'T' => toLabel .notReplaced rest
    | 's' => instruction (substitution extended rest)
    | 'y' => do
      let (action, rest) ← transliteration rest
      finish action rest
    | 'a' => instruction (addition .append rest)
    | 'i' => instruction (addition .insert rest)
    | 'c' => instruction (addition .change rest)
    | 'r' => instruction ((fileName rest).map fun (name, rest) => (.read name, rest))
    | 'R' => instruction ((fileName rest).map fun (name, rest) => (.readLine name, rest))
    | 'w' => instruction ((fileName rest).map fun (name, rest) => (.write name, rest))
    | 'W' => instruction ((fileName rest).map fun (name, rest) => (.writeFirst name, rest))
    | 'l' =>
      let rest := skipBlanks rest
      let (width, after) := number rest
      finish (.show (if rest.head?.any Char.isDigit then some width else none)) after
    | 'q' =>
      if selection.extent.isSome then fail .oneAddress rest
      else
        let (code, rest) := number (skipBlanks rest)
        finish (.quit code false) rest
    | 'Q' =>
      if selection.extent.isSome then fail .oneAddress rest
      else
        let (code, rest) := number (skipBlanks rest)
        finish (.quit code true) rest
    | 'v' =>
      let (asked, rest) := label rest
      if isNewer asked then fail .newerVersion rest else finish .nothing rest
    | c =>
      match plain? c with
      | some action => finish action rest
      | none => fail (.unknownCommand c) rest

/-- The addresses of a command. -/
def selection (extended : Bool) (text : Chars) : Except Fault (Selection × Chars) := do
  let (first, rest) ← address? extended text
  let (extent, rest) ← match first, skipBlanks rest with
    | some _, ',' :: rest => do
      let (extent, rest) ← extent extended (skipBlanks rest)
      pure (some extent, skipBlanks rest)
    | _, rest => pure (none, rest)
  let isZero := match first with
    | some (.line 0) => true
    | _ => false
  let first ← match isZero, extent with
    | true, some (.matching _) => .ok none
    | true, _ => fail .zeroAddress (rest.drop 1)
    | false, _ => .ok first
  match rest with
  | '!' :: rest =>
    let rest := skipBlanks rest
    if rest.head? = some '!' then fail .doubleNegation (rest.drop 1)
    else return (⟨first, extent, true⟩, rest)
  | rest => return (⟨first, extent, false⟩, rest)

/-- The commands of a script; `depth` is the number of open blocks. The first argument bounds
their number. -/
def raws (extended : Bool) : Nat → Nat → Chars → Except Fault (List Raw)
  | 0, _, _ => .ok []
  | count + 1, depth, text => do
    match text.dropWhile fun c => c = ';' || isBlankOrLine c with
    | [] => if depth = 0 then return [] else .error ⟨.unmatchedOpening, text.length⟩
    | text =>
      let (selection, rest) ← selection extended text
      let (raw, rest) ← command extended depth selection rest
      let depth := match raw with
        | .opening _ => depth + 1
        | .closing => depth - 1
        | _ => depth
      return raw :: (← raws extended count depth rest)

/-- The number of the instruction behind each one that opens a block, the last block first. -/
def blockEnds (raws : List Raw) : List (Nat × Nat) :=
  ((raws.zipIdx).foldl (fun (state : List Nat × List (Nat × Nat)) (raw, index) =>
    match raw, state with
    | .opening _, (opened, ends) => (index :: opened, ends)
    | .closing, (first :: opened, ends) => (opened, (first, index + 1) :: ends)
    | _, state => state) ([], [])).2

/-- The script with the targets of its jumps, or a label that is not there. -/
def resolved (raws : List Raw) : Except Chars Script := do
  let ends := blockEnds raws
  let labels := raws.zipIdx.filterMap fun (raw, index) =>
    match raw with
    | .label name => some (name, index)
    | _ => none
  let instructions ← raws.zipIdx.mapM fun (raw, index) =>
    match raw with
    | .instruction instruction => .ok instruction
    | .opening selection =>
      .ok ⟨selection, .block (((ends.find? (·.1 = index)).map (·.2)).getD raws.length)⟩
    | .closing => .ok ⟨{}, .nothing⟩
    | .label _ => .ok ⟨{}, .nothing⟩
    | .jump selection condition name =>
      if name.isEmpty then .ok ⟨selection, .jump condition raws.length⟩
      else
        match labels.find? (·.1 = name) with
        | some (_, target) => .ok ⟨selection, .jump condition target⟩
        | none => .error name
  return instructions.toArray

end LiveCompile.Shell.Sed
