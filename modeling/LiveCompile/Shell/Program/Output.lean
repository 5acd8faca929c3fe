import LiveCompile.Shell.Floating
import LiveCompile.Shell.Program.Options

/-! Programs that write their arguments: `echo` and `printf`. The shell has both built in;
as programs of their own they differ in some escapes and complaints. -/

namespace LiveCompile.Shell

def octalDigit? (c : Char) : Option Nat := Expression.digitValue? 8 c

/-- The character whose code is written with at most so many digits, and what follows. -/
def codeCharacter (base count : Nat) (text : Chars) : Char × Chars :=
  let digits := (text.take count).takeWhile fun c => (Expression.digitValue? base c).isSome
  (Char.ofNat (Expression.valueInBase base digits % 256), text.drop digits.length)

/-- The character that a letter after a backslash stands for. -/
def control? : Char → Option Char
  | 'a' => some '\x07'
  | 'b' => some '\x08'
  | 'e' => some '\x1b'
  | 'f' => some '\x0c'
  | 'n' => some '\n'
  | 'r' => some '\r'
  | 't' => some '\t'
  | 'v' => some '\x0b'
  | '\\' => some '\\'
  | _ => none

/-- Which escapes are known. -/
structure Escapes where
  /-- a code in octal digits begins with a zero that does not count -/
  zeroFirst : Bool := false
  /-- a code in octal digits may do without that zero -/
  octal : Bool := true
  /-- a code in hexadecimal digits, and an escaped double quote -/
  extended : Bool := false
  /-- a letter that ends the output -/
  stops : Bool := false
  /-- a code of a character in hexadecimal digits -/
  unicode : Bool := false
  /-- an escaped quote or question mark -/
  quotes : Bool := false
  /-- there is a directive that quotes for a shell -/
  quotesWords : Bool := false

/-- A character of a code that has more than one octet is left as it is written. -/
def unicodeText (letter : Char) (digits : Chars) : Chars :=
  let code := Expression.valueInBase 16 digits
  if code < 128 then [Char.ofNat code]
  else
    let (letter, width) := if letter = 'U' && 0xffff < code then ('U', 8) else ('u', 4)
    let shown := (Nat.toDigits 16 code).map Char.toUpper
    '\\' :: letter :: (List.replicate (width - shown.length) '0' ++ shown)

/-- A text with its escapes expanded, and whether the output ends there. The first argument
bounds the number of steps. -/
def expanded (escapes : Escapes) : Nat → Chars → Chars × Bool
  | 0, _ => ([], false)
  | _ + 1, [] => ([], false)
  | steps + 1, '\\' :: c :: rest =>
    let go (taken rest : Chars) : Chars × Bool :=
      let (text, stopped) := expanded escapes steps rest
      (taken ++ text, stopped)
    if c = 'c' && escapes.stops then ([], true)
    else if c = '0' && escapes.zeroFirst then
      let (character, rest) := codeCharacter 8 3 rest
      go [character] rest
    else if (octalDigit? c).isSome && escapes.octal then
      let (character, rest) := codeCharacter 8 3 (c :: rest)
      go [character] rest
    else if c = 'x' && escapes.extended && (rest.head?.bind (Expression.digitValue? 16)).isSome then
      let (character, rest) := codeCharacter 16 2 rest
      go [character] rest
    else if c = '"' && escapes.extended then go ['"'] rest
    else if escapes.quotes && (c = '"' || c = '\x27' || c = '?') then go [c] rest
    else if escapes.unicode && (c = 'u' || c = 'U')
        && (rest.head?.bind (Expression.digitValue? 16)).isSome then
      let digits := (rest.take (if c = 'u' then 4 else 8)).takeWhile fun c =>
        (Expression.digitValue? 16 c).isSome
      go (unicodeText c digits) (rest.drop digits.length)
    else if escapes.unicode && c = 'E' then go ['\x1b'] rest
    else if escapes.unicode && c = 'x'
        && (rest.head?.bind (Expression.digitValue? 16)).isSome then
      let (character, rest) := codeCharacter 16 2 rest
      go [character] rest
    else
      match control? c with
      | some character => go [character] rest
      | none => go ['\\', c] rest
  | steps + 1, c :: rest =>
    let (text, stopped) := expanded escapes steps rest
    (c :: text, stopped)

def Escapes.expand (escapes : Escapes) (text : Chars) : Chars × Bool :=
  expanded escapes (text.length + 1) text

def spaced (words : List Chars) : Chars := [' '].intercalate words

def writes (situation : Situation) (output : Chars) : Ran := { output, unread := situation.input }

/-- The `echo` of the shell: escapes are expanded, `-n` leaves out the line feed. -/
def builtinEcho : Program := fun situation arguments =>
  let (feeds, words) := match arguments with
    | ['-', 'n'] :: words => (false, words)
    | words => (true, words)
  let (text, stopped) := Escapes.expand { zeroFirst := true, stops := true } (spaced words)
  writes situation (if feeds && !stopped then text ++ ['\n'] else text)

/-- The letters of the leading options of `echo` and the words after them. -/
def echoOptions : List Chars → Chars × List Chars
  | ('-' :: letter :: letters) :: rest =>
    if (letter :: letters).all "neE".toList.contains then
      let (more, words) := echoOptions rest
      (letter :: letters ++ more, words)
    else ([], ('-' :: letter :: letters) :: rest)
  | words => ([], words)

/-- `echo` as a program of its own: escapes are expanded on request. -/
def echo : Program := fun situation arguments =>
  let (letters, words) := echoOptions arguments
  let expands := (letters.filter (· ≠ 'n')).getLast? = some 'e'
  let (text, stopped) :=
    if expands then
      Escapes.expand { zeroFirst := true, octal := false, extended := true, stops := true }
        (spaced words)
    else (spaced words, false)
  writes situation (if !letters.contains 'n' && !stopped then text ++ ['\n'] else text)

/-- The `echo` of the extended shell: escapes are expanded on request. -/
def extendedEcho : Program := fun situation arguments =>
  let (letters, words) := echoOptions arguments
  let expands := (letters.filter (· ≠ 'n')).getLast? = some 'e'
  let (text, stopped) :=
    if expands then
      Escapes.expand { zeroFirst := true, octal := false, stops := true, unicode := true }
        (spaced words)
    else (spaced words, false)
  writes situation (if !letters.contains 'n' && !stopped then text ++ ['\n'] else text)

/-- How a value is shown: the characters after the percent sign. -/
structure Directive where
  flags : Chars := []
  width : Option Int := none
  precision : Option Nat := none
  conversion : Char

/-- The directives and the texts of a format. -/
inductive Format where
  | text (content : Chars)
  | stop
  | directive (directive : Directive) (written : Chars) (widthGiven precisionGiven : Bool)
  | malformed (written : Chars)

/-- A directive after its percent sign, and what follows it. -/
def directive (quotesWords : Bool) (text : Chars) : Format × Chars :=
  let flags := text.takeWhile "-+ #0".toList.contains
  let rest := text.dropWhile "-+ #0".toList.contains
  let number (rest : Chars) : Option Nat × Bool × Chars :=
    match rest with
    | '*' :: rest => (none, true, rest)
    | rest => (natural? (rest.takeWhile Char.isDigit), false, rest.dropWhile Char.isDigit)
  let (width, widthGiven, rest) := number rest
  let (precision, precisionGiven, rest) := match rest with
    | '.' :: rest =>
      let (precision, given, rest) := number rest
      (some (precision.getD 0), given, rest)
    | rest => (none, false, rest)
  let rest := rest.dropWhile "hlLjzt".toList.contains
  match rest with
  | [] => (.malformed text, [])
  | conversion :: rest =>
    let written := text.take (text.length - rest.length)
    if "diouxXcsbfFeEgGaA".toList.contains conversion || (quotesWords && conversion = 'q') then
      (.directive ⟨flags, width.map Int.ofNat, precision, conversion⟩ written widthGiven
        precisionGiven, rest)
    else (.malformed written, rest)

/-- The parts of a format. The first argument bounds their number. -/
def formatParts (escapes : Escapes) : Nat → Chars → List Format
  | 0, _ => []
  | _ + 1, [] => []
  | count + 1, '%' :: '%' :: rest => .text ['%'] :: formatParts escapes count rest
  | count + 1, '%' :: rest =>
    let (part, rest) := directive escapes.quotesWords rest
    part :: formatParts escapes count rest
  | count + 1, text =>
    let (plain, stopped) := escapes.expand (text.takeWhile (· ≠ '%'))
    .text plain :: if stopped then [.stop] else formatParts escapes count (text.dropWhile (· ≠ '%'))

/-- The state of a `printf`. -/
structure Printing where
  arguments : List Chars
  output : Chars := []
  complaints : Chars := []
  stopped : Bool := false
  /-- the format has a directive that cannot be read -/
  isMalformed : Bool := false

/-- How `printf` complains about a number. -/
structure NumberComplaints where
  quoted : Bool
  notNumber : String
  notWhole : String
  /-- what is before a number that is too great -/
  greatLead : String := ""
  /-- how a text is quoted for a shell -/
  quote : Chars → Chars := id
  /-- how the arguments of a directive that shows escapes are expanded -/
  escapes : Escapes := { zeroFirst := true, stops := true }
  /-- the format in which numbers with a point are held -/
  format : Floating.BinaryFormat

/-- The number that an argument is, what of it is no number, and whether it is too great. -/
def argumentNumber (text : Chars) : Int × Chars × Bool :=
  match text.dropWhile isBlankChar with
  | '\x27' :: c :: _ => (c.toNat, [], false)
  | '"' :: c :: _ => (c.toNat, [], false)
  | text =>
    let (negative, digits) := match text with
      | '-' :: digits => (true, digits)
      | '+' :: digits => (false, digits)
      | digits => (false, digits)
    let base := match digits with
      | '0' :: 'x' :: _ => 16
      | '0' :: 'X' :: _ => 16
      | '0' :: _ => 8
      | _ => 10
    let digits := if base = 16 then digits.drop 2 else digits
    let isDigit (c : Char) := (Expression.digitValue? base c).isSome
    let value : Int := Expression.valueInBase base (digits.takeWhile isDigit)
    let value := if negative then -value else value
    if digits.takeWhile isDigit = [] then (0, text, false)
    else (value, digits.dropWhile isDigit, value < Expression.least ∨ 18446744073709551615 < value)
where
  isBlankChar (c : Char) : Bool := c = ' ' || ('\t' ≤ c && c ≤ '\r')

def padded (directive : Directive) (text : Chars) : Chars :=
  let width := directive.width.getD 0
  let fill := List.replicate (width.natAbs - text.length) ' '
  if directive.flags.contains '-' || width < 0 then text ++ fill else fill ++ text

/-- Digits with a sign before them, filled up to the width of a directive. -/
def signed (directive : Directive) (sign digits : Chars) : Chars :=
  let digits := match directive.precision with
    | some least => List.replicate (least - digits.length) '0' ++ digits
    | none =>
      if directive.flags.contains '0' && !directive.flags.contains '-' then
        let width := (directive.width.getD 0).natAbs
        List.replicate (width - digits.length - sign.length) '0' ++ digits
      else digits
  padded directive (sign ++ digits)

def digitsInBase (base : Nat) (n : Nat) : Chars := Nat.toDigits base n

def integerText (directive : Directive) (value : Int) : Chars :=
  let natural := Expression.bits value
  let alternative := directive.flags.contains '#'
  match directive.conversion with
  | 'o' => signed directive (if alternative then ['0'] else []) (digitsInBase 8 natural)
  | 'x' =>
    signed directive (if alternative && natural ≠ 0 then ['0', 'x'] else [])
      (digitsInBase 16 natural)
  | 'X' =>
    signed directive (if alternative && natural ≠ 0 then ['0', 'X'] else [])
      ((digitsInBase 16 natural).map Char.toUpper)
  | 'u' => signed directive [] (digitsInBase 10 natural)
  | _ =>
    let value := max Expression.least (min Expression.greatest value)
    let sign := if value < 0 then ['-'] else if directive.flags.contains '+' then ['+']
      else if directive.flags.contains ' ' then [' '] else []
    signed directive sign (digitsInBase 10 value.natAbs)

/-- A text as a shell reads it back. -/
def shellQuoted (text : Chars) : Chars :=
  let isPlain (c : Char) : Bool := c.isAlphanum || "_-./:=@%+,".toList.contains c
  let isControl (c : Char) : Bool := c < ' ' || '~' < c
  let escape (c : Char) : Chars :=
    match c with
    | '\n' => ['\\', 'n']
    | '\t' => ['\\', 't']
    | '\r' => ['\\', 'r']
    | '\x07' => ['\\', 'a']
    | '\x08' => ['\\', 'b']
    | '\x0b' => ['\\', 'v']
    | '\x0c' => ['\\', 'f']
    | '\x1b' => ['\\', 'E']
    | '\\' => ['\\', '\\']
    | '\x27' => ['\\', '\x27']
    | c =>
      if isControl c then
        let digits := Nat.toDigits 8 c.toNat
        '\\' :: (List.replicate (3 - digits.length) '0' ++ digits)
      else [c]
  if text.isEmpty then ['\x27', '\x27']
  else if text.any isControl then
    '$' :: '\x27' :: text.flatMap escape ++ ['\x27']
  else text.flatMap fun c => if isPlain c then [c] else ['\\', c]

namespace Printing

def take (printing : Printing) : Option Chars × Printing :=
  (printing.arguments.head?, { printing with arguments := printing.arguments.drop 1 })

def write (printing : Printing) (text : Chars) : Printing :=
  { printing with output := printing.output ++ text }

def complain (situation : Situation) (text : Chars) (printing : Printing) : Printing :=
  { printing with complaints := printing.complaints ++ situation.complaint text }

/-- The next argument as a number, given how it is read: the number, what follows it, and
whether it is too great. -/
def number {α : Type} (words : NumberComplaints) (situation : Situation)
    (read : Chars → α × Chars × Bool) (usual : α) (printing : Printing) : α × Printing :=
  let (argument, printing) := printing.take
  let argument := argument.getD []
  let (value, rest, tooGreat) := read argument
  let shown := if words.quoted then '\x27' :: argument ++ ['\x27'] else argument
  let about (text : String) := complain situation (shown ++ chars (": " ++ text)) printing
  if argument.isEmpty then (usual, printing)
  else if tooGreat && (words.quoted || rest.isEmpty) then
    let text := chars words.greatLead ++ shown ++ chars ": Numerical result out of range"
    (value, complain situation text printing)
  else if rest = argument then (usual, about words.notNumber)
  else if !rest.isEmpty then (value, about words.notWhole)
  else (value, printing)

def integer (words : NumberComplaints) (situation : Situation) (printing : Printing) :
    Int × Printing :=
  printing.number words situation argumentNumber 0

/-- The number with a point that an argument is, as a format holds it. -/
def argumentFloating (format : Floating.BinaryFormat) (text : Chars) : Floating × Chars × Bool :=
  match text with
  | '\x27' :: c :: _ => (.ofInt c.toNat, [], false)
  | '"' :: c :: _ => (.ofInt c.toNat, [], false)
  | text =>
    match Floating.read? text with
    | none => (.zero, text, false)
    | some (value, rest) =>
      let (value, isOut) := value.rounded format
      (value, rest, isOut)

/-- The text of a number with a point. -/
def floatingText (format : Floating.BinaryFormat) (directive : Directive)
    (style : Floating.Style) (value : Floating) : Chars :=
  let text :=
    value.magnitudeText format style directive.precision (directive.flags.contains '#')
  let text := if directive.conversion.isUpper then text.map Char.toUpper else text
  let sign := if value.isNegative then ['-'] else if directive.flags.contains '+' then ['+']
    else if directive.flags.contains ' ' then [' '] else []
  let directive := { directive with precision := none }
  if value.isFinite then
    if style = .hexadecimal then signed directive (sign ++ text.take 2) (text.drop 2)
    else signed directive sign text
  else padded directive (sign ++ text)

/-- Shows one argument as a directive says. -/
def present (words : NumberComplaints) (situation : Situation) (directive : Directive)
    (printing : Printing) : Printing :=
  match directive.conversion with
  | 's' =>
    let (argument, printing) := printing.take
    let text := argument.getD []
    printing.write (padded directive (text.take (directive.precision.getD text.length)))
  | 'c' =>
    let (argument, printing) := printing.take
    printing.write (padded directive [(argument.getD []).headD '\x00'])
  | 'b' =>
    let (argument, printing) := printing.take
    let (text, stopped) := Escapes.expand words.escapes (argument.getD [])
    { printing.write (padded directive text) with stopped }
  | 'q' =>
    let (argument, printing) := printing.take
    printing.write (padded directive (words.quote (argument.getD [])))
  | conversion =>
    match Floating.style? conversion with
    | some style =>
      let (value, printing) :=
        printing.number words situation (argumentFloating words.format) .zero
      printing.write (floatingText words.format directive style value)
    | none =>
      let (value, printing) := printing.integer words situation
      printing.write (integerText directive value)

/-- One pass over a format. -/
def pass (words : NumberComplaints) (situation : Situation) (malformed : Chars → Chars) :
    List Format → Printing → Printing
  | [], printing => printing
  | part :: rest, printing =>
    if printing.stopped then printing
    else
      match part with
      | .text content => pass words situation malformed rest (printing.write content)
      | .stop => { printing with stopped := true }
      | .malformed written =>
        { complain situation (malformed written) printing with
          stopped := true, isMalformed := true }
      | .directive directive _ widthGiven precisionGiven =>
        let (width, printing) := if widthGiven then
            let (value, printing) := printing.integer words situation
            (some value, printing)
          else (directive.width, printing)
        let (precision, printing) := if precisionGiven then
            let (value, printing) := printing.integer words situation
            (some value.toNat, printing)
          else (directive.precision, printing)
        pass words situation malformed rest
          (printing.present words situation { directive with width, precision })

/-- Passes over the format again as long as arguments are left. The first argument bounds
the number of passes. -/
def passes (words : NumberComplaints) (situation : Situation) (malformed : Chars → Chars)
    (format : List Format) : Nat → Printing → Printing
  | 0, printing => printing
  | count + 1, printing =>
    let next := printing.pass words situation malformed format
    if next.stopped || next.arguments.isEmpty
        || next.arguments.length = printing.arguments.length then
      next
    else passes words situation malformed format count next

end Printing

/-- Writes arguments in a format; `malformedCode` is the code for a bad directive. -/
def printed (malformedCode : Nat) (escapes : Escapes) (words : NumberComplaints)
    (malformed : Chars → Chars)
    (situation : Situation) (format : Chars) (arguments : List Chars) : Ran :=
  let done := Printing.passes words situation malformed
    (formatParts escapes (format.length + 1) format)
    (arguments.length + 1) { arguments }
  { output := done.output, complaints := done.complaints
    code := if done.isMalformed then malformedCode else if done.complaints.isEmpty then 0 else 1
    unread := situation.input }

def withoutDashes : List Chars → List Chars
  | ['-', '-'] :: arguments => arguments
  | arguments => arguments

/-- The `printf` of the shell. -/
def builtinPrintf : Program := fun situation arguments =>
  let malformed (written : Chars) : Chars :=
    if written.isEmpty then chars "missing format character"
    else '%' :: written ++ chars ": invalid directive"
  let print (words : List Chars) : Ran :=
    match words with
    | [] => situation.refuse 2 (chars "usage: printf format [arg ...]")
    | format :: arguments =>
      printed 2 {}
        { quoted := false, notNumber := "expected numeric value"
          notWhole := "not completely converted", format := Floating.double }
        malformed situation format arguments
  match arguments with
  | ['-', '-'] :: words => print words
  | ('-' :: letter :: _) :: _ => situation.refuse 2 (chars "Illegal option -" ++ [letter])
  | words => print words

/-- The `printf` of the extended shell. -/
def extendedPrintf : Program := fun situation arguments =>
  let usage : Chars := chars "printf: usage: printf [-v var] format [arguments]\n"
  let malformed (written : Chars) : Chars :=
    match written.getLast? with
    | none => '\x60' :: chars "%': missing format character"
    | some last =>
      if last.isAlpha || last = '%' || last = '\\' then
        '\x60' :: last :: chars "': invalid format character"
      else '\x60' :: '%' :: written ++ chars "': missing format character"
  let print (words : List Chars) : Ran :=
    match words with
    | [] => { complaints := usage, code := 2, unread := situation.input }
    | format :: arguments =>
      printed 1 { quotes := true, unicode := true, quotesWords := true }
        { quoted := false, notNumber := "invalid number", notWhole := "invalid number"
          greatLead := "warning: ", format := Floating.extended, quote := shellQuoted
          escapes := { zeroFirst := true, stops := true, unicode := true, quotes := true } }
        malformed situation format arguments
  match arguments with
  | ['-', '-'] :: words => print words
  | ('-' :: letter :: more) :: words =>
    if letter = 'v' then print (('-' :: letter :: more) :: words)
    else
      let complaint := situation.complaint ('-' :: letter :: chars ": invalid option")
      { complaints := complaint ++ usage, code := 2, unread := situation.input }
  | words => print words

/-- `printf` as a program of its own. -/
def printf : Program := fun situation arguments =>
  match withoutDashes arguments with
  | [] => situation.refuseUsage 1 (chars "missing operand")
  | format :: arguments =>
    let escapes : Escapes := { extended := true, stops := true, quotesWords := true }
    let parts := formatParts escapes (format.length + 1) format
    let shows := parts.any fun
      | .directive .. => true
      | .malformed _ => true
      | _ => false
    let malformed (written : Chars) : Chars :=
      '%' :: written ++ chars ": invalid conversion specification"
    let ran := printed 1 escapes
      { quote := shownName, quoted := true, notNumber := "expected a numeric value"
        notWhole := "value not completely converted", format := Floating.extended }
      malformed situation format arguments
    match shows, arguments with
    | false, excess :: _ => { ran with
        complaints := situation.complaint
          (chars "warning: ignoring excess arguments, starting with '" ++ excess ++ ['\x27']) }
    | _, _ => ran

end LiveCompile.Shell
