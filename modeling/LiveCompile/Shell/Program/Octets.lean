import LiveCompile.Shell.Program.Output
import LiveCompile.Shell.Program.Runs

/-! Programs that look at octets: `base64`, `fold`, `od` and `cmp`. -/

namespace LiveCompile.Shell

/-- A list in pieces of a size, the last one maybe shorter. The first argument bounds their
number. -/
def piecesOf {α : Type} (size : Nat) : Nat → List α → List (List α)
  | 0, _ => []
  | _ + 1, [] => []
  | count + 1, items => items.take size :: piecesOf size count (items.drop size)

/-- The pieces of a size greater than zero. -/
def inPieces {α : Type} (size : Nat) (items : List α) : List (List α) :=
  piecesOf (max 1 size) items.length items

namespace Base64

def alphabet : Chars := "ABCDEFGHIJKLMNOPQRSTUVWXYZabcdefghijklmnopqrstuvwxyz0123456789+/".toList

def digit (n : Nat) : Char := alphabet.getD n '='

/-- Four digits for at most three octets. -/
def group (octets : Chars) : Chars :=
  let code (index : Nat) : Nat := (octets.getD index '\x00').toNat
  let bits := code 0 * 65536 + code 1 * 256 + code 2
  let digits := [bits / 262144 % 64, bits / 4096 % 64, bits / 64 % 64, bits % 64].map digit
  digits.take (octets.length + 1) ++ List.replicate (3 - octets.length) '='

def encode (text : Chars) : Chars := (inPieces 3 text).flatMap group

/-- The octets of at most four digits. -/
def ungroup (digits : Chars) : Option Chars := do
  let values ← (digits.filter (· ≠ '=')).mapM fun c => alphabet.idxOf? c
  let bits := (values ++ List.replicate (4 - values.length) 0).foldl (· * 64 + ·) 0
  let octets := [bits / 65536 % 256, bits / 256 % 256, bits % 256].map Char.ofNat
  return octets.take (values.length - 1)

/-- The octets of groups of digits up to the first that is none, and whether all are. -/
def decodeGroups : List Chars → Chars × Bool
  | [] => ([], true)
  | digits :: rest =>
    match ungroup digits with
    | none => ([], false)
    | some octets =>
      let (others, isWhole) := decodeGroups rest
      (octets ++ others, isWhole && digits.length = 4)

def decode (text : Chars) : Chars × Bool := decodeGroups (inPieces 4 (text.filter (· ≠ '\n')))

end Base64

/-- How many digits `base64` writes on a line. -/
def usualWidth : Nat := 76

/-- Writes octets in digits of six bits, or reads them. -/
def base64 : Program :=
  withOptions { letters := "diw:", words := [("decode", 'd'), ("wrap", 'w')] } 1 fun situation options =>
    let contents := situation.contents options.operands
    let texts := contents.filterMap (·.2.toOption)
    let missing := situation.complaintsAbout contents shownName
    let unread := situation.unreadAfter options.operands
    if !missing.isEmpty then { complaints := missing, code := 1, unread }
    else if options.has 'd' then
      let (output, isWhole) := Base64.decode texts.flatten
      let complaints := if isWhole then [] else situation.complaint (chars "invalid input")
      { output, complaints, code := if isWhole then 0 else 1, unread }
    else
      let width := ((options.value? 'w').bind natural?).getD usualWidth
      let digits := Base64.encode texts.flatten
      { output := if width = 0 then digits else unlines (inPieces width digits), unread }

/-- Breaks lines that are longer than a width. -/
def fold : Program :=
  withOptions { letters := "bsw:", words := [("width", 'w')] } 1 fun situation options =>
    let width := ((options.value? 'w').bind natural?).getD 80
    situation.filterWhole options.operands fun text =>
      (linesOf text).flatMap fun line =>
        let ending := if line.getLast? = some '\n' then ['\n'] else []
        ['\n'].intercalate (inPieces width (bareLine line)) ++ ending

namespace Dump

/-- How the octets of a row are shown. -/
inductive Style where
  | characters
  | octal
  | hexadecimal
  | decimal
  /-- numbers of two octets in octal digits -/
  | words
  deriving DecidableEq, Repr

def numeral (base width n : Nat) : Chars :=
  let digits := Nat.toDigits base n
  List.replicate (width - digits.length) '0' ++ digits

def character (c : Char) : Chars :=
  match c with
  | '\x00' => ['\\', '0']
  | '\n' => ['\\', 'n']
  | '\t' => ['\\', 't']
  | '\r' => ['\\', 'r']
  | '\x07' => ['\\', 'a']
  | '\x08' => ['\\', 'b']
  | '\x0b' => ['\\', 'v']
  | '\x0c' => ['\\', 'f']
  | c => if ' ' ≤ c && c ≤ '~' then [c] else numeral 8 3 c.toNat

def shown (style : Style) (octets : Chars) : Chars :=
  match style with
  | .characters => octets.flatMap fun c => rightAligned 4 (character c)
  | .octal => octets.flatMap fun c => ' ' :: numeral 8 3 c.toNat
  | .hexadecimal => octets.flatMap fun c => ' ' :: numeral 16 2 c.toNat
  | .decimal => octets.flatMap fun c => rightAligned 4 (Shell.decimal c.toNat)
  | .words => (inPieces 2 octets).flatMap fun pair =>
      ' ' :: numeral 8 6 ((pair.headD '\x00').toNat + 256 * (pair.getD 1 '\x00').toNat)

/-- The rows from a place on, with an asterisk for rows that are the same as the one before. -/
def rows (lead : Nat → Chars) (style : Style) (place : Nat) (before : Option Chars)
    (starred : Bool) : List Chars → Chars
  | [] => []
  | row :: rest =>
    let next := place + row.length
    if before = some row && !rest.isEmpty then
      (if starred then [] else ['*', '\n']) ++ rows lead style next before true rest
    else
      lead place ++ shown style row ++ ['\n'] ++ rows lead style next (some row) false rest

def styleOf (options : Options) : Style :=
  match (options.value? 't').bind List.head? with
  | some 'c' => .characters
  | some 'x' => .hexadecimal
  | some 'u' => .decimal
  | some 'o' => .octal
  | _ => if options.has 'c' then .characters else if options.has 'b' then .octal else .words

/-- How a row begins: with its place, if it is asked for. -/
def leadOf (options : Options) (place : Nat) : Chars :=
  match (options.value? 'A').bind List.head? with
  | some 'n' => []
  | some 'x' => numeral 16 6 place
  | some 'd' => numeral 10 7 place
  | _ => numeral 8 7 place

end Dump

/-- Shows octets in rows of sixteen. -/
def od : Program :=
  withOptions { letters := "cbvA:t:N:" } 1 fun situation options =>
    let contents := situation.contents options.operands
    let texts := contents.filterMap (·.2.toOption)
    let complaints := situation.complaintsAbout contents shownName
    let text := match (options.value? 'N').bind natural? with
      | some count => texts.flatten.take count
      | none => texts.flatten
    let last := Dump.leadOf options text.length
    let ending := if last.isEmpty then [] else last ++ ['\n']
    let style := Dump.styleOf options
    { output := if texts.isEmpty then []
        else Dump.rows (Dump.leadOf options) style 0 none false (inPieces 16 text) ++ ending
      complaints, code := if complaints.isEmpty then 0 else 1
      unread := situation.unreadAfter options.operands }

/-- Tells where two files differ first. -/
def cmp : Program :=
  withOptions { letters := "ls", words := [("silent", 's'), ("quiet", 's')] } 2 fun situation options =>
    let operands := options.operands ++ if options.operands.length = 1 then [['-']] else []
    let contents := situation.contents operands
    let unread := situation.unreadAfter operands
    let differs (complaints output : Chars) : Ran := { output, complaints, code := 1, unread }
    match contents with
    | [(first, .ok a), (second, .ok b)] =>
      let same := ((a.zip b).takeWhile fun (c, d) => c = d).length
      let shared := a.take same
      let lines := shared.count '\n'
      let shorter := if a.length < b.length then first else second
      if a = b then { unread }
      else if options.has 's' then differs [] []
      else if same < min a.length b.length then
        differs [] (first ++ [' '] ++ second ++ chars " differ: char " ++ decimal (same + 1)
          ++ chars ", line " ++ decimal (lines + 1) ++ ['\n'])
      else if same = 0 then
        differs (situation.complaint (chars "EOF on " ++ shorter ++ chars " which is empty")) []
      else
        let line := if shared.getLast? = some '\n' then chars ", line " ++ decimal lines
          else chars ", in line " ++ decimal (lines + 1)
        let text := chars "EOF on " ++ shorter ++ chars " after byte " ++ decimal same ++ line
        differs (situation.complaint text) []
    | _ =>
      if options.operands.isEmpty then
        { complaints := situation.complaint
              (chars "missing operand after " ++ quotedName situation.label)
            ++ situation.complaint (chars "Try '" ++ situation.label
              ++ chars " --help' for more information.")
          code := 2, unread := situation.input }
      else { complaints := situation.complaintsAbout contents id, code := 2, unread }

end LiveCompile.Shell
