import LiveCompile.Shell.Program.Basic

/-! Numbers of things in arguments, perhaps with a letter for a multiple, and words of which an
argument names one. -/

namespace LiveCompile.Shell

namespace Quantity

/-- The greatest number that counts. -/
def greatest : Nat := 18446744073709551615

/-- The power of a thousand, or of 1024, that a letter stands for. -/
def power? (letter : Char) : Option Nat :=
  match letter with
  | 'k' | 'K' => some 1
  | 'm' | 'M' => some 2
  | 'g' | 'G' => some 3
  | 't' | 'T' => some 4
  | 'P' => some 5
  | 'E' => some 6
  | 'Z' => some 7
  | 'Y' => some 8
  | 'R' => some 9
  | 'Q' => some 10
  | _ => none

/-- What a suffix multiplies by, if it begins with one of the known letters. A zero among
these allows `B` for powers of a thousand and `iB` for powers of 1024. -/
def multiple? (known : String) (suffix : Chars) : Option Nat :=
  match suffix with
  | [] => some 1
  | letter :: rest =>
    if !known.toList.contains letter then none
    else
      match power? letter, rest with
      | some power, [] => some (Nat.pow 1024 power)
      | some power, more =>
        if !known.toList.contains '0' then none
        else if more = ['i', 'B'] then some (Nat.pow 1024 power)
        else if more = ['B'] || more = ['D'] then some (Nat.pow 1000 power)
        else none
      | none, [] =>
        match letter with
        | 'b' => some 512
        | 'B' => some 1024
        | 'c' => some 1
        | 'w' => some 2
        | _ => none
      | none, _ :: _ => none

end Quantity

/-- The number that an argument gives, and whether it is too great. -/
def quantity? (known : String) (text : Chars) : Option (Nat × Bool) :=
  let text := text.dropWhile fun c => c = ' ' || ('\t' ≤ c && c ≤ '\r')
  let text := if text.head? = some '+' then text.drop 1 else text
  let digits := text.takeWhile Char.isDigit
  let suffix := text.dropWhile Char.isDigit
  match natural? digits, Quantity.multiple? known suffix with
  | some value, some multiple =>
    some (min Quantity.greatest (value * multiple), Quantity.greatest < value * multiple)
  | none, some multiple => if suffix.isEmpty then none else some (multiple, false)
  | _, none => none

/-- The choice that a word names, perhaps not written to its end; or what is wrong. Each choice
has its words, the first of which shows it. -/
def choice (option : String) (choices : List (List String)) (word : Chars) :
    Except Chars String :=
  let named (words : List String) : Bool := words.any fun other => other.toList = word
  let begun (words : List String) : Bool := words.any fun other => word.isPrefixOf other.toList
  let complain (what : String) : Except Chars String :=
    .error (chars (what ++ " argument ") ++ quotedText word ++ chars (" for '" ++ option)
      ++ chars "'\nValid arguments are:" ++ choices.flatMap fun words =>
        chars "\n  - " ++ (chars ", ").intercalate (words.map fun word => quotedText (chars word)))
  match choices.find? named, choices.filter begun with
  | some words, _ => .ok (words.headD "")
  | none, [words] => .ok (words.headD "")
  | none, [] => complain "invalid"
  | none, _ :: _ => complain "ambiguous"

end LiveCompile.Shell
