import LiveCompile.Shell.Program.Output
import LiveCompile.Shell.Awk.Number
import LiveCompile.Shell.Awk.Syntax

/-! Values: numbers, texts, and texts from outside that are numbers if they look like one. -/

namespace LiveCompile.Shell.Awk

inductive Value where
  | unset
  | number (value : Floating)
  | text (content : Chars)
  /-- a text that was read -/
  | given (content : Chars)
  deriving Inhabited

/-- The number that a text begins with. -/
def leadingNumber (text : Chars) : Floating :=
  match Floating.read? text with
  | some (value, _) => (value.rounded Floating.double).1
  | none => .zero

def isBlankText (c : Char) : Bool := c = ' ' || ('\t' ≤ c && c ≤ '\r')

/-- The number that is all of a text but blanks around it. -/
def wholeNumber? (text : Chars) : Option Floating :=
  let bare := text.dropWhile isBlankText
  let (negative, digits) := match bare with
    | '-' :: digits => (true, digits)
    | '+' :: digits => (false, digits)
    | digits => (false, digits)
  (Floating.digitsAround? 10 digits).bind fun (significand, places, rest) =>
    let (exponent, rest) := Floating.exponentAfter 'e' rest
    let value := Floating.scaled negative significand 10 (exponent - places)
    match rest.all isBlankText, value.rounded Floating.double with
    | true, (value, false) => some value
    | _, _ => none

/-- Shows a number as the only directive of a format says. -/
def numberInFormat (format : Chars) (value : Floating) : Chars :=
  (formatParts { octal := false } (format.length + 1) format).flatMap fun
    | .text content => content
    | .directive directive written _ _ =>
      match Floating.style? directive.conversion with
      | some style => Printing.floatingText Floating.double directive style value
      | none => '%' :: written
    | .malformed written => '%' :: written
    | .stop => []

/-- The text of a number: its digits if it is an integer that is not too great. -/
def numberText (format : Chars) (value : Floating) : Chars :=
  match value.integer? with
  | some n =>
    if -9223372036854775808 ≤ n && n ≤ 18446744073709551616 then
      if n < 0 then '-' :: decimal n.natAbs else decimal (min 18446744073709551615 n.natAbs)
    else numberInFormat format value
  | none => numberInFormat format value

namespace Value

def text? : Value → Chars
  | text content => content
  | given content => content
  | _ => []

/-- A value as a text, given the format of numbers. -/
def toText (format : Chars) : Value → Chars
  | unset => []
  | number value => numberText format value
  | text content => content
  | given content => content

def toNumber : Value → Floating
  | unset => .zero
  | number value => value
  | text content => leadingNumber content
  | given content => leadingNumber content

def ofBool (holds : Bool) : Value := number (.ofBool holds)

def ofNat (n : Nat) : Value := number (.ofInt n)

/-- Whether a value counts as true. -/
def holds : Value → Bool
  | unset => false
  | number value => !value.isZero
  | text content => !content.isEmpty
  | given content =>
    match wholeNumber? content with
    | some value => !value.isZero
    | none => !content.isEmpty

/-- The number that a value is, but not one that a text only begins with. -/
def number? : Value → Option Floating
  | unset => some .zero
  | number value => some value
  | text _ => none
  | given content => wholeNumber? content

/-- How two values compare: as numbers if both are, else as texts. -/
def compare (format : Chars) (a b : Value) : Ordering :=
  match a.number?, b.number? with
  | some a, some b => a.compare b
  | _, _ => compareOctets (octetsOf (a.toText format)) (octetsOf (b.toText format))

end Value

def Comparison.holds (comparison : Comparison) (ordering : Ordering) : Bool :=
  match comparison with
  | .less => ordering = .lt
  | .lessOrEqual => ordering ≠ .gt
  | .equal => ordering = .eq
  | .unequal => ordering ≠ .eq
  | .greater => ordering = .gt
  | .greaterOrEqual => ordering ≠ .lt

def Arithmetic.apply : Arithmetic → Floating → Floating → Floating
  | .plus, a, b => a.sum b
  | .minus, a, b => a.sum b.negated
  | .times, a, b => a.product b
  | .over, a, b => a.quotient b
  | .modulo, a, b => a.remainder b
  | .power, a, b => Floating.mapped₂ Float.pow a b

/-- What is wrong with a format. -/
inductive FormatFault where
  | tooFew
  | improper (number : Nat)

/-- A directive after its percent sign with the number of stars in it, and what follows it;
nothing if it is improper, and the text may end before it does. -/
def directive? (content : Chars) : Option (Option Directive × Bool × Bool × Chars) :=
  let flags := content.takeWhile "-+ #0".toList.contains
  let rest := content.dropWhile "-+ #0".toList.contains
  let number (rest : Chars) : Option Nat × Bool × Chars :=
    match rest with
    | '*' :: rest => (none, true, rest)
    | rest => (natural? (rest.takeWhile Char.isDigit), false, rest.dropWhile Char.isDigit)
  let (width, widthGiven, rest) := number rest
  let (precision, precisionGiven, rest) := match rest with
    | '.' :: rest =>
      let (precision, given, rest) := number rest
      (some (precision.getD 0), given, rest)
    | rest => (none, false, rest)
  let rest := match rest with
    | 'l' :: 'l' :: rest => rest
    | 'l' :: rest => rest
    | 'h' :: rest => rest
    | rest => rest
  match rest with
  | [] => some (none, widthGiven, precisionGiven, [])
  | conversion :: rest =>
    if "diouxXcsfFeEgGaA".toList.contains conversion then
      some (some ⟨flags, width.map Int.ofNat, precision, conversion⟩, widthGiven, precisionGiven,
        rest)
    else none

/-- Shows one value as a directive says. -/
def presented (numberFormat : Chars) (directive : Directive) (value : Value) : Chars :=
  let natural : Nat := value.toNumber.toNat64
  match directive.conversion with
  | 's' =>
    let shown := value.toText numberFormat
    padded directive (shown.take (directive.precision.getD shown.length))
  | 'c' =>
    let code (value : Floating) : Char := Char.ofNat (value.toInt64 % 256).toNat
    let character := match value with
      | .number value => code value
      | .unset => '\x00'
      | .given content =>
        match wholeNumber? content with
        | some value => code value
        | none => content.headD '\x00'
      | .text content => content.headD '\x00'
    padded directive [character]
  | 'd' =>
    let value := value.toNumber
    if 9223372036854775808 ≤ natural && !value.isNegative && value.toInt64 = 9223372036854775807
    then integerText { directive with conversion := 'u' } (natural : Int)
    else integerText directive value.toInt64
  | 'i' => integerText directive value.toNumber.toInt64
  | conversion =>
    match Floating.style? conversion with
    | some style => Printing.floatingText Floating.double directive style value.toNumber
    | none => integerText directive (natural : Int)

/-- Values in a format, up to what is wrong. The first argument bounds the number of parts,
`count` is the number of directives before. -/
def formatted (numberFormat : Chars) :
    Nat → Nat → Chars → List Value → Chars × Option FormatFault
  | 0, _, _, _ => ([], none)
  | _ + 1, _, [], _ => ([], none)
  | steps + 1, count, '%' :: '%' :: rest, values =>
    let (shown, fault) := formatted numberFormat steps count rest values
    ('%' :: shown, fault)
  | steps + 1, count, '%' :: rest, values =>
    match directive? rest with
    | none => ([], some (if values.isEmpty then .tooFew else .improper (count + 1)))
    | some (none, _, _, _) => ([], some (if values.isEmpty then .tooFew else .improper (count + 1)))
    | some (some directive, widthGiven, precisionGiven, rest) =>
      let needed := 1 + (if widthGiven then 1 else 0) + (if precisionGiven then 1 else 0)
      if values.length < needed then ([], some .tooFew)
      else
        let (width, values) := if widthGiven then
            (some ((values.headD .unset).toNumber.toInt64), values.drop 1)
          else (directive.width, values)
        let (precision, values) := if precisionGiven then
            (some ((values.headD .unset).toNumber.toInt64.toNat), values.drop 1)
          else (directive.precision, values)
        let first :=
          presented numberFormat { directive with width, precision } (values.headD .unset)
        let (shown, fault) := formatted numberFormat steps (count + 1) rest (values.drop 1)
        (first ++ shown, fault)
  | steps + 1, count, c :: rest, values =>
    let (shown, fault) := formatted numberFormat steps count rest values
    (c :: shown, fault)

end LiveCompile.Shell.Awk
