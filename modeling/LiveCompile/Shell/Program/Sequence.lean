import LiveCompile.Shell.Ordering
import LiveCompile.Shell.Program.Output

/-! Numbers in a row: `seq`. -/

namespace LiveCompile.Shell

namespace Floating

/-- The sum of two numbers, exact. -/
def plus : Floating → Floating → Floating
  | .finite negative n d, .finite other m e =>
    let value : Int := (if negative then -(n : Int) else n) * e + (if other then -(m : Int) else m) * d
    if value = 0 then .finite (negative && other) 0 1 else .finite (value < 0) value.natAbs (d * e)
  | .finite _ _ _, other => other
  | value, _ => value

/-- The product of a number and a natural number, exact. -/
def timesNat (count : Nat) : Floating → Floating
  | .finite negative n d => .finite negative (n * count) d
  | value => value

end Floating

namespace Sequence

/-- An argument: its value, and how it is written: with how many characters, and with how many
digits after the point if that is known. -/
structure Operand where
  value : Floating
  width : Int := 0
  precision : Option Nat := some 0

/-- How an argument with digits is written out without its exponent. -/
def layout (text : Chars) : Int × Option Nat :=
  let after := text.dropWhile (· ≠ '.')
  let hasPoint := !after.isEmpty
  let isExponent (c : Char) : Bool := c = 'e' || c = 'E'
  let places := ((after.drop 1).takeWhile (!isExponent ·)).length
  let beforePoint := (text.takeWhile (· ≠ '.')).getLast?
  let width : Int := text.length + if !hasPoint then 0 else if places = 0 then -1
    else if beforePoint.all (!Char.isDigit ·) then 1 else 0
  let exponentPart := if text.contains 'e' then text.dropWhile (· ≠ 'e')
    else text.dropWhile (· ≠ 'E')
  if exponentPart.isEmpty then (width, some places)
  else
    let exponent := (Floating.exponentAfter 'e' exponentPart).1
    let precision := if exponent < 0 then places + exponent.natAbs
      else places - min places exponent.natAbs
    let width := width - exponentPart.length
    if exponent < 0 then
      let bare := places = 0 && hasPoint
      (width + (if hasPoint && !bare then 0 else 1) + exponent.natAbs, some precision)
    else
      let width := if hasPoint && precision = 0 && places > 0 then width - 1 else width
      (width + (exponent.natAbs - min places exponent.natAbs : Nat), some precision)

def Operand.ofText (text : Chars) : Except Chars Operand :=
  let invalid (what : String) : Except Chars Operand :=
    .error (chars ("invalid " ++ what ++ ": ") ++ quotedText text)
  match Floating.read? text with
  | none => invalid "floating point argument"
  | some (_, _ :: _) => invalid "floating point argument"
  | some (.undefined _, []) => invalid "'not-a-number' argument"
  | some (value, []) =>
    let bare := text.dropWhile fun c => c = '+' || c = ' ' || ('\t' ≤ c && c ≤ '\r')
    let value := (value.rounded Floating.extended).1
    let isWhole := !bare.contains '.' && !bare.contains 'p'
    let isDecimal := bare.all fun c => c ≠ 'x' && c ≠ 'X'
    match value with
    | .finite _ _ _ =>
      if isDecimal then
        let (width, precision) := layout bare
        .ok { value, width, precision }
      else .ok { value, precision := if isWhole then some 0 else none }
    | _ => .ok { value, precision := if isWhole then some 0 else none }

/-- A format with one directive: what stands before it, the directive, and what stands after
it. -/
structure Frame where
  before : Chars := []
  directive : Directive
  style : Floating.Style
  after : Chars := []

/-- A text up to a percent sign that stands alone, with two of them for one, and the rest. -/
def plain : Chars → Chars × Chars
  | [] => ([], [])
  | ['%'] => ([], ['%'])
  | '%' :: '%' :: rest =>
    let (text, rest) := plain rest
    ('%' :: text, rest)
  | '%' :: c :: rest => ([], '%' :: c :: rest)
  | c :: rest =>
    let (text, rest) := plain rest
    (c :: text, rest)

def Frame.ofText (format : Chars) : Except Chars Frame :=
  let (before, rest) := plain format
  let reports (what : Chars) : Except Chars Frame :=
    .error (chars "format " ++ quotedText format ++ what)
  match rest with
  | [] => reports (chars " has no % directive")
  | _ :: rest =>
    let isFlag (c : Char) : Bool := "-+#0 '".toList.contains c
    let flags := rest.takeWhile isFlag
    let rest := rest.dropWhile isFlag
    let width := natural? (rest.takeWhile Char.isDigit)
    let rest := rest.dropWhile Char.isDigit
    let (precision, rest) := match rest with
      | '.' :: rest =>
        (some ((natural? (rest.takeWhile Char.isDigit)).getD 0), rest.dropWhile Char.isDigit)
      | rest => (none, rest)
    match if rest.head? = some 'L' then rest.drop 1 else rest with
    | [] => reports (chars " ends in %")
    | conversion :: rest =>
      match Floating.style? conversion with
      | none => reports (chars " has unknown %" ++ [conversion] ++ chars " directive")
      | some style =>
        let (after, rest) := plain rest
        if !rest.isEmpty then reports (chars " has too many % directives")
        else .ok { before, after, style
                   directive := ⟨flags, width.map Int.ofNat, precision, conversion⟩ }

def Frame.number (frame : Frame) (value : Floating) : Chars :=
  Printing.floatingText Floating.extended frame.directive frame.style value

def Frame.text (frame : Frame) (value : Floating) : Chars :=
  frame.before ++ frame.number value ++ frame.after

/-- The format for numbers that are written like the arguments. -/
def Frame.usual (isWide : Bool) (first step last : Operand) : Frame :=
  match first.precision, step.precision, last.precision with
  | some a, some b, some c =>
    let places := max a b
    let firstWidth := first.width + (places - a : Nat)
      + (if a = 0 && places > 0 then 1 else 0)
    let lastWidth := last.width + ((places : Int) - c)
      + (if c > 0 && places = 0 then -1 else 0) + (if c = 0 && places > 0 then 1 else 0)
    let width := if isWide then some (max firstWidth lastWidth) else none
    { directive := ⟨if isWide then ['0'] else [], width, some places, 'f'⟩, style := .fixed }
  | _, _, _ => { directive := ⟨[], none, none, 'g'⟩, style := .general }

/-- The greatest number of numbers that are written. -/
def most : Nat := 2000000

/-- The texts of the numbers from one on. One number past the last is shown if it is written
like the last one, and not like the number before it. The first argument bounds their
number. -/
def texts (frame : Frame) (first step last : Floating) : Nat → Nat → Floating → List Chars
  | 0, _, _ => []
  | count + 1, index, value =>
    let shown := frame.text value
    let next := ((first.plus (step.timesNat index |>.rounded Floating.extended).1).rounded
      Floating.extended).1
    let isPast := if step.isNegative then Numeral.lessThan next last else Numeral.lessThan last next
    if !isPast then shown :: texts frame first step last count (index + 1) next
    else
      let looksLast := match Floating.read? (frame.number next) with
        | some (other, []) =>
          let other := (other.rounded Floating.extended).1
          !Numeral.lessThan other last && !Numeral.lessThan last other
        | _ => false
      if looksLast && frame.text next ≠ shown then [shown, frame.text next] else [shown]

/-- The arguments up to the first that is no option; a negative number is none. -/
def optionArguments : List Chars → List Chars
  | ('-' :: c :: more) :: rest =>
    if c = '.' || c.isDigit then chars "--" :: ('-' :: c :: more) :: rest
    else if more.isEmpty && (c = 'f' || c = 's') then
      match rest with
      | value :: rest => ['-', c] :: value :: optionArguments rest
      | [] => [['-', c]]
    else if c = '-' && more.isEmpty then ['-', '-'] :: rest
    else ('-' :: c :: more) :: optionArguments rest
  | arguments => arguments

def run (situation : Situation) (options : Options) : Ran :=
  let read : Except Chars (Operand × Operand × Operand) := do
    let one : Operand := { value := .ofInt 1, width := 1 }
    match options.operands with
    | [last] => return (one, one, ← Operand.ofText last)
    | [first, last] => return (← Operand.ofText first, one, ← Operand.ofText last)
    | [first, step, last] =>
      let first ← Operand.ofText first
      let shown := quotedText step
      let step ← Operand.ofText step
      match step.value with
      | .finite _ 0 _ => .error (chars "invalid Zero increment value: " ++ shown)
      | _ => return (first, step, ← Operand.ofText last)
    | [] => .error (chars "missing operand")
    | _ :: _ :: _ :: extra :: _ => .error (chars "extra operand " ++ quotedText extra)
  let isCounted := options.operands ≠ [] && options.operands.length ≤ 3
  match options.value? 'f' |>.mapM Frame.ofText, read with
  | .error text, .error _ =>
    if isCounted then situation.refuse 1 text
    else situation.refuseUsage 1 (match read with | .error text => text | .ok _ => [])
  | .error text, _ => situation.refuse 1 text
  | .ok frame?, read =>
    if isCounted && frame?.isSome && options.has 'w' then
      situation.refuseUsage 1
        (chars "format string may not be specified when printing equal width strings")
    else
      match read with
      | .error text => situation.refuseUsage 1 text
      | .ok (first, step, last) =>
        let frame := frame?.getD (Frame.usual (options.has 'w') first step last)
        let isEmpty := if step.value.isNegative then Numeral.lessThan first.value last.value
          else Numeral.lessThan last.value first.value
        let separator := (options.value? 's').getD ['\n']
        if isEmpty then { unread := situation.input }
        else
          let texts := texts frame first.value step.value last.value most 1 first.value
          writes situation (separator.intercalate texts ++ ['\n'])

end Sequence

/-- The numbers from one to another. -/
def seq : Program := fun situation arguments =>
  withOptions { letters := "f:s:w", stops := true, words := [("format", 'f'), ("separator", 's'),
    ("equal-width", 'w')] } 1 Sequence.run situation
    (Sequence.optionArguments arguments)

end LiveCompile.Shell
