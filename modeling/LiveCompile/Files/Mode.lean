/-! Modes of files: who may read, write and run them, as bits, and how a text changes them. -/

namespace LiveCompile

abbrev Mode := Nat

namespace Mode

/-- All bits of a mode. -/
def all : Mode := 0o7777

def bits (mode : Mode) (mask : Nat) : Nat := mode &&& mask

def without (mode : Mode) (mask : Nat) : Mode := mode &&& (all ^^^ (mask &&& all))

/-- Whether anyone may run the file. -/
def mayRun (mode : Mode) : Bool := mode.bits 0o111 ≠ 0

/-- What a change takes as permissions. -/
inductive Source where
  | given (bits : Nat)
  /-- those that the owner, the group or the others have -/
  | copied (bits : Nat)
  deriving DecidableEq, Repr

/-- One step of a change: for whom, what is done, and with which permissions. -/
structure Step where
  /-- the bits of those who are named; nothing if nobody is -/
  affected : Nat
  sign : Char
  source : Source
  /-- the permission to run if anyone has it -/
  ifAny : Bool := false
  deriving Repr

/-- A change: the mode itself in digits, or steps. -/
inductive Change where
  | exact (mode : Mode) (digits : Nat)
  | steps (steps : List Step)
  deriving Repr

def whoBits : Char → Option Nat
  | 'u' => some 0o4700
  | 'g' => some 0o2070
  | 'o' => some 0o1007
  | 'a' => some all
  | _ => none

/-- The permissions that letters name, and whether they hold the one to run if anyone may. -/
def permissions (letters : List Char) : Nat × Bool :=
  letters.foldl (fun (bits, ifAny) letter =>
    match letter with
    | 'r' => (bits ||| 0o444, ifAny)
    | 'w' => (bits ||| 0o222, ifAny)
    | 'x' => (bits ||| 0o111, ifAny)
    | 's' => (bits ||| 0o6000, ifAny)
    | 't' => (bits ||| 0o1000, ifAny)
    | _ => (bits, true)) (0, false)

/-- The value of octal digits, if there are no others and the mode is one. -/
def octal? (digits : List Char) : Option Mode :=
  let value := digits.foldl (fun value c => value * 8 + (c.toNat - '0'.toNat)) 0
  if digits.isEmpty || !digits.all (fun c => '0' ≤ c && c ≤ '7') || all < value then none
  else some value

/-- The steps for those who are named, one for each sign. The first argument bounds their
number. -/
def stepsFor (affected : Nat) : Nat → List Char → Option (List Step)
  | 0, _ => none
  | _ + 1, [] => some []
  | count + 1, sign :: rest =>
    if !"+-=".toList.contains sign then none
    else
      let isDigit (c : Char) : Bool := '0' ≤ c && c ≤ '7'
      match rest with
      | c :: more =>
        if isDigit c then do
          let mode ← octal? (rest.takeWhile isDigit)
          let others ← stepsFor affected count (rest.dropWhile isDigit)
          return ⟨if affected = 0 then all else affected, sign, .given mode, false⟩ :: others
        else if "ugo".toList.contains c then do
          let others ← stepsFor affected count more
          return ⟨affected, sign, .copied ((whoBits c).getD 0 &&& 0o777), false⟩ :: others
        else do
          let isLetter (c : Char) : Bool := "rwxXst".toList.contains c
          let (bits, ifAny) := permissions (rest.takeWhile isLetter)
          let others ← stepsFor affected count (rest.dropWhile isLetter)
          return ⟨affected, sign, .given bits, ifAny⟩ :: others
      | [] => some [⟨affected, sign, .given 0, false⟩]

/-- The steps of one part of a change, such as `ug+rw`. -/
def part? (text : List Char) : Option (List Step) :=
  let who := text.takeWhile fun c => (whoBits c).isSome
  let affected := who.foldl (fun bits c => bits ||| (whoBits c).getD 0) 0
  let rest := text.drop who.length
  if rest.isEmpty then none else stepsFor affected (rest.length + 1) rest

/-- The pieces of a text between commas. -/
def parts (text : List Char) : List (List Char) :=
  text.foldr (fun c pieces =>
    match pieces with
    | [] => [[c]]
    | piece :: rest => if c = ',' then [] :: piece :: rest else (c :: piece) :: rest) [[]]

/-- The change that a text asks for. -/
def change? (text : List Char) : Option Change :=
  if text.head?.any Char.isDigit then (octal? text).map fun mode => .exact mode text.length
  else ((parts text).mapM part?).map fun steps => .steps steps.flatten

/-- Permissions that some have, for everyone. -/
def forEveryone (bits : Nat) : Nat :=
  let has (mask : Nat) : Bool := bits &&& mask ≠ 0
  (if has 0o444 then 0o444 else 0) ||| (if has 0o222 then 0o222 else 0)
    ||| (if has 0o111 then 0o111 else 0)

/-- A mode after a step. Where nobody is named, the mask holds permissions back. -/
def applyStep (mask : Mode) (isDirectory : Bool) (mode : Mode) (step : Step) : Mode :=
  let value := match step.source with
    | .given bits => bits
    | .copied bits => forEveryone (mode &&& bits)
  let value := if step.ifAny && (mode.mayRun || isDirectory) then value ||| 0o111 else value
  let reach := if step.affected = 0 then all.without mask else step.affected
  -- the group and user of a directory stay unless they are named
  let kept := if isDirectory && value &&& 0o6000 = 0 then 0o6000 else 0
  let value := value &&& reach
  match step.sign with
  | '+' => mode ||| value
  | '-' => mode.without value
  | _ => (mode &&& ((if step.affected = 0 then 0 else all.without step.affected) ||| kept))
      ||| value

/-- A mode after a change. -/
def apply (mask : Mode) (isDirectory : Bool) (mode : Mode) : Change → Mode
  | .exact new digits => if isDirectory && digits < 5 then new ||| mode.bits 0o6000 else new
  | .steps steps => steps.foldl (applyStep mask isDirectory) mode

/-- A mode in letters, as lists of files show it. -/
def letters (mode : Mode) : List Char :=
  let bit (mask : Nat) (letter : Char) : Char := if mode &&& mask ≠ 0 then letter else '-'
  let special (mask run : Nat) (letter : Char) : Char :=
    if mode &&& mask = 0 then bit run 'x'
    else if mode &&& run = 0 then letter.toUpper
    else letter
  [bit 0o400 'r', bit 0o200 'w', special 0o4000 0o100 's', bit 0o040 'r', bit 0o020 'w',
    special 0o2000 0o010 's', bit 0o004 'r', bit 0o002 'w', special 0o1000 0o001 't']

/-- A mode in octal digits. -/
def octalText (mode : Mode) : List Char :=
  let digits := Nat.toDigits 8 mode
  List.replicate (4 - digits.length) '0' ++ digits

/-- A mask as the permissions that it leaves, by class. -/
def maskLetters (mask : Mode) : List Char :=
  let left := all.without mask
  let of (letter : Char) (shift : Nat) : List Char :=
    let bit (n : Nat) (c : Char) : List Char := if (left >>> shift) &&& n ≠ 0 then [c] else []
    letter :: '=' :: (bit 4 'r' ++ bit 2 'w' ++ bit 1 'x')
  [','].intercalate [of 'u' 6, of 'g' 3, of 'o' 0]

end Mode

end LiveCompile
