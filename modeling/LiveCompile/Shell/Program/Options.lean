import LiveCompile.Shell.Program.Basic

/-! Reading the arguments of programs: options of one letter after a hyphen, options that are
words after two hyphens, and operands. -/

namespace LiveCompile.Shell

/-- Options with their values, in order, and what is no option. -/
structure Options where
  given : List (Char × Chars) := []
  operands : List Chars := []

namespace Options

def has (options : Options) (letter : Char) : Bool := options.given.any (·.1 = letter)

/-- The last value of an option. -/
def value? (options : Options) (letter : Char) : Option Chars :=
  (options.given.reverse.find? (·.1 = letter)).map (·.2)

/-- All values of an option. -/
def values (options : Options) (letter : Char) : List Chars :=
  options.given.filterMap fun (other, value) => if other = letter then some value else none

/-- The last given one of some options. -/
def last? (options : Options) (letters : String) : Option Char :=
  (options.given.reverse.find? fun (letter, _) => letters.toList.contains letter).map (·.1)

/-- Whether an option takes a value. -/
inductive Taking where
  | nothing
  | value
  /-- it takes one only if it is written without a blank -/
  | perhaps
  deriving DecidableEq, Repr

/-- The options that a program knows: letters, each with a colon if it takes a value and with
two if it may do without, and the words that may be written for a letter. -/
structure Known where
  letters : String
  words : List (String × Char) := []
  /-- nothing after the first operand is an option -/
  stops : Bool := false

/-- What a letter takes, if it is one of those that are known. -/
def taking? (letter : Char) : Chars → Option Taking
  | [] => none
  | known :: rest =>
    if known = letter && letter ≠ ':' then
      some (match rest with
        | ':' :: ':' :: _ => .perhaps
        | ':' :: _ => .value
        | _ => .nothing)
    else taking? letter rest

def Known.taking? (known : Known) (letter : Char) : Option Taking :=
  Options.taking? letter known.letters.toList

/-- Options in their order, what is wrong after them if something is, and whether the next
argument is used as a value. -/
structure Taken where
  given : List (Char × Chars) := []
  fault : Option Chars := none
  usesNext : Bool := false

/-- The options in the letters after a hyphen. -/
def letters (known : Known) (next : Option Chars) : Chars → Taken
  | [] => {}
  | letter :: rest =>
    match known.taking? letter, rest, next with
    | some .nothing, rest, _ =>
      let taken := letters known next rest
      { taken with given := (letter, []) :: taken.given }
    | some .value, [], some value => { given := [(letter, value)], usesNext := true }
    | some .value, [], none =>
      { fault := some (chars "option requires an argument -- '" ++ [letter, '\x27']) }
    | some _, value, _ => { given := [(letter, value)] }
    | none, _, _ => { fault := some (chars "invalid option -- '" ++ [letter, '\x27']) }

/-- The known words that a text begins, or is. -/
def completions (known : Known) (text : Chars) : List (String × Char) :=
  match known.words.find? fun (word, _) => word.toList = text with
  | some exact => [exact]
  | none => known.words.filter fun (word, _) => text.isPrefixOf word.toList

/-- The option that is written out after two hyphens, perhaps not to its end. -/
def worded (known : Known) (next : Option Chars) (text : Chars) : Taken :=
  let value := text.dropWhile (· ≠ '=')
  let name := text.takeWhile (· ≠ '=')
  let quoted (word : Chars) : Chars := chars "'--" ++ word ++ ['\x27']
  let fault (text : Chars) : Taken := { fault := some text }
  match completions known name with
  | [] => fault (chars "unrecognized option " ++ quoted text)
  | (word, letter) :: others =>
    if others.any fun (_, other) => other ≠ letter then
      fault (chars "option " ++ quoted text ++ chars " is ambiguous; possibilities:"
        ++ ((word, letter) :: others).flatMap fun (word, _) => ' ' :: quoted (chars word))
    else
      match known.taking? letter, value, next with
      | some .value, [], some next => { given := [(letter, next)], usesNext := true }
      | some .value, [], none =>
        fault (chars "option " ++ quoted (chars word) ++ chars " requires an argument")
      | some .nothing, _ :: _, _ =>
        fault (chars "option " ++ quoted (chars word) ++ chars " doesn't allow an argument")
      | _, value, _ => { given := [(letter, value.drop 1)] }

/-- Reads arguments; options may stand between operands. `used` tells that the next argument
is already used as a value. What is wrong comes with the options before it. -/
def read (known : Known) : Bool → List Chars → Options × Option Chars
  | _, [] => ({}, none)
  | true, _ :: rest => read known false rest
  | false, argument :: rest =>
    let after (taken : Taken) : Options × Option Chars :=
      if taken.fault.isSome then ({ given := taken.given }, taken.fault)
      else
        let (options, fault) := read known taken.usesNext rest
        ({ options with given := taken.given ++ options.given }, fault)
    match argument with
    | ['-', '-'] => ({ operands := rest }, none)
    | '-' :: '-' :: text => after (worded known rest.head? text)
    | '-' :: letter :: more => after (letters known rest.head? (letter :: more))
    | operand =>
      if known.stops then ({ operands := operand :: rest }, none)
      else
        let (options, fault) := read known false rest
        ({ options with operands := operand :: options.operands }, fault)

def ofArguments (known : Known) (arguments : List Chars) : Except Chars Options :=
  match read known false arguments with
  | (options, none) => .ok options
  | (_, some text) => .error text

end Options

/-- A program that knows some options; it ends with a code if it gets others. -/
def withOptions (known : Options.Known) (code : Nat) (run : Situation → Options → Ran) : Program :=
  fun situation arguments =>
    match Options.ofArguments known arguments with
    | .ok options => run situation options
    | .error text => situation.refuseUsage code text

/-- Why a program does not run: the text may come with a hint at the usage. -/
structure Refusal where
  text : Chars
  hints : Bool := true

def Refusal.ran (refusal : Refusal) (situation : Situation) (code : Nat) : Ran :=
  if refusal.hints then situation.refuseUsage code refusal.text
  else situation.refuse code refusal.text

/-- A program that takes its options one after the other: each changes what is asked for, or is
refused. -/
def withRequest {Request : Type} (known : Options.Known) (code : Nat) (start : Request)
    (step : Request → Char × Chars → Except Refusal Request)
    (run : Situation → Request → List Chars → Except Refusal Ran) : Program :=
  fun situation arguments =>
    let (options, fault) := Options.read known false arguments
    let ran := do
      let request ← options.given.foldlM step start
      match fault with
      | some text => .error ⟨text, true⟩
      | none => run situation request options.operands
    match ran with
    | .ok ran => ran
    | .error refusal => refusal.ran situation code

end LiveCompile.Shell
