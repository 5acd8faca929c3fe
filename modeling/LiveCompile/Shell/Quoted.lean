import LiveCompile.Shell.Word

/-! Names in complaints, written so that a shell would read them as one word. -/

namespace LiveCompile.Shell

def isPrintable (c : Char) : Bool := ' ' ≤ c && c ≤ '~'

/-- The octal digits of a code. -/
def octalDigits (n : Nat) : Chars :=
  [n / 64 % 8, n / 8 % 8, n % 8].map Nat.digitChar

/-- An escape for a character that cannot be printed. -/
def escaped (c : Char) : Chars :=
  match c with
  | '\n' => ['\\', 'n']
  | '\t' => ['\\', 't']
  | '\r' => ['\\', 'r']
  | '\x07' => ['\\', 'a']
  | '\x08' => ['\\', 'b']
  | '\x0b' => ['\\', 'v']
  | '\x0c' => ['\\', 'f']
  | c => '\\' :: octalDigits c.toNat

/-- The characters between apostrophes, up to the closing one. What cannot be printed is in
escapes of its own; `inEscapes` tells that these are open. -/
def quotedBody (inEscapes : Bool) : Chars → Chars
  | [] => [apostrophe]
  | c :: rest =>
    if isPrintable c then
      (if inEscapes then [apostrophe, apostrophe] else [])
        ++ (if c = apostrophe then [apostrophe, '\\', apostrophe, apostrophe] else [c])
        ++ quotedBody false rest
    else
      (if inEscapes then [] else [apostrophe, '$', apostrophe]) ++ escaped c ++ quotedBody true rest

/-- Whether a character means something to a shell; some do so only at the start of a name,
or as the whole name. -/
def isSpecialIn (name : Chars) (isFirst : Bool) (c : Char) : Bool :=
  !isPrintable c || c = apostrophe || c = backquote || " !\"$&()*;<=>?[\\^|:".toList.contains c
    || ((c = '#' || c = '~') && isFirst) || ((c = '{' || c = '}') && name.length = 1)

/-- A name with an apostrophe that may stand between double quotes. -/
def fitsDoubleQuotes (name : Chars) : Bool :=
  name.contains apostrophe && name.all fun c =>
    isPrintable c && c ≠ backquote && !"!\"$&()*;<=>?[\\^|:".toList.contains c

/-- A name between quotes. -/
def quotedName (name : Chars) : Chars :=
  if fitsDoubleQuotes name then '"' :: name ++ ['"'] else apostrophe :: quotedBody false name

/-- A text between quotes, with escapes as in a program. -/
def quotedText (text : Chars) : Chars :=
  let shown (c : Char) : Chars :=
    if c = apostrophe || c = '\\' then ['\\', c] else if isPrintable c then [c] else escaped c
  apostrophe :: text.flatMap shown ++ [apostrophe]

/-- A name, between quotes if a shell would not read it as it is. -/
def shownName (name : Chars) : Chars :=
  let isSpecial := match name with
    | [] => true
    | c :: rest => isSpecialIn name true c || rest.any (isSpecialIn name false)
  if isSpecial then quotedName name else name

end LiveCompile.Shell
