import LiveCompile.Shell.Awk.Pattern

/-! Records in a text and the pieces of a record. -/

namespace LiveCompile.Shell.Awk

/-- What separates the pieces of a text. -/
inductive Separator where
  | blanks
  | single (c : Char)
  /-- nothing: each character is a piece -/
  | each
  | regex (regex : Regex)

/-- The first match in a text that is not empty, given as what is before it and after it. -/
def cutAtMatch? (regex : Regex) (content : Chars) : Option (Chars × Chars) :=
  let isThere (found : Regex.Match) : Bool := found.start.position ≠ found.ended.position
  (regex.find? {} { after := content } isThere).map fun found =>
    (content.take found.start.position, found.ended.after)

/-- The pieces between matches. The first argument bounds their number. -/
def piecesBetweenMatches (regex : Regex) : Nat → Chars → List Chars
  | 0, content => [content]
  | count + 1, content =>
    match cutAtMatch? regex content with
    | some (piece, rest) => piece :: piecesBetweenMatches regex count rest
    | none => [content]

/-- The pieces of a text between blanks; `piece` is what is read of a piece, in reverse. -/
def piecesBetweenBlanks (piece : Chars) : Chars → List Chars
  | [] => if piece.isEmpty then [] else [piece.reverse]
  | c :: rest =>
    if c = ' ' || c = '\t' || c = '\n' then
      if piece.isEmpty then piecesBetweenBlanks [] rest
      else piece.reverse :: piecesBetweenBlanks [] rest
    else piecesBetweenBlanks (c :: piece) rest

namespace Separator

/-- The separator that a text writes; a single character stands for itself. -/
def ofText : Chars → Except Pattern.Fault Separator
  | [] => .ok each
  | [' '] => .ok blanks
  | [c] => .ok (single c)
  | content => (Pattern.ofText content).map regex

def pieces (separator : Separator) (content : Chars) : List Chars :=
  if content.isEmpty then []
  else
    match separator with
    | blanks => piecesBetweenBlanks [] content
    | single c => piecesBetween c content
    | each => content.map fun c => [c]
    | regex expression => piecesBetweenMatches expression content.length content

end Separator

/-- What ends a record. -/
inductive Ender where
  | single (c : Char)
  /-- empty lines -/
  | paragraph
  | regex (regex : Regex)

namespace Ender

def ofText : Chars → Except Pattern.Fault Ender
  | [] => .ok paragraph
  | [c] => .ok (single c)
  | content => (Pattern.ofText content).map regex

/-- The lines before the first empty line, and what follows all empty lines there. -/
def paragraphOf : Chars → Chars × Chars
  | [] => ([], [])
  | '\n' :: '\n' :: rest => ([], rest.dropWhile (· = '\n'))
  | c :: rest =>
    let (first, rest) := paragraphOf rest
    (c :: first, rest)

/-- The first record in a text and what follows it, if the text holds all of it. -/
def record? (ender : Ender) (content : Chars) : Option (Chars × Chars) :=
  match ender with
  | single c =>
    match content.dropWhile (· ≠ c) with
    | [] => none
    | _ :: rest => some (content.takeWhile (· ≠ c), rest)
  | paragraph =>
    let content := content.dropWhile (· = '\n')
    if content.isEmpty then none else some (paragraphOf content)
  | regex expression => cutAtMatch? expression content

/-- The last record, which nothing ends. -/
def lastRecord? (ender : Ender) (content : Chars) : Option Chars :=
  match ender with
  | paragraph =>
    let bare := bareLine (content.dropWhile (· = '\n'))
    if bare.isEmpty then none else some bare
  | _ => if content.isEmpty then none else some content

end Ender

/-- The text that takes the place of a match: an ampersand stands for the match unless a
backslash is before it. -/
def replacementText (found : Chars) : Chars → Chars
  | [] => []
  | '\\' :: '\\' :: '&' :: rest => '\\' :: (found ++ replacementText found rest)
  | '\\' :: '&' :: rest => '&' :: replacementText found rest
  | '&' :: rest => found ++ replacementText found rest
  | c :: rest => c :: replacementText found rest

/-- A text with other texts for its matches, and how many there are. A match that is empty is
passed over right after another one. The first argument bounds the number of steps. -/
def replaceMatches (isGlobal : Bool) (regex : Regex) (replacement : Chars) :
    Nat → Bool → Regex.Place → Chars × Nat
  | 0, _, place => (place.after, 0)
  | steps + 1, afterMatch, place =>
    match regex.find? {} place with
    | none => (place.after, 0)
    | some found =>
      let before := place.upTo found.start
      let isEmpty := found.start.position = found.ended.position
      let copied (place : Regex.Place) : Chars × Nat :=
        match place.step? with
        | none => ([], 0)
        | some (c, next) =>
          if isGlobal then
            let (rest, count) := replaceMatches isGlobal regex replacement steps false next
            (c :: rest, count)
          else (place.after, 0)
      if isEmpty && afterMatch && before.isEmpty then copied found.ended
      else
        let shown := before ++ replacementText found.text replacement
        if isEmpty then
          let (rest, count) := copied found.ended
          (shown ++ rest, count + 1)
        else if isGlobal then
          let (rest, count) := replaceMatches isGlobal regex replacement steps true found.ended
          (shown ++ rest, count + 1)
        else (shown ++ found.ended.after, 1)

end LiveCompile.Shell.Awk
