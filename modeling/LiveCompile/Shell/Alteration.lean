import LiveCompile.Shell.Pattern
import LiveCompile.Shell.Quoted

/-! Values that are changed where they are written: parts of them, other texts for what matches
a pattern, other letters. -/

namespace LiveCompile.Shell.Alteration

/-- The length of the longest start of a text that matches, which may not be empty. -/
def longestStart? (pattern : Pattern) (text : Chars) : Option Nat :=
  (Pattern.cuts text).reverse.find? fun length =>
    0 < length && pattern.matchesText (text.take length)

/-- The text that stands for a match: an ampersand outside of quotes stands for the match. -/
def replacement (marked : Marked) (found : Chars) : Chars :=
  marked.flatMap fun (c, quoted) => if c = '&' && !quoted then found else [c]

/-- A text with another one for what matches a pattern, once or everywhere. The first argument
bounds the number of steps. -/
def replacedFrom (pattern : Pattern) (new : Marked) (everywhere : Bool) : Nat → Chars → Chars
  | 0, text => text
  | _ + 1, [] => []
  | steps + 1, c :: rest =>
    match longestStart? pattern (c :: rest) with
    | none => c :: replacedFrom pattern new everywhere steps rest
    | some length =>
      let text := replacement new ((c :: rest).take length)
      let rest := (c :: rest).drop length
      text ++ if everywhere then replacedFrom pattern new everywhere steps rest else rest

def replaced (place : Replacing) (pattern : Pattern) (new : Marked) (text : Chars) : Chars :=
  match place with
  | .first => replacedFrom pattern new false (text.length + 1) text
  | .all => replacedFrom pattern new true (text.length + 1) text
  | .start =>
    if pattern.isEmpty then replacement new [] ++ text
    else
      match longestStart? pattern text with
      | some length => replacement new (text.take length) ++ text.drop length
      | none => text
  | .finish =>
    match (Pattern.cuts text).find? fun length => pattern.matchesText (text.drop length) with
    | some length => text.take length ++ replacement new (text.drop length)
    | none => text

/-- A text with letters of another case: the first one or all, those that match a pattern. -/
def recased (toUpper isAll : Bool) (pattern : Pattern) (text : Chars) : Chars :=
  let change (c : Char) : Char :=
    if pattern.isEmpty || pattern.matchesText [c] then
      if toUpper then c.toUpper else c.toLower
    else c
  match text with
  | [] => []
  | c :: rest => change c :: if isAll then rest.map change else rest

/-- Where a part of a sequence begins and how long it is. A negative start counts from the end,
and so does a negative length, which stands for a place; it is none if it is before the start. -/
def extent (size : Nat) (start : Int) (length : Option Int) : Option (Nat × Nat) :=
  let start := if start < 0 then size + start else start
  if start < 0 || size < start then some (0, 0)
  else
    match length with
    | none => some (start.toNat, size - start.toNat)
    | some length =>
      if 0 ≤ length then some (start.toNat, length.toNat)
      else
        let place := size + length
        if place < start then none else some (start.toNat, (place - start).toNat)

/-- A text between apostrophes, so that a shell reads it back. -/
def quoted (text : Chars) : Chars :=
  if text.all isPrintable then
    apostrophe :: text.flatMap (fun c =>
      if c = apostrophe then [apostrophe, '\\', apostrophe, apostrophe] else [c]) ++ [apostrophe]
  else
    '$' :: apostrophe :: text.flatMap (fun c =>
      if c = apostrophe || c = '\\' then ['\\', c]
      else if c = '\x1b' then ['\\', 'E']
      else if isPrintable c then [c]
      else escaped c) ++ [apostrophe]

/-- The start and the length of a slice, between which a colon stands that is not in
parentheses and belongs to no condition. -/
def sliceParts (text : Chars) : Chars × Option Chars :=
  go 0 0 text
where
  go (depth conditions : Nat) : Chars → Chars × Option Chars
    | [] => ([], none)
    | c :: rest =>
      if c = ':' && depth = 0 && conditions = 0 then ([], some rest)
      else
        let depth := if c = '(' then depth + 1 else if c = ')' then depth - 1 else depth
        let conditions := if c = '?' then conditions + 1
          else if c = ':' && depth = 0 then conditions - 1 else conditions
        let (start, length) := go depth conditions rest
        (c :: start, length)

end LiveCompile.Shell.Alteration
