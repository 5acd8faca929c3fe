import LiveCompile.Proofs.JsonLiterals
import Mathlib.Data.List.Forall2

/-! The grammar that the reader of JSON texts accepts. A document that was read is spelled by its
own octets: in them each of its values stands between blanks, commas and brackets. -/

namespace LiveCompile

theorem Span.octets_of_append (source rest : List UInt8) :
    Span.octets ⟨source ++ rest, rest⟩ = source := by
  simp [Span.octets]

theorem Span.octets_alone (source : List UInt8) : Span.octets ⟨source, []⟩ = source := by
  simp [Span.octets]

namespace Document

/-! Blanks -/

def Blank (source : List UInt8) : Prop := ∀ octet ∈ source, isBlank octet = true

/-- A part of a text: a value with blanks around it. -/
def Padded (source part : List UInt8) : Prop :=
  ∃ before after, Blank before ∧ Blank after ∧ part = before ++ source ++ after

/-- The first octet of a value. It is no blank and does not close a list. -/
def Opens (source : List UInt8) : Prop :=
  ∃ octet more, source = octet :: more ∧ isBlank octet = false ∧ octet ≠ 93

theorem blank_nil : Blank [] := by simp [Blank]

theorem padded_self (source : List UInt8) : Padded source source :=
  ⟨[], [], blank_nil, blank_nil, by simp⟩

theorem skipBlanks_cons {octet : UInt8} (filled : isBlank octet = false) (rest : List UInt8) :
    skipBlanks (octet :: rest) = octet :: rest :=
  List.dropWhile_cons_of_neg (by simp [filled])

theorem skipBlanks_split (input : List UInt8) :
    ∃ blanks, Blank blanks ∧ input = blanks ++ skipBlanks input ∧
      ∀ octet ∈ (skipBlanks input).head?, isBlank octet = false := by
  induction input with
  | nil => exact ⟨[], blank_nil, rfl, by simp [skipBlanks]⟩
  | cons octet rest ih =>
    cases blank : isBlank octet with
    | true =>
      obtain ⟨blanks, each, split, stops⟩ := ih
      have skipped : skipBlanks (octet :: rest) = skipBlanks rest :=
        List.dropWhile_cons_of_pos blank
      rw [skipped]
      refine ⟨octet :: blanks, ?_, by rw [List.cons_append, ← split], stops⟩
      exact List.forall_mem_cons.mpr ⟨blank, each⟩
    | false =>
      rw [skipBlanks_cons blank]
      refine ⟨[], blank_nil, rfl, fun other first => ?_⟩
      cases Option.mem_some.mp first
      exact blank

theorem skipBlanks_append {blanks : List UInt8} (blank : Blank blanks) (rest : List UInt8) :
    skipBlanks (blanks ++ rest) = skipBlanks rest := by
  induction blanks with
  | nil => rfl
  | cons octet more ih =>
    obtain ⟨here, later⟩ := List.forall_mem_cons.mp blank
    rw [List.cons_append, skipBlanks, List.dropWhile_cons_of_pos here]
    exact ih later

theorem skipBlanks_blank {blanks : List UInt8} (blank : Blank blanks) : skipBlanks blanks = [] := by
  have skipped := skipBlanks_append blank []
  rwa [List.append_nil] at skipped

theorem skipBlanks_opens {source : List UInt8} (opens : Opens source) (rest : List UInt8) :
    skipBlanks (source ++ rest) = source ++ rest := by
  obtain ⟨octet, more, rfl, filled, _⟩ := opens
  exact skipBlanks_cons filled _

/-! The grammar -/

/-- Values in brackets: nothing but blanks, or a part for each of them with commas between. -/
def Laid {α : Type} (opening closing : UInt8) (part : α → List UInt8 → Prop) (values : List α)
    (text : List UInt8) : Prop :=
  (values = [] ∧ ∃ blanks, Blank blanks ∧ text = bracketed opening closing [blanks]) ∨
    (values ≠ [] ∧ ∃ parts, List.Forall₂ part values parts ∧ text = bracketed opening closing parts)

def Names (source : List UInt8) (name : Option String) : Prop :=
  ∃ rest pieces, source = 34 :: rest ∧ pieces? rest = some (pieces, []) ∧ decoded? pieces = name

/-- A member of an object: a name, a colon and a value. -/
def MemberText (member : Option String × Document) (part : List UInt8) : Prop :=
  ∃ named value name, part = named ++ 58 :: value ∧ Padded name named ∧ Names name member.1 ∧
    Padded member.2.source value

/-- A document whose octets follow the grammar, all the way down. -/
inductive Spelled : Document → Prop where
  | null : Spelled .null
  | bool (value : Bool) : Spelled (.bool value)
  | number {span : Span} {literal : NumberLiteral}
      (read : NumberLiteral.read? span.octets = some (literal, [])) :
      Spelled (ofNumber span literal.value?)
  | string {span : Span} {value : Option String} (named : Names span.octets value) :
      Spelled (ofString span value)
  | array {span : Span} {items : List Document} (each : ∀ item ∈ items, Spelled item)
      (laid : Laid 91 93 (fun item => Padded item.source) items span.octets) :
      Spelled (.array span items)
  | object {span : Span} {members : List (Option String × Document)}
      (each : ∀ member ∈ members, Spelled member.2)
      (laid : Laid 123 125 MemberText members span.octets) :
      Spelled (ofMembers span members)

theorem source_ofNumber (span : Span) (value : Option Number) :
    (ofNumber span value).source = span.octets := by
  cases value <;> rfl

theorem source_ofString (span : Span) (value : Option String) :
    (ofString span value).source = span.octets := by
  cases value <;> rfl

theorem source_ofMembers (span : Span) (members : List (Option String × Document)) :
    (ofMembers span members).source = span.octets := by
  unfold ofMembers
  split <;> rfl

theorem octets_null : octets "null" = 110 :: octets "ull" := by decide +kernel
theorem octets_true : octets "true" = 116 :: octets "rue" := by decide +kernel
theorem octets_false : octets "false" = 102 :: octets "alse" := by decide +kernel

private theorem opens_of_number {source : List UInt8} (opens : NumberLiteral.Opens source) :
    Opens source := by
  obtain ⟨octet, more, rfl, minus | digit⟩ := opens
  · exact ⟨octet, more, rfl, by rw [minus]; decide, by rw [minus]; decide⟩
  · have bounds : 48 ≤ octet.toNat ∧ octet.toNat ≤ 57 := by
      unfold NumberLiteral.digit? at digit
      split at digit
      case isTrue bounds => simpa [UInt8.le_iff_toNat_le] using bounds
      case isFalse => cases digit
    refine ⟨octet, more, rfl, ?_, ?_⟩
    · simp [isBlank, ← UInt8.toNat_inj]
      omega
    · simp [← UInt8.toNat_inj]
      omega

theorem Spelled.opens {document : Document} (spelled : Spelled document) :
    Opens document.source := by
  cases spelled with
  | null => exact ⟨110, _, octets_null, by decide, by decide⟩
  | bool value =>
    cases value
    · exact ⟨102, _, octets_false, by decide, by decide⟩
    · exact ⟨116, _, octets_true, by decide, by decide⟩
  | number read =>
    obtain ⟨source, same, opens, _⟩ := NumberLiteral.read?_split read
    rw [List.append_nil] at same
    rw [source_ofNumber, same]
    exact opens_of_number opens
  | string named =>
    obtain ⟨rest, _, same, _⟩ := named
    exact ⟨34, rest, (source_ofString _ _).trans same, by decide, by decide⟩
  | array each laid =>
    rcases laid with ⟨_, blanks, _, same⟩ | ⟨_, parts, _, same⟩ <;>
      exact ⟨91, _, same, by decide, by decide⟩
  | object each laid =>
    rcases laid with ⟨_, blanks, _, same⟩ | ⟨_, parts, _, same⟩ <;>
      exact ⟨123, _, (source_ofMembers _ _).trans same, by decide, by decide⟩

/-! What is read is spelled -/

theorem after?_eq_some {expected input rest : List UInt8} :
    after? expected input = some rest ↔ input = expected ++ rest := by
  induction expected generalizing input with
  | nil => simp [after?]
  | cons octet more ih =>
    cases input with
    | nil => simp [after?]
    | cons other left =>
      unfold after?
      split
      case isTrue same => simp [ih, same]
      case isFalse different => simp [Ne.symm different]

theorem intercalate_cons {part : List UInt8} {parts : List (List UInt8)} (more : parts ≠ []) :
    [44].intercalate (part :: parts) = part ++ 44 :: [44].intercalate parts := by
  cases parts with
  | nil => exact absurd rfl more
  | cons => simp [List.intercalate]

theorem intercalate_one (part : List UInt8) : [44].intercalate [part] = part := by
  simp [List.intercalate]

/-- What the items of a list and the members of an object are read as: values with parts of their
own, and a closing octet after the last part. -/
def Closes {α : Type} (closing : UInt8) (part : α → List UInt8 → Prop) (values : List α)
    (input rest : List UInt8) : Prop :=
  values ≠ [] ∧ ∃ parts, List.Forall₂ part values parts ∧
    input = [44].intercalate parts ++ closing :: rest

section
variable {α : Type} {closing : UInt8} {part : α → List UInt8 → Prop} {value : α} {values : List α}
  {here input rest : List UInt8}

theorem Closes.last (fits : part value here) :
    Closes closing part [value] (here ++ closing :: rest) rest :=
  ⟨List.cons_ne_nil _ _, [here], .cons fits .nil, by rw [intercalate_one]⟩

theorem Closes.more (fits : part value here) (later : Closes closing part values input rest) :
    Closes closing part (value :: values) (here ++ 44 :: input) rest := by
  obtain ⟨filled, parts, each, rfl⟩ := later
  refine ⟨List.cons_ne_nil _ _, here :: parts, .cons fits each, ?_⟩
  have some : parts ≠ [] := by
    rintro rfl
    cases each
    exact filled rfl
  rw [intercalate_cons some]
  simp

theorem Closes.laid {opening : UInt8} {blanks : List UInt8}
    (pads : ∀ {value part'}, part value part' → part value (blanks ++ part'))
    (closes : Closes closing part values input rest) :
    ∃ text, Laid opening closing part values text ∧
      opening :: (blanks ++ input) = text ++ rest := by
  obtain ⟨filled, parts, each, rfl⟩ := closes
  cases each with
  | nil => exact absurd rfl filled
  | @cons value first values parts fits later =>
    refine ⟨_, .inr ⟨filled, (blanks ++ first) :: parts, .cons (pads fits) later, rfl⟩, ?_⟩
    cases parts with
    | nil => simp [bracketed]
    | cons => simp [bracketed]

end

theorem Padded.pad {source part blanks : List UInt8} (blank : Blank blanks)
    (padded : Padded source part) : Padded source (blanks ++ part) := by
  obtain ⟨before, after, first, second, rfl⟩ := padded
  refine ⟨blanks ++ before, after, fun octet member => ?_, second, by simp⟩
  exact (List.mem_append.mp member).elim (blank octet) (first octet)

theorem MemberText.pad {member : Option String × Document} {part blanks : List UInt8}
    (blank : Blank blanks) (text : MemberText member part) : MemberText member (blanks ++ part) := by
  obtain ⟨named, value, name, rfl, padded, names, rest⟩ := text
  exact ⟨blanks ++ named, value, name, by simp, padded.pad blank, names, rest⟩

private theorem spelled_word {word input rest : List UInt8} {octet : UInt8} {value found : Document}
    (spelled : Spelled value) (source : value.source = octet :: word)
    (read : (after? word input).map (value, ·) = some (found, rest)) :
    Spelled found ∧ octet :: input = found.source ++ rest := by
  obtain ⟨left, after, same⟩ := Option.map_eq_some_iff.mp read
  cases same
  rw [after?_eq_some.mp after, source]
  exact ⟨spelled, rfl⟩

/-- What is between brackets, after the opening one: nothing but blanks, or what is read there. -/
def content? {α : Type} (closing : UInt8) (read : List UInt8 → Option (List α × List UInt8))
    (input : List UInt8) : Option (List α × List UInt8) :=
  if (skipBlanks input).head? = some closing then some ([], (skipBlanks input).tail)
  else read (skipBlanks input)

theorem readValue?_quote (steps : Nat) (input : List UInt8) :
    readValue? (steps + 1) (34 :: input) = do
      let (pieces, left) ← pieces? input
      return (ofString ⟨34 :: input, left⟩ (decoded? pieces), left) := rfl

theorem readValue?_array (steps : Nat) (input : List UInt8) :
    readValue? (steps + 1) (91 :: input) = do
      let (items, left) ← content? 93 (readItems? steps) input
      return (array ⟨91 :: input, left⟩ items, left) := by
  simp only [readValue?, content?]
  rw [if_neg (by decide), if_neg (by decide), if_neg (by decide), if_neg (by decide),
    if_pos trivial]
  split
  case h_1 left closed => simp [closed]
  case h_2 input' other =>
    have opened : (skipBlanks input).head? ≠ some 93 := by
      intro closed
      obtain ⟨left, same⟩ := List.head?_eq_some_iff.mp closed
      exact other left same
    rw [if_neg opened]

theorem readValue?_object (steps : Nat) (input : List UInt8) :
    readValue? (steps + 1) (123 :: input) = do
      let (members, left) ← content? 125 (readMembers? steps) input
      return (ofMembers ⟨123 :: input, left⟩ members, left) := by
  simp only [readValue?, content?]
  rw [if_neg (by decide), if_neg (by decide), if_neg (by decide), if_neg (by decide),
    if_neg (by decide), if_pos trivial]
  split
  case h_1 left closed => simp [closed]
  case h_2 input' other =>
    have opened : (skipBlanks input).head? ≠ some 125 := by
      intro closed
      obtain ⟨left, same⟩ := List.head?_eq_some_iff.mp closed
      exact other left same
    rw [if_neg opened]

theorem readValue?_number {octet : UInt8} (steps : Nat) (input : List UInt8)
    (other : octet ∉ [110, 116, 102, 34, 91, 123]) :
    readValue? (steps + 1) (octet :: input) = do
      let (literal, left) ← NumberLiteral.read? (octet :: input)
      return (ofNumber ⟨octet :: input, left⟩ literal.value?, left) := by
  simp only [List.mem_cons, List.not_mem_nil, or_false, not_or] at other
  obtain ⟨n, t, f, quote, bracket, brace⟩ := other
  simp only [readValue?, if_neg n, if_neg t, if_neg f, if_neg quote, if_neg bracket, if_neg brace]

private theorem content?_laid {α : Type} {opening closing : UInt8} {part : α → List UInt8 → Prop}
    {input rest : List UInt8} {values : List α} {read : List UInt8 → Option (List α × List UInt8)}
    (pads : ∀ {value blanks part'}, Blank blanks → part value part' → part value (blanks ++ part'))
    (closes : ∀ {input values rest}, read input = some (values, rest) →
      Closes closing part values input rest)
    (found : content? closing read input = some (values, rest)) :
    ∃ text, Laid opening closing part values text ∧ opening :: input = text ++ rest := by
  obtain ⟨blanks, blank, split, _⟩ := skipBlanks_split input
  unfold content? at found
  split at found
  case isTrue closed =>
    obtain ⟨left, closed⟩ := List.head?_eq_some_iff.mp closed
    rw [closed] at found
    cases found
    refine ⟨_, .inl ⟨rfl, blanks, blank, rfl⟩, ?_⟩
    rw [split, closed]
    simp [bracketed]
  case isFalse =>
    rw [split]
    exact (closes found).laid (pads blank)

private theorem content?_each {α : Type} {closing : UInt8} {input rest : List UInt8}
    {values : List α} {read : List UInt8 → Option (List α × List UInt8)} {holds : α → Prop}
    (each : ∀ {input values rest}, read input = some (values, rest) → ∀ value ∈ values, holds value)
    (found : content? closing read input = some (values, rest)) : ∀ value ∈ values, holds value := by
  unfold content? at found
  split at found
  · cases found
    simp
  · exact each found

private theorem padded_split {input source left : List UInt8}
    (split : skipBlanks input = source ++ left) :
    ∃ part, Padded source part ∧ input = part ++ skipBlanks left := by
  obtain ⟨before, blankBefore, skipped, _⟩ := skipBlanks_split input
  obtain ⟨after, blankAfter, skippedAfter, _⟩ := skipBlanks_split left
  refine ⟨before ++ source ++ after, ⟨before, after, blankBefore, blankAfter, rfl⟩, ?_⟩
  rw [List.append_assoc, ← skippedAfter, List.append_assoc, ← split, ← skipped]

private theorem names_split {input rest : List UInt8} {pieces : List Piece}
    (found : pieces? input = some (pieces, rest)) :
    ∃ source, 34 :: input = source ++ rest ∧ Names source (decoded? pieces) := by
  obtain ⟨source, split, again⟩ := pieces?_split found
  have closed := again []
  rw [List.append_nil] at closed
  exact ⟨34 :: source, congrArg _ split, source, pieces, rfl, closed, rfl⟩

/-! What so many steps read -/

def ReadsValues (steps : Nat) : Prop :=
  ∀ input value rest, readValue? steps input = some (value, rest) →
    Spelled value ∧ input = value.source ++ rest

def ReadsItems (steps : Nat) : Prop :=
  ∀ input items rest, readItems? steps input = some (items, rest) →
    (∀ item ∈ items, Spelled item) ∧ Closes 93 (fun item => Padded item.source) items input rest

def ReadsMembers (steps : Nat) : Prop :=
  ∀ input members rest, readMembers? steps input = some (members, rest) →
    (∀ member ∈ members, Spelled member.2) ∧ Closes 125 MemberText members input rest

section
variable {steps : Nat} {input rest : List UInt8} {value : Document}

private theorem spelled_string (read : readValue? (steps + 1) (34 :: input) = some (value, rest)) :
    Spelled value ∧ 34 :: input = value.source ++ rest := by
  rw [readValue?_quote] at read
  obtain ⟨⟨pieces, left⟩, found, same⟩ := Option.bind_eq_some_iff.mp read
  cases same
  obtain ⟨source, split, named⟩ := names_split found
  have octets : Span.octets ⟨34 :: input, rest⟩ = source := by rw [split, Span.octets_of_append]
  rw [source_ofString, octets]
  exact ⟨.string (octets.symm ▸ named), split⟩

private theorem spelled_number {octet : UInt8} (plain : octet ∉ [110, 116, 102, 34, 91, 123])
    (read : readValue? (steps + 1) (octet :: input) = some (value, rest)) :
    Spelled value ∧ octet :: input = value.source ++ rest := by
  rw [readValue?_number steps input plain] at read
  obtain ⟨⟨literal, left⟩, found, same⟩ := Option.bind_eq_some_iff.mp read
  cases same
  obtain ⟨source, split, _, again⟩ := NumberLiteral.read?_split found
  have whole := again [] NumberLiteral.stops_nil
  rw [List.append_nil] at whole
  have octets : Span.octets ⟨octet :: input, rest⟩ = source := by rw [split, Span.octets_of_append]
  rw [source_ofNumber, octets]
  exact ⟨.number (octets.symm ▸ whole), split⟩

theorem ReadsItems.array (items : ReadsItems steps)
    (read : readValue? (steps + 1) (91 :: input) = some (value, rest)) :
    Spelled value ∧ 91 :: input = value.source ++ rest := by
  rw [readValue?_array] at read
  obtain ⟨⟨found, left⟩, inner, same⟩ := Option.bind_eq_some_iff.mp read
  cases same
  have each := content?_each (fun read => (items _ _ _ read).1) inner
  obtain ⟨text, laid, split⟩ : ∃ text, Laid 91 93 _ found text ∧ 91 :: input = text ++ rest :=
    content?_laid (fun blank padded => padded.pad blank) (fun read => (items _ _ _ read).2) inner
  have octets : Span.octets ⟨91 :: input, rest⟩ = text := by rw [split, Span.octets_of_append]
  rw [Document.source, octets]
  exact ⟨.array each (octets ▸ laid), split⟩

theorem ReadsMembers.object (members : ReadsMembers steps)
    (read : readValue? (steps + 1) (123 :: input) = some (value, rest)) :
    Spelled value ∧ 123 :: input = value.source ++ rest := by
  rw [readValue?_object] at read
  obtain ⟨⟨found, left⟩, inner, same⟩ := Option.bind_eq_some_iff.mp read
  cases same
  have each := content?_each (fun read => (members _ _ _ read).1) inner
  obtain ⟨text, laid, split⟩ : ∃ text, Laid 123 125 _ found text ∧ 123 :: input = text ++ rest :=
    content?_laid (fun blank text => text.pad blank) (fun read => (members _ _ _ read).2) inner
  have octets : Span.octets ⟨123 :: input, rest⟩ = text := by rw [split, Span.octets_of_append]
  rw [source_ofMembers, octets]
  exact ⟨.object each (octets ▸ laid), split⟩

end

private theorem reads_values {steps : Nat} (items : ReadsItems steps)
    (members : ReadsMembers steps) : ReadsValues (steps + 1) := by
  intro input value rest read
  cases input with
  | nil => cases read
  | cons octet input =>
    by_cases special : octet ∈ [110, 116, 102, 34, 91, 123]
    · simp only [List.mem_cons, List.not_mem_nil, or_false] at special
      rcases special with rfl | rfl | rfl | rfl | rfl | rfl
      · exact spelled_word .null octets_null read
      · exact spelled_word (.bool true) octets_true read
      · exact spelled_word (.bool false) octets_false read
      · exact spelled_string read
      · exact items.array read
      · exact members.object read
    · exact spelled_number special read

private theorem reads_items {steps : Nat} (values : ReadsValues steps) (items : ReadsItems steps) :
    ReadsItems (steps + 1) := by
  intro input found rest read
  obtain ⟨⟨item, left⟩, first, read⟩ := Option.bind_eq_some_iff.mp read
  obtain ⟨spelled, split⟩ := values _ _ _ first
  obtain ⟨part, padded, whole⟩ := padded_split split
  rw [whole]
  simp only at read
  split at read
  case h_1 closed =>
    cases read
    rw [closed]
    exact ⟨by simpa using spelled, .last padded⟩
  case h_2 more comma =>
    obtain ⟨⟨others, left⟩, inner, same⟩ := Option.bind_eq_some_iff.mp read
    cases same
    obtain ⟨each, closes⟩ := items _ _ _ inner
    rw [comma]
    exact ⟨List.forall_mem_cons.mpr ⟨spelled, each⟩, .more padded closes⟩
  case h_3 => cases read

private theorem reads_members {steps : Nat} (values : ReadsValues steps)
    (members : ReadsMembers steps) : ReadsMembers (steps + 1) := by
  intro input found rest read
  simp only [readMembers?] at read
  split at read
  case h_2 => cases read
  case h_1 afterQuote opened =>
    obtain ⟨⟨pieces, afterName⟩, name, read⟩ := Option.bind_eq_some_iff.mp read
    obtain ⟨source, nameSplit, named⟩ := names_split name
    obtain ⟨namedPart, namePadded, nameWhole⟩ := padded_split (opened.trans nameSplit)
    simp only at read
    split at read
    case h_2 => cases read
    case h_1 afterColon colon =>
      obtain ⟨⟨value, left⟩, valued, read⟩ := Option.bind_eq_some_iff.mp read
      obtain ⟨spelled, split⟩ := values _ _ _ valued
      obtain ⟨valuePart, valuePadded, valueWhole⟩ := padded_split split
      have text : MemberText (decoded? pieces, value) (namedPart ++ 58 :: valuePart) :=
        ⟨namedPart, valuePart, source, rfl, namePadded, named, valuePadded⟩
      have whole : input = namedPart ++ 58 :: valuePart ++ skipBlanks left := by
        rw [nameWhole, colon, valueWhole, List.append_assoc, List.cons_append]
      rw [whole]
      simp only at read
      split at read
      case h_1 closed =>
        cases read
        rw [closed]
        exact ⟨by simpa using spelled, .last text⟩
      case h_2 more comma =>
        obtain ⟨⟨others, left⟩, inner, same⟩ := Option.bind_eq_some_iff.mp read
        cases same
        obtain ⟨each, closes⟩ := members _ _ _ inner
        rw [comma]
        exact ⟨List.forall_mem_cons.mpr ⟨spelled, each⟩, .more text closes⟩
      case h_3 => cases read

/-- A value that is read is spelled by the octets it takes, and so are items and members. -/
theorem read_spelled (steps : Nat) : ReadsValues steps ∧ ReadsItems steps ∧ ReadsMembers steps := by
  induction steps with
  | zero => exact ⟨nofun, nofun, nofun⟩
  | succ steps ih =>
    obtain ⟨values, items, members⟩ := ih
    exact ⟨reads_values items members, reads_items values items, reads_members values members⟩

/-- A document that is read is spelled by the text without the blanks around it. -/
theorem spelled_of_read {input : List UInt8} {document : Document}
    (found : ofOctets? input = some document) :
    Spelled document ∧ Padded document.source input := by
  obtain ⟨⟨value, rest⟩, read, found⟩ := Option.bind_eq_some_iff.mp found
  simp only at found
  split at found
  case isFalse => cases found
  case isTrue closed =>
    cases found
    obtain ⟨spelled, split⟩ := (read_spelled _).1 _ _ _ read
    obtain ⟨part, padded, whole⟩ := padded_split split
    rw [List.isEmpty_iff.mp closed, List.append_nil] at whole
    exact ⟨spelled, whole ▸ padded⟩

end Document

end LiveCompile
