import LiveCompile.Proofs.JsonGrammar

/-! A document that is spelled is read again from its own octets, wherever they stand, and what is
written is spelled. So the text of a value is read as that value, as far as its numbers are. -/

namespace LiveCompile

/-- The same octets with nothing around them. -/
def Span.detached (span : Span) : Span := ⟨span.octets, []⟩

@[simp] theorem Span.octets_detached (span : Span) : span.detached.octets = span.octets :=
  Span.octets_alone _

namespace Document

/-! What is spelled is read again -/

mutual

/-- A document whose every value stands alone. -/
def detached : Document → Document
  | verbatim span => verbatim span.detached
  | null => null
  | bool value => bool value
  | number span value => number span.detached value
  | string span value => string span.detached value
  | array span items => array span.detached (itemsDetached items)
  | object span fields => object span.detached (fieldsDetached fields)

def itemsDetached : List Document → List Document
  | [] => []
  | item :: rest => item.detached :: itemsDetached rest

def fieldsDetached : List (String × Document) → List (String × Document)
  | [] => []
  | (name, value) :: rest => (name, value.detached) :: fieldsDetached rest

end

theorem itemsDetached_eq (items : List Document) : itemsDetached items = items.map detached := by
  induction items with
  | nil => rfl
  | cons item rest ih => rw [itemsDetached, ih, List.map_cons]

theorem fieldsDetached_eq (fields : List (String × Document)) :
    fieldsDetached fields = fields.map fun (name, value) => (name, value.detached) := by
  induction fields with
  | nil => rfl
  | cons first rest ih => rw [fieldsDetached, ih, List.map_cons]

@[simp] theorem source_detached (document : Document) : document.detached.source = document.source := by
  cases document <;> simp [detached, source]

private theorem detached_ofNumber (span : Span) (value : Option Number) :
    (ofNumber span value).detached = ofNumber span.detached value := by
  cases value <;> rfl

private theorem detached_ofString (span : Span) (value : Option String) :
    (ofString span value).detached = ofString span.detached value := by
  cases value <;> rfl

def memberDetached (member : Option String × Document) : Option String × Document :=
  (member.1, member.2.detached)

def named? (member : Option String × Document) : Option (String × Document) :=
  member.1.map (·, member.2)

theorem ofMembers_eq (span : Span) (members : List (Option String × Document)) :
    ofMembers span members =
      match members.mapM named? with
      | some fields => object span fields
      | none => verbatim span := rfl

private theorem mapM_named?_detached (members : List (Option String × Document)) :
    (members.map memberDetached).mapM named? = (members.mapM named?).map fieldsDetached := by
  induction members with
  | nil => rfl
  | cons first rest ih =>
    obtain ⟨name, value⟩ := first
    rw [List.map_cons, List.mapM_cons, List.mapM_cons, ih]
    cases name with
    | none => rfl
    | some name => cases rest.mapM named? <;> rfl

private theorem detached_ofMembers (span : Span) (members : List (Option String × Document)) :
    (ofMembers span members).detached = ofMembers span.detached (members.map memberDetached) := by
  rw [ofMembers_eq, ofMembers_eq, mapM_named?_detached]
  cases members.mapM named? <;> rfl

/-- A value is read from its own octets in any text where nothing goes on a number. -/
def ReadBack (document : Document) : Prop :=
  ∀ steps rest, 2 * document.source.length ≤ steps → NumberLiteral.Stops rest →
    ∃ again, readValue? steps (document.source ++ rest) = some (again, rest) ∧
      again.detached = document.detached

private theorem stops_of_blank {octet : UInt8}
    (blank : isBlank octet = true ∨ octet ∈ [44, 93, 125])
    (rest : List UInt8) : NumberLiteral.Stops (octet :: rest) := by
  intro first here
  cases Option.mem_some.mp here
  simp only [isBlank, List.mem_cons, List.not_mem_nil, or_false, Bool.or_eq_true,
    decide_eq_true_eq] at blank
  rcases blank with (((rfl | rfl) | rfl) | rfl) | rfl | rfl | rfl <;> decide

private theorem stops_of_padding {after rest : List UInt8} (blank : Blank after)
    (stops : NumberLiteral.Stops rest) : NumberLiteral.Stops (after ++ rest) := by
  cases after with
  | nil => exact stops
  | cons octet more => exact stops_of_blank (.inl (blank octet List.mem_cons_self)) _

private theorem skipBlanks_skip (input : List UInt8) :
    skipBlanks (skipBlanks input) = skipBlanks input := by
  obtain ⟨blanks, blank, split, _⟩ := skipBlanks_split input
  rw [← skipBlanks_append blank, ← split]

private theorem readItems?_skip (steps : Nat) (input : List UInt8) :
    readItems? steps (skipBlanks input) = readItems? steps input := by
  cases steps with
  | zero => rfl
  | succ steps => rw [readItems?, readItems?, skipBlanks_skip]

private theorem readMembers?_skip (steps : Nat) (input : List UInt8) :
    readMembers? steps (skipBlanks input) = readMembers? steps input := by
  cases steps with
  | zero => rfl
  | succ steps => rw [readMembers?, readMembers?, skipBlanks_skip]

section
variable {steps : Nat} {input left more rest : List UInt8} {item : Document} {items : List Document}

private theorem readItems?_last (read : readValue? steps (skipBlanks input) = some (item, left))
    (closed : skipBlanks left = 93 :: rest) : readItems? (steps + 1) input = some ([item], rest) := by
  simp [readItems?, read, closed]

private theorem readItems?_more (read : readValue? steps (skipBlanks input) = some (item, left))
    (comma : skipBlanks left = 44 :: more) (later : readItems? steps more = some (items, rest)) :
    readItems? (steps + 1) input = some (item :: items, rest) := by
  simp [readItems?, read, comma, later]

end

theorem ReadBack.padded {document : Document} {part : List UInt8} (back : ReadBack document)
    (opens : Opens document.source) (padded : Padded document.source part) (octet : UInt8)
    (mark : octet ∈ [44, 93, 125]) (steps : Nat) (enough : 2 * part.length ≤ steps)
    (rest : List UInt8) :
    ∃ again left, readValue? steps (skipBlanks (part ++ octet :: rest)) = some (again, left) ∧
      skipBlanks left = octet :: rest ∧ again.detached = document.detached := by
  obtain ⟨before, after, blankBefore, blankAfter, rfl⟩ := padded
  simp only [List.length_append] at enough
  obtain ⟨again, read, same⟩ := back steps (after ++ octet :: rest) (by omega)
    (stops_of_padding blankAfter (stops_of_blank (.inr mark) rest))
  have filled : isBlank octet = false := by
    simp only [List.mem_cons, List.not_mem_nil, or_false] at mark
    rcases mark with rfl | rfl | rfl <;> decide
  refine ⟨again, after ++ octet :: rest, ?_, ?_, same⟩
  · rw [List.append_assoc, List.append_assoc, skipBlanks_append blankBefore, skipBlanks_opens opens]
    exact read
  · rw [skipBlanks_append blankAfter, skipBlanks_cons filled]

private theorem readItems?_again {items : List Document} {parts : List (List UInt8)}
    (padded : List.Forall₂ (fun item => Padded item.source) items parts) (filled : items ≠ [])
    (each : ∀ item ∈ items, Opens item.source ∧ ReadBack item) :
    ∀ steps rest, 2 * ([44].intercalate parts).length + 2 ≤ steps →
      ∃ again, readItems? steps ([44].intercalate parts ++ 93 :: rest) = some (again, rest) ∧
        itemsDetached again = itemsDetached items := by
  induction padded with
  | nil => exact absurd rfl filled
  | @cons item part items parts here later ih =>
    obtain ⟨⟨opens, back⟩, others⟩ := List.forall_mem_cons.mp each
    intro steps rest enough
    obtain ⟨steps, rfl⟩ : ∃ more, steps = more + 1 := Nat.exists_eq_add_one.mpr (by omega)
    cases later with
    | nil =>
      rw [intercalate_one] at enough ⊢
      obtain ⟨again, left, read, closed, same⟩ :=
        back.padded opens here 93 (by decide) steps (by omega) rest
      exact ⟨[again], readItems?_last read closed, by rw [itemsDetached, same]; rfl⟩
    | @cons next nextPart items parts padded later =>
      rw [intercalate_cons (List.cons_ne_nil _ _)] at enough ⊢
      simp only [List.length_append, List.length_cons] at enough
      rw [List.append_assoc, List.cons_append]
      obtain ⟨again, left, read, comma, same⟩ :=
        back.padded opens here 44 (by decide) steps (by omega) _
      obtain ⟨more, readMore, sameMore⟩ := ih (List.cons_ne_nil _ _) others steps rest (by omega)
      exact ⟨again :: more, readItems?_more read comma readMore,
        by rw [itemsDetached, same, sameMore]; rfl⟩

section
variable {steps : Nat} {input left more rest afterQuote afterName afterColon : List UInt8}
  {pieces : List Piece} {value : Document} {members : List (Option String × Document)}

private theorem readMembers?_last (opened : skipBlanks input = 34 :: afterQuote)
    (name : pieces? afterQuote = some (pieces, afterName))
    (colon : skipBlanks afterName = 58 :: afterColon)
    (read : readValue? steps (skipBlanks afterColon) = some (value, left))
    (closed : skipBlanks left = 125 :: rest) :
    readMembers? (steps + 1) input = some ([(decoded? pieces, value)], rest) := by
  simp [readMembers?, opened, name, colon, read, closed]

private theorem readMembers?_more (opened : skipBlanks input = 34 :: afterQuote)
    (name : pieces? afterQuote = some (pieces, afterName))
    (colon : skipBlanks afterName = 58 :: afterColon)
    (read : readValue? steps (skipBlanks afterColon) = some (value, left))
    (comma : skipBlanks left = 44 :: more)
    (later : readMembers? steps more = some (members, rest)) :
    readMembers? (steps + 1) input = some ((decoded? pieces, value) :: members, rest) := by
  simp [readMembers?, opened, name, colon, read, comma, later]

end

theorem MemberText.opened {member : Option String × Document} {part : List UInt8}
    (text : MemberText member part) (rest : List UInt8) :
    ∃ value afterQuote pieces afterName, Padded member.2.source value ∧
      value.length + 3 ≤ part.length ∧
      skipBlanks (part ++ rest) = 34 :: afterQuote ∧
      pieces? afterQuote = some (pieces, afterName) ∧
      skipBlanks afterName = 58 :: (value ++ rest) ∧ decoded? pieces = member.1 := by
  obtain ⟨named, value, name, rfl, ⟨before, after, blankBefore, blankAfter, rfl⟩,
    ⟨source, pieces, rfl, read, decoded⟩, padded⟩ := text
  obtain ⟨spelled, split, again⟩ := pieces?_split read
  rw [List.append_nil] at split
  subst split
  have filled : source ≠ [] := by
    rintro rfl
    cases read
  have long : 0 < source.length := List.length_pos_iff.mpr filled
  refine ⟨value, _, pieces, _, padded, ?_, ?_, again (after ++ 58 :: (value ++ rest)), ?_, decoded⟩
  · simp
    omega
  · simp only [List.append_assoc, List.cons_append]
    rw [skipBlanks_append blankBefore, skipBlanks_cons (by decide)]
  · rw [skipBlanks_append blankAfter, skipBlanks_cons (by decide)]

private theorem readMembers?_again {members : List (Option String × Document)}
    {parts : List (List UInt8)}
    (laid : List.Forall₂ MemberText members parts) (filled : members ≠ [])
    (each : ∀ member ∈ members, Opens member.2.source ∧ ReadBack member.2) :
    ∀ steps rest, 2 * ([44].intercalate parts).length + 2 ≤ steps →
      ∃ again, readMembers? steps ([44].intercalate parts ++ 125 :: rest) = some (again, rest) ∧
        again.map memberDetached = members.map memberDetached := by
  induction laid with
  | nil => exact absurd rfl filled
  | @cons member part members parts here later ih =>
    obtain ⟨⟨opens, back⟩, others⟩ := List.forall_mem_cons.mp each
    intro steps rest enough
    obtain ⟨steps, rfl⟩ : ∃ more, steps = more + 1 := Nat.exists_eq_add_one.mpr (by omega)
    cases later with
    | nil =>
      rw [intercalate_one] at enough ⊢
      obtain ⟨value, afterQuote, pieces, afterName, padded, short, opened, name, colon, decoded⟩ :=
        here.opened (125 :: rest)
      obtain ⟨again, left, read, closed, same⟩ :=
        back.padded opens padded 125 (by decide) steps (by omega) rest
      refine ⟨_, readMembers?_last opened name colon read closed, ?_⟩
      simp [memberDetached, decoded, same]
    | @cons next nextPart members parts laid later =>
      rw [intercalate_cons (List.cons_ne_nil _ _)] at enough ⊢
      simp only [List.length_append, List.length_cons] at enough
      rw [List.append_assoc, List.cons_append]
      obtain ⟨value, afterQuote, pieces, afterName, padded, short, opened, name, colon, decoded⟩ :=
        here.opened (44 :: ([44].intercalate (nextPart :: parts) ++ 125 :: rest))
      obtain ⟨again, left, read, comma, same⟩ :=
        back.padded opens padded 44 (by decide) steps (by omega) _
      obtain ⟨more, readMore, sameMore⟩ := ih (List.cons_ne_nil _ _) others steps rest (by omega)
      refine ⟨_, readMembers?_more opened name colon read comma readMore, ?_⟩
      rw [List.map_cons, sameMore]
      simp [memberDetached, decoded, same]

section
variable {α : Type} {closing : UInt8} {read : List UInt8 → Option (List α × List UInt8)}

private theorem content?_closed {blanks : List UInt8} (blank : Blank blanks)
    (mark : isBlank closing = false) (rest : List UInt8) :
    content? closing read (blanks ++ closing :: rest) = some ([], rest) := by
  have closed : skipBlanks (blanks ++ closing :: rest) = closing :: rest := by
    rw [skipBlanks_append blank, skipBlanks_cons mark]
  rw [content?, closed]
  exact if_pos rfl

private theorem content?_filled {input : List UInt8}
    (skips : ∀ input, read (skipBlanks input) = read input)
    (filled : ∀ rest, skipBlanks input ≠ closing :: rest) :
    content? closing read input = read input := by
  have opened : (skipBlanks input).head? ≠ some closing := by
    intro closed
    obtain ⟨rest, same⟩ := List.head?_eq_some_iff.mp closed
    exact filled rest same
  rw [content?, if_neg opened, skips]

end

theorem bracketed_append (opening closing : UInt8) (parts : List (List UInt8)) (rest : List UInt8) :
    bracketed opening closing parts ++ rest =
      opening :: ([44].intercalate parts ++ closing :: rest) := by
  simp [bracketed]

private theorem length_bracketed (opening closing : UInt8) (parts : List (List UInt8)) :
    (bracketed opening closing parts).length = ([44].intercalate parts).length + 2 := by
  simp [bracketed]

private theorem readItems?_filled {steps : Nat} {input : List UInt8}
    {found : List Document × List UInt8}
    (read : readItems? steps input = some found) (rest : List UInt8) :
    skipBlanks input ≠ 93 :: rest := by
  intro closed
  cases steps with
  | zero => cases read
  | succ steps =>
    obtain ⟨⟨item, left⟩, first, _⟩ := Option.bind_eq_some_iff.mp read
    rw [closed] at first
    obtain ⟨spelled, split⟩ := (read_spelled steps).1 _ _ _ first
    obtain ⟨octet, more, source, _, different⟩ := spelled.opens
    rw [source] at split
    exact different (List.cons.inj split).1.symm

private theorem readMembers?_filled {steps : Nat} {input : List UInt8}
    {found : List (Option String × Document) × List UInt8}
    (read : readMembers? steps input = some found) (rest : List UInt8) :
    skipBlanks input ≠ 125 :: rest := by
  intro closed
  cases steps with
  | zero => cases read
  | succ steps =>
    simp only [readMembers?, closed] at read
    cases read

/-- What is laid between brackets is read there again, if it is read up to the closing bracket. -/
theorem Laid.again {α : Type} {opening closing : UInt8} {part : α → List UInt8 → Prop}
    {values : List α} {text : List UInt8} {read : Nat → List UInt8 → Option (List α × List UInt8)}
    {same : List α → Prop} (laid : Laid opening closing part values text)
    (mark : isBlank closing = false)
    (skips : ∀ steps input, read steps (skipBlanks input) = read steps input)
    (opens : ∀ {steps input found}, read steps input = some found →
      ∀ rest, skipBlanks input ≠ closing :: rest)
    (none : values = [] → same [])
    (again : ∀ {parts}, List.Forall₂ part values parts → values ≠ [] → ∀ steps rest,
      2 * ([44].intercalate parts).length + 2 ≤ steps →
        ∃ again, read steps ([44].intercalate parts ++ closing :: rest) = some (again, rest) ∧
          same again)
    (steps : Nat) (rest : List UInt8) (enough : 2 * text.length ≤ steps) :
    ∃ fewer input found, steps = fewer + 1 ∧ text ++ rest = opening :: input ∧
      content? closing (read fewer) input = some (found, rest) ∧ same found := by
  rcases laid with ⟨empty, blanks, blank, rfl⟩ | ⟨filled, parts, padded, rfl⟩
  all_goals
    rw [length_bracketed] at enough
    obtain ⟨fewer, rfl⟩ : ∃ fewer, steps = fewer + 1 := Nat.exists_eq_add_one.mpr (by omega)
  · refine ⟨fewer, _, [], rfl, bracketed_append _ _ _ _, ?_, none empty⟩
    rw [intercalate_one]
    exact content?_closed blank mark rest
  · obtain ⟨found, reads, alike⟩ := again padded filled fewer rest (by omega)
    refine ⟨fewer, _, found, rfl, bracketed_append _ _ _ _, ?_, alike⟩
    rw [content?_filled (skips fewer) (opens reads), reads]

private theorem readBack_array {span : Span} {items : List Document}
    (each : ∀ item ∈ items, Opens item.source ∧ ReadBack item)
    (laid : Laid 91 93 (fun item => Padded item.source) items span.octets) :
    ReadBack (array span items) := by
  intro steps rest enough _
  rw [source] at enough ⊢
  obtain ⟨fewer, input, again, rfl, split, reads, same⟩ := laid.again (by decide) readItems?_skip
    readItems?_filled (congrArg itemsDetached ·.symm)
    (fun padded filled => readItems?_again padded filled each) steps rest enough
  refine ⟨array ⟨span.octets ++ rest, rest⟩ again, ?_, ?_⟩
  · rw [split, readValue?_array, reads]
    rfl
  · rw [detached, detached, same, Span.detached, Span.octets_of_append]
    rfl

private theorem readBack_object {span : Span} {members : List (Option String × Document)}
    (each : ∀ member ∈ members, Opens member.2.source ∧ ReadBack member.2)
    (laid : Laid 123 125 MemberText members span.octets) : ReadBack (ofMembers span members) := by
  intro steps rest enough _
  rw [source_ofMembers] at enough ⊢
  obtain ⟨fewer, input, again, rfl, split, reads, same⟩ := laid.again (by decide) readMembers?_skip
    readMembers?_filled (congrArg (List.map memberDetached) ·.symm)
    (fun laid filled => readMembers?_again laid filled each) steps rest enough
  refine ⟨ofMembers ⟨span.octets ++ rest, rest⟩ again, ?_, ?_⟩
  · rw [split, readValue?_object, reads]
    rfl
  · rw [detached_ofMembers, detached_ofMembers, same, Span.detached, Span.octets_of_append]
    rfl

theorem steps_of_cons {octet : UInt8} {more : List UInt8} {steps : Nat}
    (enough : 2 * (octet :: more).length ≤ steps) : ∃ fewer, steps = fewer + 1 := by
  rw [List.length_cons] at enough
  exact Nat.exists_eq_add_one.mpr (by omega)

private theorem readBack_word {word : List UInt8} {octet : UInt8} {document : Document}
    (source : document.source = octet :: word)
    (reads : ∀ steps input, readValue? (steps + 1) (octet :: input) =
      (after? word input).map (document, ·)) : ReadBack document := by
  intro steps rest enough _
  rw [source] at enough ⊢
  obtain ⟨steps, rfl⟩ := steps_of_cons enough
  have found : after? word (word ++ rest) = some rest := after?_eq_some.mpr rfl
  refine ⟨document, ?_, rfl⟩
  rw [List.cons_append, reads, found]
  rfl

/-- Whatever is spelled is read wherever it stands. -/
theorem Spelled.readBack {document : Document} (spelled : Spelled document) : ReadBack document := by
  induction spelled with
  | null => exact readBack_word octets_null fun _ _ => rfl
  | bool value =>
    cases value
    · exact readBack_word octets_false fun _ _ => rfl
    · exact readBack_word octets_true fun _ _ => rfl
  | @number span literal read =>
    intro steps rest enough stops
    obtain ⟨source, split, opens, again⟩ := NumberLiteral.read?_split read
    rw [List.append_nil] at split
    rw [source_ofNumber, split] at enough ⊢
    obtain ⟨octet, more, rfl, first⟩ := opens
    obtain ⟨steps, rfl⟩ := steps_of_cons enough
    have special : octet ∉ [110, 116, 102, 34, 91, 123] := by
      rcases first with rfl | digit
      · decide
      · intro special
        simp only [List.mem_cons, List.not_mem_nil, or_false] at special
        rcases special with rfl | rfl | rfl | rfl | rfl | rfl <;> cases digit
    have reads := again rest stops
    refine ⟨ofNumber ⟨octet :: more ++ rest, rest⟩ literal.value?, ?_, ?_⟩
    · rw [List.cons_append] at reads ⊢
      rw [readValue?_number steps _ special, reads]
      rfl
    · rw [detached_ofNumber, detached_ofNumber, Span.detached, Span.octets_of_append, ← split]
      rfl
  | @string span value named =>
    intro steps rest enough _
    obtain ⟨source, pieces, text, read, rfl⟩ := named
    rw [source_ofString, text] at enough ⊢
    obtain ⟨steps, rfl⟩ := steps_of_cons enough
    obtain ⟨spelled, split, again⟩ := pieces?_split read
    rw [List.append_nil] at split
    subst split
    refine ⟨ofString ⟨34 :: source ++ rest, rest⟩ (decoded? pieces), ?_, ?_⟩
    · rw [List.cons_append, readValue?_quote, again rest]
      rfl
    · rw [detached_ofString, detached_ofString, Span.detached, Span.octets_of_append, ← text]
      rfl
  | array each laid ih =>
    exact readBack_array (fun item inside => ⟨(each item inside).opens, ih item inside⟩) laid
  | object each laid ih =>
    exact readBack_object (fun member inside => ⟨(each member inside).opens, ih member inside⟩) laid

/-- A document with blanks around it is read again as what it is. -/
theorem Spelled.reread {document : Document} {input : List UInt8} (spelled : Spelled document)
    (padded : Padded document.source input) :
    ∃ again, ofOctets? input = some again ∧ again.detached = document.detached := by
  obtain ⟨before, after, blankBefore, blankAfter, rfl⟩ := padded
  have stops : NumberLiteral.Stops after := by
    have padding := stops_of_padding blankAfter NumberLiteral.stops_nil
    rwa [List.append_nil] at padding
  obtain ⟨again, read, same⟩ := spelled.readBack
    (2 * (before ++ document.source ++ after).length + 2) after (by simp; omega) stops
  refine ⟨again, ?_, same⟩
  have skipped : skipBlanks (before ++ document.source ++ after) = document.source ++ after := by
    rw [List.append_assoc, skipBlanks_append blankBefore, skipBlanks_opens spelled.opens]
  simp only [ofOctets?, skipped, read, Option.bind_eq_bind, Option.bind_some,
    skipBlanks_blank blankAfter]
  rfl

/-! What is written is spelled -/

theorem spelled_ofItems {items : List Document} (each : ∀ item ∈ items, Spelled item) :
    Spelled (ofItems items) := by
  refine .array each ?_
  rw [Span.octets_alone]
  cases items with
  | nil => exact .inl ⟨rfl, [], blank_nil, rfl⟩
  | cons item rest =>
    refine .inr ⟨List.cons_ne_nil _ _, _, ?_, rfl⟩
    rw [List.forall₂_map_right_iff]
    exact List.forall₂_same.mpr fun item _ => padded_self item.source

private theorem names_quoted (name : String) : Names (octets (Json.quoted name)) (some name) := by
  obtain ⟨source, text, pieces, read, decoded⟩ := octets_quoted name
  exact ⟨source, pieces, text, read, decoded⟩

private theorem ofMembers_named (span : Span) (fields : List (String × Document)) :
    ofMembers span (fields.map fun (name, value) => (some name, value)) = object span fields := by
  have named : (fields.map fun (name, value) => (some name, value)).mapM named? = some fields := by
    induction fields with
    | nil => rfl
    | cons first rest ih =>
      rw [List.map_cons, List.mapM_cons, ih]
      rfl
  rw [ofMembers_eq, named]

theorem spelled_ofFields {fields : List (String × Document)}
    (each : ∀ entry ∈ fields, Spelled entry.2) : Spelled (ofFields fields) := by
  rw [ofFields, ← ofMembers_named]
  refine .object ?_ ?_
  · intro member inside
    obtain ⟨entry, there, rfl⟩ := List.mem_map.mp inside
    exact each entry there
  · rw [Span.octets_alone]
    cases fields with
    | nil => exact .inl ⟨rfl, [], blank_nil, rfl⟩
    | cons first rest =>
      refine .inr ⟨List.cons_ne_nil _ _, _, ?_, rfl⟩
      rw [List.forall₂_map_left_iff, List.forall₂_map_right_iff]
      refine List.forall₂_same.mpr fun entry _ => ?_
      exact ⟨_, _, _, rfl, padded_self _, names_quoted entry.1, padded_self _⟩

end Document

/-- A value whose numbers are read as they are written. -/
inductive Json.Legible : Json → Prop where
  | null : Legible .null
  | bool (value : Bool) : Legible (.bool value)
  | number {value : Number} (rereads : value.Rereads) : Legible (.number value)
  | string (value : String) : Legible (.string value)
  | array {items : List Json} (each : ∀ item ∈ items, Legible item) : Legible (.array items)
  | object {fields : Fields Json} (each : ∀ entry ∈ fields, Legible entry.2) : Legible (.object fields)

namespace Document

theorem mem_itemsOfJson {items : List Json} {document : Document}
    (member : document ∈ itemsOfJson items) : ∃ item ∈ items, document = ofJson item := by
  induction items with
  | nil => cases member
  | cons item rest ih =>
    rcases List.mem_cons.mp member with rfl | later
    · exact ⟨item, List.mem_cons_self, rfl⟩
    · obtain ⟨other, inside, same⟩ := ih later
      exact ⟨other, List.mem_cons_of_mem _ inside, same⟩

theorem mem_fieldsOfJson {fields : Fields Json} {entry : String × Document}
    (member : entry ∈ fieldsOfJson fields) :
    ∃ field ∈ fields, entry = (field.1, ofJson field.2) := by
  induction fields with
  | nil => cases member
  | cons field rest ih =>
    rcases List.mem_cons.mp member with rfl | later
    · exact ⟨field, List.mem_cons_self, rfl⟩
    · obtain ⟨other, inside, same⟩ := ih later
      exact ⟨other, List.mem_cons_of_mem _ inside, same⟩

theorem spelled_ofJson {value : Json} (legible : value.Legible) : Spelled (ofJson value) := by
  induction legible with
  | null => exact .null
  | bool value => exact .bool value
  | @number value rereads =>
    obtain ⟨literal, read, same⟩ := rereads
    have spelled : Spelled (ofNumber (alone value.text) literal.value?) := by
      refine .number ?_
      rw [alone, Span.octets_alone]
      exact read
    rw [same] at spelled
    exact spelled
  | string value =>
    have named : Names (alone (Json.quoted value)).octets (some value) := by
      rw [alone, Span.octets_alone]
      exact names_quoted value
    exact .string named
  | array _ ih =>
    refine spelled_ofItems fun document member => ?_
    obtain ⟨item, inside, rfl⟩ := mem_itemsOfJson member
    exact ih item inside
  | object _ ih =>
    refine spelled_ofFields fun entry member => ?_
    obtain ⟨field, inside, rfl⟩ := mem_fieldsOfJson member
    exact ih field inside

/-! Texts -/

private theorem octets_intercalate (parts : List String) :
    octets (",".intercalate parts) = [44].intercalate (parts.map octets) := by
  have comma : octets "," = [44] := by decide +kernel
  induction parts with
  | nil => rw [String.intercalate_nil]; decide +kernel
  | cons part rest ih =>
    cases rest with
    | nil => rw [String.intercalate_singleton, List.map_cons, List.map_nil, intercalate_one]
    | cons next rest =>
      rw [String.intercalate_cons_cons, octets_append, octets_append, comma, ih]
      simp only [List.map_cons]
      rw [intercalate_cons (List.cons_ne_nil (octets next) (rest.map octets)), List.append_assoc]
      rfl

private theorem octets_bracketed {opening closing : String} {first last : UInt8}
    (parts : List String) (opens : octets opening = [first]) (closes : octets closing = [last]) :
    octets (Json.bracketed opening closing parts) = bracketed first last (parts.map octets) := by
  rw [Json.bracketed, octets_append, octets_append, opens, closes, octets_intercalate]
  rfl

private theorem octets_bracket : octets "[" = [91] ∧ octets "]" = [93] := by decide +kernel

private theorem octets_brace : octets "\x7b" = [123] ∧ octets "\x7d" = [125] := by decide +kernel

private theorem octets_colon : octets ":" = [58] := by decide +kernel

mutual

theorem octets_text (value : Json) : octets value.text = (ofJson value).source := by
  cases value with
  | null => rfl
  | bool value => cases value <;> rfl
  | number value => rw [ofJson, source, alone, Span.octets_alone, Json.text]
  | string value => rw [ofJson, source, alone, Span.octets_alone, Json.text]
  | array items =>
    rw [Json.text, octets_bracketed _ octets_bracket.1 octets_bracket.2, octets_itemTexts, ofJson,
      ofItems, source, Span.octets_alone]
  | object fields =>
    rw [Json.text, octets_bracketed _ octets_brace.1 octets_brace.2, octets_fieldTexts, ofJson,
      ofFields, source, Span.octets_alone]

theorem octets_itemTexts (items : List Json) :
    (Json.itemTexts items).map octets = (itemsOfJson items).map source := by
  cases items with
  | nil => rfl
  | cons item rest =>
    rw [Json.itemTexts, List.map_cons, octets_text item, octets_itemTexts rest]
    rfl

theorem octets_fieldTexts (fields : List (String × Json)) :
    (Json.fieldTexts fields).map octets = (fieldsOfJson fields).map fun (name, value) =>
      octets (Json.quoted name) ++ 58 :: value.source := by
  cases fields with
  | nil => rfl
  | cons field rest =>
    obtain ⟨name, value⟩ := field
    rw [Json.fieldTexts, List.map_cons, octets_append, octets_append, octets_colon,
      octets_text value, octets_fieldTexts rest, fieldsOfJson, List.map_cons]
    simp

end

/-- Octets that are the octets of a text. -/
def Textual (source : List UInt8) : Prop := ∃ text, source = octets text

theorem textual_ofJson (value : Json) : Textual (ofJson value).source :=
  ⟨value.text, (octets_text value).symm⟩

private theorem textual_map {parts : List (List UInt8)} (each : ∀ part ∈ parts, Textual part) :
    ∃ texts : List String, parts = texts.map octets := by
  induction parts with
  | nil => exact ⟨[], rfl⟩
  | cons part rest ih =>
    obtain ⟨⟨text, rfl⟩, later⟩ := List.forall_mem_cons.mp each
    obtain ⟨texts, rfl⟩ := ih later
    exact ⟨text :: texts, rfl⟩

theorem textual_ofItems {items : List Document} (each : ∀ item ∈ items, Textual item.source) :
    Textual (ofItems items).source := by
  obtain ⟨texts, same⟩ : ∃ texts : List String, items.map source = texts.map octets := by
    refine textual_map fun part member => ?_
    obtain ⟨item, inside, rfl⟩ := List.mem_map.mp member
    exact each item inside
  refine ⟨Json.bracketed "[" "]" texts, ?_⟩
  rw [octets_bracketed _ octets_bracket.1 octets_bracket.2, ← same, ofItems, source,
    Span.octets_alone]

theorem textual_ofFields {fields : List (String × Document)}
    (each : ∀ entry ∈ fields, Textual entry.2.source) : Textual (ofFields fields).source := by
  obtain ⟨texts, same⟩ : ∃ texts : List String, (fields.map fun (name, value) =>
      octets (Json.quoted name) ++ 58 :: value.source) = texts.map octets := by
    refine textual_map fun part member => ?_
    obtain ⟨⟨name, value⟩, inside, rfl⟩ := List.mem_map.mp member
    obtain ⟨text, same⟩ := each (name, value) inside
    refine ⟨Json.quoted name ++ ":" ++ text, ?_⟩
    rw [octets_append, octets_append, octets_colon, ← same, List.append_assoc]
    rfl
  refine ⟨Json.bracketed "\x7b" "\x7d" texts, ?_⟩
  rw [octets_bracketed _ octets_brace.1 octets_brace.2, ← same, ofFields, source,
    Span.octets_alone]

theorem text?_of_textual {document : Document} (textual : Textual document.source) :
    ∃ text, document.text? = some text ∧ octets text = document.source := by
  obtain ⟨text, same⟩ := textual
  refine ⟨text, ?_, same.symm⟩
  rw [text?, same, fromUTF8?_octets]

end Document

end LiveCompile
