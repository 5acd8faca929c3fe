import LiveCompile.Json.Document

/-! The literals of a JSON text. A literal at the start of an input is read from its own octets,
whatever follows it as long as nothing that follows could belong to it. An integer of 64 bits and a
text are read as they are written. -/

namespace LiveCompile

open Document

/-! Octets of a text -/

namespace Document

private theorem byteArray_toList (bytes : ByteArray) : bytes.toList = bytes.data.toList := by
  have loop : ∀ place found, ByteArray.toList.loop bytes place found =
      found.reverse ++ bytes.data.toList.drop place := by
    intro place found
    fun_induction ByteArray.toList.loop bytes place found with
    | case1 place found inside ih =>
      have bound : place < bytes.data.toList.length := by simpa using inside
      rw [ih, List.drop_eq_getElem_cons bound]
      simp [ByteArray.get!, inside]
    | case2 place found outside =>
      rw [List.drop_eq_nil_of_le (by simpa using Nat.le_of_not_lt outside), List.append_nil]
  rw [ByteArray.toList, loop]
  rfl

theorem octets_append (front back : String) : octets (front ++ back) = octets front ++ octets back := by
  simp [octets, byteArray_toList]

private theorem octets_ofList (characters : List Char) :
    octets (String.ofList characters) = characters.flatMap String.utf8EncodeChar := by
  induction characters with
  | nil => simp [octets, byteArray_toList]
  | cons first rest ih =>
    have here : String.ofList (first :: rest) = String.ofList [first] ++ String.ofList rest := by
      simp [String.ofList_cons]
    have one : octets (String.ofList [first]) = String.utf8EncodeChar first := by
      rw [octets, byteArray_toList, String.toUTF8_eq_toByteArray, String.toByteArray_ofList,
        List.utf8Encode_singleton, List.toList_data_toByteArray]
    rw [here, octets_append, ih, one, List.flatMap_cons]

theorem octets_eq_flatMap (text : String) :
    octets text = text.toList.flatMap String.utf8EncodeChar := by
  rw [← octets_ofList, String.ofList_toList]

theorem fromUTF8?_octets (text : String) : String.fromUTF8? ⟨(octets text).toArray⟩ = some text := by
  have same : (⟨(octets text).toArray⟩ : ByteArray) = text.toByteArray := by
    simp [octets, byteArray_toList]
  rw [same, String.fromUTF8?, dif_pos text.isValidUTF8]
  rfl

theorem octets_of_fromUTF8? {source : List UInt8} {text : String}
    (found : String.fromUTF8? ⟨source.toArray⟩ = some text) : octets text = source := by
  unfold String.fromUTF8? at found
  split at found
  · cases found
    simp [octets, byteArray_toList, String.fromUTF8]
  · cases found

theorem octets_injective : Function.Injective octets := by
  intro first second same
  have read := fromUTF8?_octets first
  rw [same, fromUTF8?_octets second] at read
  exact (Option.some.inj read).symm

private theorem utf8EncodeChar_ascii {c : Char} (ascii : c.toNat < 128) :
    String.utf8EncodeChar c = [UInt8.ofNat c.toNat] := by
  have bound : c.val.toNat ≤ 0x7f := Nat.le_of_lt_succ ascii
  exact if_pos bound

private theorem utf8EncodeChar_wide {c : Char} (wide : 128 ≤ c.toNat) :
    ∀ octet ∈ String.utf8EncodeChar c, 128 ≤ octet.toNat := by
  have range : c.val.toNat < 0x110000 := by
    have valid := c.valid
    simp only [UInt32.isValidChar, Nat.isValidChar] at valid
    omega
  change 128 ≤ c.val.toNat at wide
  simp only [String.utf8EncodeChar]
  generalize c.val.toNat = n at *
  rw [if_neg (by omega)]
  split
  case isTrue => simp; omega
  case isFalse => split <;> (simp; omega)

end Document

/-! Numbers -/

namespace NumberLiteral

def NoDigit (rest : List UInt8) : Prop := ∀ octet ∈ rest.head?, digit? octet = none

/-- Nothing that could go on a number stands here: no digit, point or exponent mark. -/
def Stops (rest : List UInt8) : Prop :=
  ∀ octet ∈ rest.head?, digit? octet = none ∧ octet ≠ 46 ∧ octet ≠ 101 ∧ octet ≠ 69

theorem Stops.noDigit {rest : List UInt8} (stops : Stops rest) : NoDigit rest :=
  fun octet first => (stops octet first).1

private theorem noDigit_digits (input : List UInt8) : NoDigit (digits input).2 := by
  induction input with
  | nil => simp [digits, NoDigit]
  | cons octet rest ih =>
    unfold digits
    split
    case h_1 => exact ih
    case h_2 none =>
      intro other first
      cases Option.mem_some.mp first
      exact none

private theorem digits_of_noDigit {rest : List UInt8} (stops : NoDigit rest) :
    digits rest = ([], rest) := by
  cases rest with
  | nil => rfl
  | cons octet rest => simp [digits, stops octet rfl]

private theorem digits_split (input : List UInt8) :
    ∃ source, input = source ++ (digits input).2 ∧ source.length = (digits input).1.length ∧
      (∀ octet ∈ source, (digit? octet).isSome) ∧
      ∀ rest, NoDigit rest → digits (source ++ rest) = ((digits input).1, rest) := by
  induction input with
  | nil => exact ⟨[], rfl, rfl, by simp, fun rest stops => digits_of_noDigit stops⟩
  | cons octet rest ih =>
    obtain ⟨source, split, length, each, again⟩ := ih
    cases value : digit? octet with
    | none =>
      have none : digits (octet :: rest) = ([], octet :: rest) := by simp [digits, value]
      rw [none]
      exact ⟨[], rfl, rfl, by simp, fun rest stops => digits_of_noDigit stops⟩
    | some digit =>
      have more : digits (octet :: rest) = (digit :: (digits rest).1, (digits rest).2) := by
        simp [digits, value]
      rw [more]
      refine ⟨octet :: source, by rw [List.cons_append, ← split], by simp [length], ?_, ?_⟩
      · simpa [value] using each
      · intro other stops
        simp [digits, value, again other stops]

private theorem digits1?_split {input rest : List UInt8} {ds : List Nat}
    (found : digits1? input = some (ds, rest)) :
    NoDigit rest ∧ ∃ source, input = source ++ rest ∧
      (∃ octet more, source = octet :: more ∧ (digit? octet).isSome) ∧
      ∀ other, NoDigit other → digits1? (source ++ other) = some (ds, other) := by
  obtain ⟨source, split, length, each, again⟩ := digits_split input
  have stops := noDigit_digits input
  unfold digits1? at found
  generalize digits input = pair at *
  obtain ⟨read, left⟩ := pair
  cases read with
  | nil => cases found
  | cons digit more =>
    cases found
    refine ⟨stops, source, split, ?_, fun other stops => ?_⟩
    · cases source with
      | nil => cases length
      | cons octet rest => exact ⟨octet, rest, rfl, each octet List.mem_cons_self⟩
    · rw [digits1?, again other stops]

private theorem whole?_split {input rest : List UInt8} {ds : List Nat}
    (found : whole? input = some (ds, rest)) :
    NoDigit rest ∧ ∃ source, input = source ++ rest ∧
      (∃ octet more, source = octet :: more ∧ (digit? octet).isSome) ∧
      ∀ other, NoDigit other → whole? (source ++ other) = some (ds, other) := by
  obtain ⟨⟨read, left⟩, digits, found⟩ := Option.bind_eq_some_iff.mp found
  simp only at found
  split at found
  · cases found
  case isFalse plain =>
    cases found
    obtain ⟨stops, source, split, first, again⟩ := digits1?_split digits
    refine ⟨stops, source, split, first, fun other stops => ?_⟩
    simp only [whole?, again other stops, Option.bind_eq_bind, Option.bind_some, if_neg plain]

private theorem fraction?_split {input rest : List UInt8} {fraction : Option (List Nat)}
    (found : fraction? input = some (fraction, rest)) (stops : NoDigit input) :
    NoDigit rest ∧ ∃ source, input = source ++ rest ∧ (∀ octet ∈ source.head?, octet = 46) ∧
      ∀ other, NoDigit other → (source = [] → ∀ octet ∈ other.head?, octet ≠ 46) →
        fraction? (source ++ other) = some (fraction, other) := by
  unfold fraction? at found
  split at found
  case h_1 rest =>
    obtain ⟨⟨ds, left⟩, digits, found⟩ := Option.bind_eq_some_iff.mp found
    cases found
    obtain ⟨stops, source, split, _, again⟩ := digits1?_split digits
    refine ⟨stops, 46 :: source, congrArg _ split, by simp, fun other stops _ => ?_⟩
    simp [fraction?, again other stops]
  case h_2 =>
    cases found
    refine ⟨stops, [], rfl, by simp, fun other _ apart => ?_⟩
    rw [List.nil_append]
    unfold fraction?
    split
    case h_1 => exact absurd rfl (apart rfl 46 rfl)
    case h_2 => rfl

private theorem exponentSign_split (input : List UInt8) :
    ∃ source, input = source ++ (exponentSign input).2 ∧
      ∀ octet more, (digit? octet).isSome → (∃ rest, (exponentSign input).2 = octet :: rest) →
        exponentSign (source ++ octet :: more) = ((exponentSign input).1, octet :: more) := by
  unfold exponentSign
  split
  · exact ⟨[43], rfl, fun _ _ _ _ => rfl⟩
  · exact ⟨[45], rfl, fun _ _ _ _ => rfl⟩
  case h_3 plus minus =>
    refine ⟨[], rfl, fun octet more digit first => ?_⟩
    obtain ⟨rest, same⟩ := first
    have noPlus : octet ≠ 43 := by
      rintro rfl
      exact plus rest same
    have noMinus : octet ≠ 45 := by
      rintro rfl
      exact minus rest same
    rw [List.nil_append]
    split
    · simp_all
    · simp_all
    · rfl

private theorem exponent?_split {input rest : List UInt8} {exponent : Option (Bool × List Nat)}
    (found : exponent? input = some (exponent, rest)) :
    ∃ source, input = source ++ rest ∧ (∀ octet ∈ source.head?, octet = 101 ∨ octet = 69) ∧
      ∀ other, Stops other → exponent? (source ++ other) = some (exponent, other) := by
  cases input with
  | nil =>
    cases found
    refine ⟨[], rfl, by simp, fun other stops => ?_⟩
    cases other with
    | nil => rfl
    | cons octet rest => simp [exponent?, (stops octet rfl).2.2]
  | cons octet rest =>
    simp only [exponent?] at found
    split at found
    case isTrue mark =>
      obtain ⟨⟨ds, left⟩, digits, found⟩ := Option.bind_eq_some_iff.mp found
      cases found
      obtain ⟨sign, signed, signAgain⟩ := exponentSign_split rest
      obtain ⟨_, source, split, ⟨first, more, here, digit⟩, again⟩ := digits1?_split digits
      subst here
      refine ⟨octet :: (sign ++ first :: more), ?_, by simpa using mark, fun other stops => ?_⟩
      · rw [List.cons_append, List.append_assoc, ← split, ← signed]
      · have marked : exponentSign (sign ++ first :: (more ++ other)) =
            ((exponentSign rest).1, first :: (more ++ other)) :=
          signAgain first _ digit ⟨more ++ left, split⟩
        have read := again other stops.noDigit
        rw [List.cons_append] at read
        simp [exponent?, mark, marked, read]
    case isFalse mark =>
      cases found
      refine ⟨[], rfl, by simp, fun other stops => ?_⟩
      cases other with
      | nil => rfl
      | cons octet rest => simp [exponent?, (stops octet rfl).2.2]

def Opens (source : List UInt8) : Prop :=
  ∃ octet more, source = octet :: more ∧ (octet = 45 ∨ (digit? octet).isSome)

private theorem digit?_minus : digit? 45 = none := by decide

/-- A literal after its sign. -/
def unsigned? (negative : Bool) (input : List UInt8) : Option (NumberLiteral × List UInt8) := do
  let (whole, rest) ← whole? input
  let (fraction, rest) ← fraction? rest
  let (exponent, rest) ← exponent? rest
  return (⟨negative, whole, fraction, exponent⟩, rest)

private theorem read?_minus (rest : List UInt8) : read? (45 :: rest) = unsigned? true rest := rfl

private theorem read?_plain {input : List UInt8} (plain : ∀ rest, input ≠ 45 :: rest) :
    read? input = unsigned? false input := by
  unfold read?
  split
  case _ negative start same =>
    split at same
    case h_1 rest => exact absurd rfl (plain rest)
    case h_2 =>
      cases same
      rfl

private theorem read?_digit {octet : UInt8} (digit : (digit? octet).isSome) (rest : List UInt8) :
    read? (octet :: rest) = unsigned? false (octet :: rest) := by
  refine read?_plain fun other same => ?_
  cases same
  rw [digit?_minus] at digit
  cases digit

private theorem unsigned?_split {negative : Bool} {input rest : List UInt8}
    {literal : NumberLiteral} (found : unsigned? negative input = some (literal, rest)) :
    ∃ source, input = source ++ rest ∧
      (∃ octet more, source = octet :: more ∧ (digit? octet).isSome) ∧
      ∀ other, Stops other → unsigned? negative (source ++ other) = some (literal, other) := by
  simp only [unsigned?, Option.bind_eq_bind, Option.bind_eq_some_iff, Option.pure_def,
    Option.some.injEq, Prod.mk.injEq] at found
  obtain ⟨⟨ds, afterWhole⟩, whole, ⟨fraction, afterFraction⟩, fractional, ⟨exponent, left⟩, marked,
    rfl, rfl⟩ := found
  obtain ⟨wholeStops, first, split, opens, again⟩ := whole?_split whole
  obtain ⟨_, second, split', point, again'⟩ := fraction?_split fractional wholeStops
  obtain ⟨third, split'', mark, again''⟩ := exponent?_split marked
  simp only at split' split''
  refine ⟨first ++ (second ++ third), ?_, ?_, fun other stops => ?_⟩
  · rw [split, split', split'', List.append_assoc, List.append_assoc]
  · obtain ⟨octet, more, rfl, digit⟩ := opens
    exact ⟨octet, more ++ (second ++ third), rfl, digit⟩
  · have thirdStops : NoDigit (third ++ other) ∧ ∀ octet ∈ (third ++ other).head?, octet ≠ 46 := by
      cases third with
      | nil => exact ⟨stops.noDigit, fun octet first => (stops octet first).2.1⟩
      | cons octet more =>
        have exponential := mark octet rfl
        constructor <;>
          · intro other first
            cases Option.mem_some.mp first
            rcases exponential with rfl | rfl <;> decide
    have secondStops : NoDigit (second ++ (third ++ other)) := by
      cases second with
      | nil => exact thirdStops.1
      | cons octet more =>
        intro other first
        cases Option.mem_some.mp first
        rw [point octet rfl]
        decide
    rw [List.append_assoc, List.append_assoc]
    simp [unsigned?, again _ secondStops, again' _ thirdStops.1 fun _ => thirdStops.2,
      again'' other stops]

theorem read?_split {input rest : List UInt8} {literal : NumberLiteral}
    (found : read? input = some (literal, rest)) :
    ∃ source, input = source ++ rest ∧ Opens source ∧
      ∀ other, Stops other → read? (source ++ other) = some (literal, other) := by
  by_cases minus : ∃ start, input = 45 :: start
  · obtain ⟨start, rfl⟩ := minus
    obtain ⟨source, split, _, again⟩ := unsigned?_split found
    exact ⟨45 :: source, congrArg _ split, ⟨45, source, rfl, .inl rfl⟩, again⟩
  · have plain := read?_plain fun rest same => minus ⟨rest, same⟩
    obtain ⟨source, split, ⟨octet, more, rfl, digit⟩, again⟩ := unsigned?_split (plain ▸ found)
    refine ⟨octet :: more, split, ⟨octet, more, rfl, .inr digit⟩, fun other stops => ?_⟩
    rw [List.cons_append, read?_digit digit]
    exact again other stops

theorem stops_nil : Stops [] := by simp [Stops]

/-! Integers as they are written -/

private theorem utf8EncodeChar_digit {c : Char} (digit : c.isDigit) :
    ∃ octet, String.utf8EncodeChar c = [octet] ∧ digit? octet = some (c.toNat - 48) := by
  simp only [Char.isDigit, Bool.and_eq_true, decide_eq_true_eq] at digit
  have low : 48 ≤ c.toNat := digit.1
  have high : c.toNat ≤ 57 := digit.2
  have same : (UInt8.ofNat c.toNat).toNat = c.toNat := by
    rw [UInt8.toNat_ofNat']
    omega
  refine ⟨_, utf8EncodeChar_ascii (by omega), ?_⟩
  simp [digit?, UInt8.le_iff_toNat_le, same, low, high]

private theorem digits_of_characters {characters : List Char} (each : ∀ c ∈ characters, c.isDigit)
    {rest : List UInt8} (stops : NoDigit rest) :
    digits (characters.flatMap String.utf8EncodeChar ++ rest) =
      (characters.map (·.toNat - 48), rest) := by
  induction characters with
  | nil => exact digits_of_noDigit stops
  | cons first more ih =>
    obtain ⟨here, later⟩ := List.forall_mem_cons.mp each
    obtain ⟨octet, encoded, digit⟩ := utf8EncodeChar_digit here
    simp [encoded, digits, digit, ih later]

private theorem head_toDigits {n : Nat} (positive : 0 < n) :
    (Nat.toDigits 10 n).head? ≠ some '0' := by
  induction n using Nat.strongRecOn with
  | ind n ih =>
    by_cases small : n < 10
    · have digits : ∀ n, n < 10 → 0 < n → [n.digitChar].head? ≠ some '0' := by decide
      rw [Nat.toDigits_of_lt_base small]
      exact digits n small positive
    · rw [Nat.toDigits_of_base_le (by decide) (Nat.le_of_not_lt small)]
      have front := ih (n / 10) (by omega) (by omega)
      cases digits : Nat.toDigits 10 (n / 10) with
      | nil => exact absurd digits Nat.toDigits_ne_nil
      | cons first rest => rwa [digits] at front

/-- The number that digits stand for, after others. -/
def fold (significand : Nat) (ds : List Nat) : Nat :=
  ds.foldl (fun value d => value * 10 + d) significand

private theorem le_fold (significand : Nat) (ds : List Nat) :
    significand ≤ fold significand ds := by
  induction ds generalizing significand with
  | nil => exact Nat.le_refl _
  | cons d rest ih => exact Nat.le_trans (by omega) (ih (significand * 10 + d))

private theorem append_of_le {significand : Nat} {ds : List Nat}
    (fits : fold significand ds ≤ maxSignificand) :
    append significand ds = (fold significand ds, 0) := by
  induction ds generalizing significand with
  | nil => rfl
  | cons d rest ih =>
    have here : significand * 10 + d ≤ maxSignificand := Nat.le_trans (le_fold _ rest) fits
    rw [append, if_pos here, ih fits]
    rfl

private theorem append_toDigits {n : Nat} (fits : n ≤ maxSignificand) :
    append 0 ((Nat.toDigits 10 n).map (·.toNat - 48)) = (n, 0) := by
  have value : fold 0 ((Nat.toDigits 10 n).map (·.toNat - 48)) = n := by
    rw [fold, List.foldl_map]
    simpa [Nat.ofDigitChars_eq_foldl, Nat.mul_comm] using Nat.ofDigitChars_ten_toDigits (n := n)
  rw [append_of_le (value.symm ▸ fits), value]

theorem isDigit_toDigits {n : Nat} : ∀ c ∈ Nat.toDigits 10 n, c.isDigit :=
  fun _ member => Nat.isDigit_of_mem_toDigits (by decide) (by decide) member

private theorem octets_repr (n : Nat) :
    octets (Nat.repr n) = (Nat.toDigits 10 n).flatMap String.utf8EncodeChar := by
  rw [octets_eq_flatMap, Nat.toList_repr]

private theorem whole?_repr (n : Nat) {rest : List UInt8} (stops : NoDigit rest) :
    whole? (octets (Nat.repr n) ++ rest) =
      some ((Nat.toDigits 10 n).map (·.toNat - 48), rest) := by
  have read := digits_of_characters (isDigit_toDigits (n := n)) stops
  rw [← octets_repr] at read
  have plain : ¬ (((Nat.toDigits 10 n).map (·.toNat - 48)).head? = some 0 ∧
      ((Nat.toDigits 10 n).map (·.toNat - 48)).length > 1) := by
    rintro ⟨zero, long⟩
    have positive : 0 < n := by
      refine Nat.pos_of_ne_zero fun none => ?_
      subst none
      simp at long
    rw [List.head?_map, Option.map_eq_some_iff] at zero
    obtain ⟨c, first, zero⟩ := zero
    have digit := isDigit_toDigits c (List.mem_of_mem_head? first)
    simp only [Char.isDigit, Bool.and_eq_true, decide_eq_true_eq] at digit
    have low : 48 ≤ c.toNat := digit.1
    have same : c = '0' := Char.toNat_inj.mp (by show c.toNat = 48; omega)
    exact head_toDigits positive (same ▸ first)
  have filled : (Nat.toDigits 10 n).map (·.toNat - 48) ≠ [] := by simp [Nat.toDigits_ne_nil]
  generalize (Nat.toDigits 10 n).map (·.toNat - 48) = ds at *
  cases ds with
  | nil => exact absurd rfl filled
  | cons d more =>
    simp only [whole?, digits1?, read, Option.bind_eq_bind, Option.bind_some, if_neg plain]

private theorem unsigned?_repr (negative : Bool) (n : Nat) :
    unsigned? negative (octets (Nat.repr n)) =
      some (⟨negative, (Nat.toDigits 10 n).map (·.toNat - 48), none, none⟩, []) := by
  have whole := whole?_repr n stops_nil.noDigit
  rw [List.append_nil] at whole
  rw [unsigned?, whole]
  rfl

end NumberLiteral

namespace Number

open NumberLiteral

/-- The text of a number is read as that number. -/
def Rereads (number : Number) : Prop :=
  ∃ literal, NumberLiteral.read? (octets number.text) = some (literal, []) ∧
    literal.value? = some number

theorem rereads_int {value : Int} (least : -9223372036854775808 ≤ value)
    (greatest : value ≤ 18446744073709551615) : Rereads (.int value) := by
  cases value with
  | ofNat n =>
    have fits : n ≤ maxSignificand := by
      have bound : (n : Int) ≤ 18446744073709551615 := greatest
      show n ≤ 2 ^ 64 - 1
      omega
    have plain : ∀ rest, octets (Nat.repr n) ≠ 45 :: rest := by
      intro rest same
      have whole := whole?_repr n stops_nil.noDigit
      rw [same] at whole
      cases whole
    refine ⟨_, (read?_plain plain).trans (unsigned?_repr false n), ?_⟩
    simp [NumberLiteral.value?, append_toDigits fits]
  | negSucc m =>
    have fits : m + 1 ≤ 2 ^ 63 := by omega
    have text : octets (Number.int (.negSucc m)).text = 45 :: octets (Nat.repr (m + 1)) := by
      have spelled : (Number.int (.negSucc m)).text = "-" ++ Nat.repr (m + 1) := rfl
      rw [spelled, octets_append]
      simp [octets_eq_flatMap, utf8EncodeChar_ascii]
    refine ⟨_, by rw [text, read?_minus, unsigned?_repr], ?_⟩
    have small : ¬ (m + 1 = 0 ∨ m + 1 > Nat.pow 2 63) := by
      rintro (zero | great)
      · omega
      · exact absurd great (Nat.not_lt.mpr fits)
    have value : append 0 ((Nat.toDigits 10 (m + 1)).map (·.toNat - 48)) = (m + 1, 0) :=
      append_toDigits (Nat.le_trans fits (by decide))
    simp only [NumberLiteral.value?, value, Bool.not_true, Bool.false_eq_true, if_false, if_neg small]
    rfl

end Number

/-! Strings -/

namespace Document

section
variable {octet letter : UInt8} {rest : List UInt8} {pieces : List Piece}

private theorem pieces?_escape (short : letter ≠ 117) : pieces? (92 :: letter :: rest) = do
    let octet ← shortEscape? letter
    let (more, rest) ← pieces? rest
    return (.octet octet :: more, rest) := by
  rw [pieces?]
  intro a b c d rest unit
  exact absurd unit short

private theorem pieces?_octet (control : ¬ octet < 32) (quote : octet ≠ 34) (escape : octet ≠ 92) :
    pieces? (octet :: rest) =
      (pieces? rest).map fun (more, rest) => (.octet octet :: more, rest) := by
  rw [pieces?]
  · simp only [control, escape, decide_false, Bool.or_self, Bool.false_eq_true, if_false]
    cases pieces? rest <;> rfl
  · exact quote
  · intro a b c d rest same
    exact absurd same escape
  · intro letter rest same
    exact absurd same escape

theorem pieces?_split {input : List UInt8} (found : pieces? input = some (pieces, rest)) :
    ∃ source, input = source ++ rest ∧
      ∀ other, pieces? (source ++ other) = some (pieces, other) := by
  fun_induction pieces? input generalizing pieces rest with
  | case1 => cases found
  | case2 =>
    cases found
    exact ⟨[34], rfl, fun _ => rfl⟩
  | case3 a b c d input ih =>
    simp only [Option.bind_eq_bind, Option.bind_eq_some_iff, Option.pure_def, Option.some.injEq,
      Prod.mk.injEq] at found
    obtain ⟨first, one, second, two, third, three, fourth, four, ⟨more, left⟩, inner, rfl, rfl⟩ := found
    obtain ⟨source, rfl, again⟩ := ih inner
    refine ⟨92 :: 117 :: a :: b :: c :: d :: source, rfl, fun other => ?_⟩
    simp [pieces?, one, two, three, four, again]
  | case4 letter input noUnit ih =>
    simp only [Option.bind_eq_bind, Option.bind_eq_some_iff, Option.pure_def, Option.some.injEq,
      Prod.mk.injEq] at found
    obtain ⟨octet, short, ⟨more, left⟩, inner, rfl, rfl⟩ := found
    obtain ⟨source, rfl, again⟩ := ih inner
    have different : letter ≠ 117 := by
      rintro rfl
      cases short
    refine ⟨92 :: letter :: source, rfl, fun other => ?_⟩
    simp [pieces?_escape different, short, again]
  | case5 => cases found
  | case6 octet input quote _ _ control ih =>
    simp only [Option.bind_eq_bind, Option.bind_eq_some_iff, Option.pure_def, Option.some.injEq,
      Prod.mk.injEq] at found
    obtain ⟨⟨more, left⟩, inner, rfl, rfl⟩ := found
    obtain ⟨source, rfl, again⟩ := ih inner
    simp only [Bool.or_eq_true, decide_eq_true_eq, not_or] at control
    refine ⟨octet :: source, rfl, fun other => ?_⟩
    rw [List.cons_append, pieces?_octet control.1 quote control.2, again other]
    rfl

end

/-! Texts as they are written -/

def escapedOctets (c : Char) : List UInt8 := (Json.escapedChar c).flatMap String.utf8EncodeChar

/-- The pieces that a character is read as. -/
def piecesOf (c : Char) : List Piece :=
  if c.toNat < 32 ∧ c ∉ ['\x08', '\x0c', '\n', '\r', '\t'] then [.unit c.toNat]
  else (String.utf8EncodeChar c).map .octet

private theorem pieces?_octets {source : List UInt8}
    (each : ∀ octet ∈ source, ¬ octet < 32 ∧ octet ≠ 34 ∧ octet ≠ 92) (rest : List UInt8) :
    pieces? (source ++ rest) =
      (pieces? rest).map fun (more, rest) => (source.map .octet ++ more, rest) := by
  induction source with
  | nil => cases found : pieces? rest <;> simp [found]
  | cons octet source ih =>
    obtain ⟨⟨control, quote, escape⟩, later⟩ := List.forall_mem_cons.mp each
    rw [List.cons_append, pieces?_octet control quote escape, ih later, Option.map_map]
    rfl

private theorem hexValue?_hexDigit : ∀ n < 16, (Json.hexDigit n).toNat < 128 ∧
    hexValue? (UInt8.ofNat (Json.hexDigit n).toNat) = some n := by
  decide

private theorem plain_octets {c : Char} (control : ¬ c.toNat < 32) (quote : c ≠ '"')
    (escape : c ≠ '\\') :
    ∀ octet ∈ String.utf8EncodeChar c, ¬ octet < 32 ∧ octet ≠ 34 ∧ octet ≠ 92 := by
  intro octet member
  simp only [UInt8.lt_iff_toNat_lt, ne_eq, ← UInt8.toNat_inj]
  by_cases ascii : c.toNat < 128
  · rw [utf8EncodeChar_ascii ascii] at member
    obtain rfl := List.mem_singleton.mp member
    have same : (UInt8.ofNat c.toNat).toNat = c.toNat := by
      rw [UInt8.toNat_ofNat']
      omega
    rw [same]
    refine ⟨control, fun same => quote ?_, fun same => escape ?_⟩ <;>
      exact Char.toNat_inj.mp same
  · have wide := utf8EncodeChar_wide (Nat.le_of_not_lt ascii) octet member
    refine ⟨?_, ?_, ?_⟩ <;> (simp; omega)

private theorem pieces?_escaped (c : Char) (rest : List UInt8) :
    pieces? (escapedOctets c ++ rest) =
      (pieces? rest).map fun (more, rest) => (piecesOf c ++ more, rest) := by
  have short : ∀ letter octet : UInt8, letter ≠ 117 → shortEscape? letter = some octet →
      pieces? ([92, letter] ++ rest) =
        (pieces? rest).map fun (more, rest) => ([.octet octet] ++ more, rest) := by
    intro letter octet different found
    rw [List.cons_append, List.cons_append, List.nil_append, pieces?_escape different, found]
    cases pieces? rest <;> rfl
  unfold escapedOctets Json.escapedChar
  split
  · exact short 34 34 (by decide) rfl
  · exact short 92 92 (by decide) rfl
  · exact short 98 8 (by decide) rfl
  · exact short 102 12 (by decide) rfl
  · exact short 110 10 (by decide) rfl
  · exact short 114 13 (by decide) rfl
  · exact short 116 9 (by decide) rfl
  case h_8 quote escape backspace feed line carriage tab =>
    by_cases control : c.toNat < 32
    · obtain ⟨highAscii, highValue⟩ := hexValue?_hexDigit (c.toNat / 16) (by omega)
      obtain ⟨lowAscii, lowValue⟩ := hexValue?_hexDigit (c.toNat % 16) (by omega)
      have octets : ['\\', 'u', '0', '0', Json.hexDigit (c.toNat / 16),
          Json.hexDigit (c.toNat % 16)].flatMap String.utf8EncodeChar =
            [92, 117, 48, 48, UInt8.ofNat (Json.hexDigit (c.toNat / 16)).toNat,
              UInt8.ofNat (Json.hexDigit (c.toNat % 16)).toNat] := by
        simp [utf8EncodeChar_ascii, highAscii, lowAscii]
      have zero : hexValue? 48 = some 0 := rfl
      have unit : piecesOf c = [.unit c.toNat] := by
        refine if_pos ⟨control, ?_⟩
        simpa using ⟨backspace, feed, line, carriage, tab⟩
      have value : c.toNat / 16 * 16 + c.toNat % 16 = c.toNat := by omega
      rw [if_pos control, octets, unit]
      simp [pieces?, zero, highValue, lowValue, value]
      cases pieces? rest <;> rfl
    · have plain : piecesOf c = (String.utf8EncodeChar c).map .octet :=
        if_neg fun both => control both.1
      rw [if_neg control, plain, List.flatMap_singleton]
      exact pieces?_octets (plain_octets control quote escape) rest

private theorem encoded?_octets (source : List UInt8) (pieces : List Piece) :
    encoded? (source.map .octet ++ pieces) = (encoded? pieces).map (source ++ ·) := by
  induction source with
  | nil => cases found : encoded? pieces <;> simp [found]
  | cons octet source ih =>
    rw [List.map_cons, List.cons_append, encoded?, ih, Option.map_map]
    rfl

private theorem encoded?_piecesOf (c : Char) (pieces : List Piece) :
    encoded? (piecesOf c ++ pieces) = (encoded? pieces).map (String.utf8EncodeChar c ++ ·) := by
  unfold piecesOf
  split
  case isTrue control =>
    have high : isHighSurrogate c.toNat = false := by simp [isHighSurrogate]; omega
    have low : isLowSurrogate c.toNat = false := by simp [isLowSurrogate]; omega
    rw [List.cons_append, List.nil_append]
    rcases pieces with _ | ⟨piece, rest⟩
    · simp [encoded?, high, low, Char.ofNat_toNat]
    · cases piece <;> simp [encoded?, high, low, Char.ofNat_toNat]
  case isFalse => exact encoded?_octets _ pieces

theorem octets_quoted (text : String) : ∃ source, octets (Json.quoted text) = 34 :: source ∧
    ∃ pieces, pieces? source = some (pieces, []) ∧ decoded? pieces = some text := by
  refine ⟨text.toList.flatMap escapedOctets ++ [34], ?_, text.toList.flatMap piecesOf, ?_, ?_⟩
  · have quote : octets "\"" = [34] := by simp [octets_eq_flatMap, utf8EncodeChar_ascii]
    rw [Json.quoted, octets_append, octets_append, quote, octets_ofList, List.flatMap_assoc]
    rfl
  · generalize text.toList = characters
    induction characters with
    | nil => rfl
    | cons c rest ih => simp [pieces?_escaped, ih]
  · have encoded : encoded? (text.toList.flatMap piecesOf) = some (octets text) := by
      rw [octets_eq_flatMap]
      generalize text.toList = characters
      induction characters with
      | nil => rfl
      | cons c rest ih => simp [encoded?_piecesOf, ih]
    simp [decoded?, encoded, fromUTF8?_octets]

end Document

end LiveCompile
