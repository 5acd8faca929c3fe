import LiveCompile.Proofs.JsonLiterals

/-! A value is written on one line: control characters are escaped where they stand in a string, and
nothing else that is written has one. -/

namespace LiveCompile

/-- A text without control characters. -/
def Plain (text : String) : Prop := ∀ c ∈ text.toList, 32 ≤ c.toNat

instance (text : String) : Decidable (Plain text) :=
  decidable_of_iff (text.toList.all fun c => 32 ≤ c.toNat) (by simp [Plain])

theorem Plain.append {front back : String} (first : Plain front) (second : Plain back) :
    Plain (front ++ back) := by
  intro c member
  rw [String.toList_append, List.mem_append] at member
  exact member.elim (first c) (second c)

theorem Plain.choose {first second : String} {condition : Prop} [Decidable condition]
    (yes : Plain first) (no : Plain second) : Plain (if condition then first else second) := by
  split
  · exact yes
  · exact no

private theorem plain_ofList {characters : List Char} (each : ∀ c ∈ characters, 32 ≤ c.toNat) :
    Plain (String.ofList characters) := by
  intro c member
  rw [String.toList_ofList] at member
  exact each c member

private theorem plain_repr (n : Nat) : Plain (Nat.repr n) := by
  intro c member
  rw [Nat.toList_repr] at member
  have digit := NumberLiteral.isDigit_toDigits c member
  simp only [Char.isDigit, Bool.and_eq_true, decide_eq_true_eq] at digit
  have low : 48 ≤ c.toNat := digit.1
  omega

private theorem plain_zeros (count : Nat) : Plain (Number.zeros count) := by
  refine plain_ofList fun c member => ?_
  rw [List.eq_of_mem_replicate member]
  decide

namespace Number

private theorem plain_magnitude (decimal : Binary64.Decimal) :
    Plain (floatFormat.text decimal) := by
  have digits := plain_repr decimal.digits
  have taken (count : Nat) : Plain (String.ofList ((Nat.repr decimal.digits).toList.take count)) :=
    plain_ofList fun c member => digits c (List.mem_of_mem_take member)
  have dropped (count : Nat) : Plain (String.ofList ((Nat.repr decimal.digits).toList.drop count)) :=
    plain_ofList fun c member => digits c (List.mem_of_mem_drop member)
  have all : Plain (String.ofList (Nat.repr decimal.digits).toList) := plain_ofList digits
  have marks : Plain ".0" ∧ Plain "." ∧ Plain "0." ∧ Plain "" ∧ Plain "e" ∧ Plain "+" ∧ Plain "-" := by
    decide +kernel
  obtain ⟨integral, point, zeroPoint, empty, exponent, plus, minus⟩ := marks
  have whole := (all.append (plain_zeros decimal.exponent.toNat)).append integral
  have parted (count : Nat) := ((taken count).append point).append (dropped count)
  have small (count : Nat) := (zeroPoint.append (plain_zeros count)).append all
  have fraction : Plain (if ((Nat.repr decimal.digits).toList.drop 1).isEmpty then "" else
      "." ++ String.ofList ((Nat.repr decimal.digits).toList.drop 1)) :=
    empty.choose (point.append (dropped 1))
  have mantissa := ((taken 1).append fraction).append exponent
  apply Plain.choose
  · exact whole.choose ((parted _).choose (small _))
  · exact (mantissa.append (plus.choose minus)).append (plain_repr _)

private theorem plain_text (number : Number) : Plain number.text := by
  have minus : Plain "-" := by decide +kernel
  cases number with
  | int value =>
    cases value with
    | ofNat n => exact plain_repr n
    | negSucc n => exact minus.append (plain_repr (n + 1))
  | float value =>
    have zero : Plain ("0" ++ floatFormat.integralMark) := by decide +kernel
    have magnitude : Plain (if value.isZero then "0" ++ floatFormat.integralMark
        else floatFormat.text value.shortest) := zero.choose (plain_magnitude _)
    exact (minus.append magnitude).choose magnitude

end Number

namespace Json

private theorem plain_quoted (text : String) : Plain (quoted text) := by
  have quote : Plain "\"" := by decide +kernel
  have hex : ∀ n < 16, 32 ≤ (hexDigit n).toNat := by decide
  refine (quote.append (plain_ofList fun c member => ?_)).append quote
  obtain ⟨source, _, member⟩ := List.mem_flatMap.mp member
  unfold escapedChar at member
  split at member
  case h_8 =>
    split at member
    case isTrue control =>
      simp only [List.mem_cons, List.not_mem_nil, or_false] at member
      rcases member with rfl | rfl | rfl | rfl | rfl | rfl
      · decide
      · decide
      · decide
      · decide
      · exact hex _ (by omega)
      · exact hex _ (by omega)
    case isFalse printable =>
      rw [List.mem_singleton.mp member]
      omega
  all_goals
    simp only [List.mem_cons, List.not_mem_nil, or_false] at member
    rcases member with rfl | rfl <;> decide

private theorem plain_bracketed {opening closing : String} {parts : List String}
    (opens : Plain opening) (closes : Plain closing) (each : ∀ part ∈ parts, Plain part) :
    Plain (bracketed opening closing parts) := by
  have comma : Plain "," := by decide +kernel
  refine (opens.append ?_).append closes
  induction parts with
  | nil =>
    rw [String.intercalate_nil]
    decide +kernel
  | cons part rest ih =>
    obtain ⟨here, later⟩ := List.forall_mem_cons.mp each
    cases rest with
    | nil =>
      rw [String.intercalate_singleton]
      exact here
    | cons next rest =>
      rw [String.intercalate_cons_cons]
      exact (here.append comma).append (ih later)

mutual

theorem plain_text (value : Json) : Plain value.text := by
  have marks : Plain "null" ∧ Plain "true" ∧ Plain "false" ∧ Plain "[" ∧ Plain "]" ∧ Plain "\x7b" ∧
      Plain "\x7d" := by
    decide +kernel
  obtain ⟨null, true, false, bracket, bracket', brace, brace'⟩ := marks
  cases value with
  | null => exact null
  | bool value => cases value <;> assumption
  | number value => exact value.plain_text
  | string value => exact plain_quoted value
  | array items => exact plain_bracketed bracket bracket' (plain_itemTexts items)
  | object fields => exact plain_bracketed brace brace' (plain_fieldTexts fields)

theorem plain_itemTexts (items : List Json) : ∀ part ∈ itemTexts items, Plain part := by
  cases items with
  | nil => exact List.forall_mem_nil _
  | cons item rest => exact List.forall_mem_cons.mpr ⟨plain_text item, plain_itemTexts rest⟩

theorem plain_fieldTexts (fields : List (String × Json)) : ∀ part ∈ fieldTexts fields, Plain part := by
  have colon : Plain ":" := by decide +kernel
  cases fields with
  | nil => exact List.forall_mem_nil _
  | cons field rest =>
    obtain ⟨name, value⟩ := field
    refine List.forall_mem_cons.mpr ⟨?_, plain_fieldTexts rest⟩
    exact ((plain_quoted name).append colon).append (plain_text value)

end

end Json

end LiveCompile
