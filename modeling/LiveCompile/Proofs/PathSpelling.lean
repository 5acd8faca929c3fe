import LiveCompile.Path
import Mathlib.Logic.Relation

/-! Paths by their components. The comparison of lists of components is a linear order. Two
paths have the same components iff one spelling turns into the other by repeating separators,
by separators at the end, and by a `.` that is not the first part. -/

namespace LiveCompile
open Std

private theorem compareOctets_eq :
    compareOctets = (compare : List UInt8 → List UInt8 → Ordering) := by
  funext a b
  induction a, b using compareOctets.induct with
  | case1 | case2 | case3 => rfl
  | case4 a as b bs ih =>
    change (compareOfLessAndEq a b).then (compareOctets as bs) =
      List.compareLex compare (a :: as) (b :: bs)
    rw [ih, List.compareLex_cons_cons]
    rfl

namespace Component

def text : Component → List UInt8
  | root => []
  | current => [Path.dot]
  | parent => [Path.dot, Path.dot]
  | normal name => name

@[simp] theorem text_root : root.text = [] := rfl

@[simp] theorem text_current : current.text = [Path.dot] := rfl

private theorem compare_eq : Component.compare = compareLex (compareOn rank) (compareOn text) := by
  funext a b
  cases a <;> cases b <;> first | rfl | exact congrFun₂ compareOctets_eq _ _

instance : TransCmp Component.compare := by
  rw [compare_eq]
  infer_instance

instance : LawfulEqCmp Component.compare where
  compare_self := ReflCmp.compare_self
  eq_of_compare {a b} same := by
    rw [compare_eq, compareLex_eq_eq] at same
    have ranks : a.rank = b.rank := LawfulEqOrd.eq_of_compare same.1
    have texts : a.text = b.text := LawfulEqOrd.eq_of_compare same.2
    cases a <;> cases b <;> first | exact congrArg normal texts | cases ranks <;> rfl

end Component

private theorem compareComponents_eq : compareComponents = List.compareLex Component.compare := by
  funext a b
  fun_induction compareComponents a b with
  | case1 | case2 | case3 => rfl
  | case4 a as b bs ih => rw [ih, List.compareLex_cons_cons]

instance : TransCmp compareComponents := by
  rw [compareComponents_eq]
  infer_instance

instance : LawfulEqCmp compareComponents := by
  rw [compareComponents_eq]
  infer_instance

namespace Path

theorem compare_eq_iff {a b : Path} : a.compare b = .eq ↔ a.components = b.components := by
  unfold compare
  exact LawfulEqCmp.compare_eq_iff_eq

theorem compare_trans {a b c : Path} (first : a.compare b = .lt) (second : b.compare c = .lt) :
    a.compare c = .lt := by
  unfold compare at *
  exact TransCmp.lt_trans first second

theorem compare_swap {a b : Path} : a.compare b = .gt ↔ b.compare a = .lt := by
  unfold compare
  exact OrientedCmp.gt_iff_lt

theorem distinct_of_increasing {α : Type} {path : α → Path} {items : List α}
    (increasing : items.Pairwise fun before after => (path before).compare (path after) = .lt) :
    (items.map fun item => (path item).components).Nodup := by
  rw [List.Nodup, List.pairwise_map]
  refine increasing.imp fun {before after} less same => ?_
  rw [compare_eq_iff.mpr same] at less
  cases less

/-! Parts between separators -/

def joined (parts : List (List UInt8)) : List UInt8 := parts.flatMap (slash :: ·)

theorem splitAt_cons (octets : List UInt8) :
    ∃ first rest, splitAt slash octets = first :: rest ∧ octets = first ++ joined rest := by
  induction octets with
  | nil => exact ⟨[], [], rfl, rfl⟩
  | cons octet octets ih =>
    obtain ⟨first, rest, split, rfl⟩ := ih
    by_cases separates : octet = slash
    · exact ⟨[], first :: rest, by simp [splitAt, split, separates], by simp [joined, separates]⟩
    · exact ⟨octet :: first, rest, by simp [splitAt, split, separates], by simp⟩

theorem splitAt_append (front back : List UInt8) :
    splitAt slash (front ++ slash :: back) = splitAt slash front ++ splitAt slash back := by
  induction front with
  | nil =>
    obtain ⟨first, rest, split, _⟩ := splitAt_cons back
    simp [splitAt, split]
  | cons octet front ih =>
    obtain ⟨first, rest, split, _⟩ := splitAt_cons front
    by_cases separates : octet = slash <;> simp [splitAt, ih, split, separates]

private theorem components_split {octets first : List UInt8} {rest : List (List UInt8)}
    (split : splitAt slash octets = first :: rest) :
    (Path.mk octets).components =
      (if first = [] then if rest = [] then [] else [.root]
        else if first = [dot] then [.current] else (innerComponent? first).toList) ++
        rest.filterMap innerComponent? := by
  obtain ⟨_, _, same, whole⟩ := splitAt_cons octets
  obtain ⟨rfl, rfl⟩ := List.cons.inj (split.symm.trans same)
  have absolute : (Path.mk octets).isAbsolute = true ↔ first = [] ∧ rest ≠ [] := by
    subst whole
    cases first with
    | nil => cases rest <;> simp [isAbsolute, joined]
    | cons octet octets =>
      have other : octet ≠ slash := by
        rintro rfl
        obtain ⟨_, _, cut, _⟩ := splitAt_cons (octets ++ joined rest)
        simp [splitAt, cut] at split
      simp [isAbsolute, other]
  have inner : (first :: rest).filterMap innerComponent? =
      (innerComponent? first).toList ++ rest.filterMap innerComponent? := by
    cases found : innerComponent? first <;> simp [found]
  simp only [components, split, absolute, List.head?_cons, Option.some.injEq, inner]
  by_cases empty : first = []
  · by_cases alone : rest = [] <;> simp [empty, alone, innerComponent?]
  · by_cases dotted : first = [dot] <;> simp [empty, dotted, innerComponent?]

private theorem components_congr {front back first : List UInt8} {rest others : List (List UInt8)}
    (split : splitAt slash front = first :: rest) (cut : splitAt slash back = first :: others)
    (both : first = [] → (rest = [] ↔ others = []))
    (kept : rest.filterMap innerComponent? = others.filterMap innerComponent?) :
    (Path.mk front).components = (Path.mk back).components := by
  rw [components_split split, components_split cut, kept]
  by_cases empty : first = []
  · simp only [empty, if_true, both empty]
  · simp only [empty, if_false]

/-- What does not count between two separators can be left out with one of them. -/
theorem components_without {part : List UInt8} (uncounted : innerComponent? part = none)
    (whole : splitAt slash part = [part]) (front back : List UInt8) :
    (Path.mk (front ++ slash :: (part ++ slash :: back))).components =
      (Path.mk (front ++ slash :: back)).components := by
  obtain ⟨first, rest, split, _⟩ := splitAt_cons front
  obtain ⟨_, _, cut, _⟩ := splitAt_cons back
  have longer := splitAt_append front (part ++ slash :: back)
  have shorter := splitAt_append front back
  rw [splitAt_append part, whole, split] at longer
  rw [split] at shorter
  exact components_congr longer shorter (by simp [cut]) (by simp [uncounted])

/-! Spellings -/

/-- A spelling with something that does not count, and without it. -/
inductive Respelled : Path → Path → Prop where
  | repeated (front back : List UInt8) :
      Respelled ⟨front ++ slash :: slash :: back⟩ ⟨front ++ slash :: back⟩
  | trailing {front : List UInt8} (filled : front ≠ []) : Respelled ⟨front ++ [slash]⟩ ⟨front⟩
  | inner (front back : List UInt8) :
      Respelled ⟨front ++ slash :: dot :: slash :: back⟩ ⟨front ++ slash :: back⟩
  | last (front : List UInt8) : Respelled ⟨front ++ [slash, dot]⟩ ⟨front ++ [slash]⟩

theorem Respelled.components {a b : Path} (respelled : Respelled a b) :
    a.components = b.components := by
  have nothing : innerComponent? [] = none := rfl
  have dotted : innerComponent? [dot] = none := rfl
  have empty : splitAt slash [] = [[]] := rfl
  have single : splitAt slash [dot] = [[dot]] := rfl
  cases respelled with
  | repeated front back => exact components_without nothing empty front back
  | @trailing front filled =>
    obtain ⟨first, rest, split, whole⟩ := splitAt_cons front
    have longer := splitAt_append front []
    rw [split, empty] at longer
    have bare : first = [] → rest ≠ [] := by
      rintro rfl rfl
      exact filled whole
    exact components_congr longer split (fun absolute => by simp [bare absolute]) (by simp [nothing])
  | inner front back => exact components_without dotted single front back
  | last front =>
    obtain ⟨first, rest, split, _⟩ := splitAt_cons front
    have longer := splitAt_append front [dot]
    have shorter := splitAt_append front []
    rw [split, single] at longer
    rw [split, empty] at shorter
    exact components_congr longer shorter (by simp) (by simp [nothing, dotted])

/-- The plainest spelling of a path with the components. -/
def ofComponents : List Component → Path
  | [] => ⟨[]⟩
  | [.root] => ⟨[slash]⟩
  | first :: rest => ⟨first.text ++ joined (rest.map Component.text)⟩

private theorem text_of_inner {part : List UInt8} {component : Component}
    (found : innerComponent? part = some component) :
    component.text = part ∧ component ≠ .root ∧ part ≠ [] := by
  simp only [innerComponent?] at found
  split at found
  · cases found
  case isFalse counted =>
    have filled : part ≠ [] := fun empty => counted (.inl empty)
    split at found <;> cases found
    case isTrue doubled => exact ⟨doubled.symm, nofun, filled⟩
    · exact ⟨rfl, nofun, filled⟩

private theorem eq_of_uncounted {part : List UInt8} (uncounted : innerComponent? part = none) :
    part = [] ∨ part = [dot] := by
  simp only [innerComponent?] at uncounted
  split at uncounted
  case isTrue dropped => exact dropped
  · split at uncounted <;> cases uncounted

open Relation

private theorem respelled_before {part : List UInt8} (uncounted : innerComponent? part = none)
    (front next : List UInt8) (rest : List (List UInt8)) :
    Respelled ⟨front ++ joined (part :: next :: rest)⟩ ⟨front ++ joined (next :: rest)⟩ := by
  rcases eq_of_uncounted uncounted with rfl | rfl
  · exact .repeated front (next ++ joined rest)
  · exact .inner front (next ++ joined rest)

private theorem respelled_last {part : List UInt8} (uncounted : innerComponent? part = none)
    {front : List UInt8} (filled : front ≠ []) :
    EqvGen Respelled ⟨front ++ joined [part]⟩ ⟨front⟩ := by
  rcases eq_of_uncounted uncounted with rfl | rfl
  · exact .rel _ _ (.trailing filled)
  · exact .trans _ _ _ (.rel _ _ (.last front)) (.rel _ _ (.trailing filled))

private theorem respelled_counted (parts : List (List UInt8)) {front : List UInt8}
    (filled : front ≠ []) :
    EqvGen Respelled ⟨front ++ joined parts⟩
      ⟨front ++ joined ((parts.filterMap innerComponent?).map Component.text)⟩ := by
  induction parts generalizing front with
  | nil => exact .refl _
  | cons part rest ih =>
    cases found : innerComponent? part with
    | some component =>
      have longer : front ++ slash :: part ≠ [] := by simp
      simpa [joined, found, text_of_inner found] using ih longer
    | none =>
      rw [List.filterMap_cons_none found]
      refine .trans _ _ _ ?_ (ih filled)
      cases rest with
      | nil => simpa [joined] using respelled_last found filled
      | cons next rest => exact .rel _ _ (respelled_before found front next rest)

private theorem respelled_absolute {parts : List (List UInt8)} (filled : parts ≠ []) :
    EqvGen Respelled ⟨joined parts⟩ (ofComponents (.root :: parts.filterMap innerComponent?)) := by
  induction parts with
  | nil => exact absurd rfl filled
  | cons part rest ih =>
    cases found : innerComponent? part with
    | some component =>
      have longer : slash :: part ≠ [] := by simp
      rw [List.filterMap_cons_some found]
      simpa [joined, ofComponents, text_of_inner found] using respelled_counted rest longer
    | none =>
      rw [List.filterMap_cons_none found]
      cases rest with
      | nil =>
        rcases eq_of_uncounted found with rfl | rfl
        · exact .refl _
        · exact .rel _ _ (.last [])
      | cons next rest =>
        exact .trans _ _ _ (.rel _ _ (respelled_before found [] next rest)) (ih (by simp))

private theorem respelled_ofComponents (path : Path) :
    EqvGen Respelled path (ofComponents path.components) := by
  obtain ⟨first, rest, split, whole⟩ := splitAt_cons path.octets
  have components := components_split split
  have same : path = ⟨first ++ joined rest⟩ := congrArg Path.mk whole
  rw [components]
  by_cases empty : first = []
  · by_cases alone : rest = []
    · rw [same, empty, alone]
      exact .refl _
    · rw [same, empty]
      simpa [alone] using respelled_absolute alone
  · have counted := respelled_counted rest empty
    rw [← same] at counted
    by_cases dotted : first = [dot]
    · simpa [dotted, ofComponents] using counted
    · obtain ⟨component, found⟩ : ∃ component, innerComponent? first = some component := by
        cases found : innerComponent? first with
        | none => exact absurd (eq_of_uncounted found) (by simp [empty, dotted])
        | some component => exact ⟨component, rfl⟩
      obtain ⟨text, unrooted, _⟩ := text_of_inner found
      have plain (others : List Component) : ofComponents (component :: others) =
          ⟨first ++ joined (others.map Component.text)⟩ := by
        rw [← text]
        cases component with
        | root => exact absurd rfl unrooted
        | _ => rfl
      simpa [empty, dotted, found, plain] using counted

/-- Which spellings have the same components. -/
theorem components_eq_iff {a b : Path} :
    a.components = b.components ↔ EqvGen Respelled a b := by
  constructor
  · intro same
    have plain := respelled_ofComponents b
    rw [← same] at plain
    exact .trans _ _ _ (respelled_ofComponents a) (.symm _ _ plain)
  · intro respelled
    induction respelled with
    | rel _ _ respelled => exact respelled.components
    | refl => rfl
    | symm _ _ _ ih => exact ih.symm
    | trans _ _ _ _ _ first second => exact first.trans second

end Path

end LiveCompile
