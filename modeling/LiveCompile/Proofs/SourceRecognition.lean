import LiveCompile.Config
import LiveCompile.Proofs.BufferRefinement
import LiveCompile.Proofs.JsonLiterals

/-! A path is a source by the name at its end: what follows the last dot there is one of the listed
extensions. Neither the spelling of the path nor that of the list counts beyond what they stand for,
and the lists that a configuration may have leave out names with a dot at the end. -/

namespace LiveCompile

open Document Relation

/-- Equal characters, or the capital and the small form of a letter of ASCII. -/
inductive SameLetter : Char → Char → Prop where
  | equal (c : Char) : SameLetter c c
  | lowered {capital small : Char} (letter : 65 ≤ capital.toNat ∧ capital.toNat ≤ 90)
      (apart : small.toNat = capital.toNat + 32) : SameLetter capital small
  | raised {small capital : Char} (letter : 65 ≤ capital.toNat ∧ capital.toNat ≤ 90)
      (apart : small.toNat = capital.toNat + 32) : SameLetter small capital

private theorem toNat_toLower (c : Char) :
    c.toLower.toNat = if 65 ≤ c.toNat ∧ c.toNat ≤ 90 then c.toNat + 32 else c.toNat := by
  have capital : c.val ≥ 'A'.val ∧ c.val ≤ 'Z'.val ↔ 65 ≤ c.toNat ∧ c.toNat ≤ 90 := by
    simp [UInt32.le_iff_toNat_le]
  delta Char.toLower
  by_cases upper : c.val ≥ 'A'.val ∧ c.val ≤ 'Z'.val
  · have range := capital.mp upper
    have same : c.toNat = c.val.toNat := rfl
    rw [dif_pos upper, if_pos range]
    change (c.val + 32).toNat = c.val.toNat + (32 : UInt32).toNat
    rw [UInt32.toNat_add]
    exact Nat.mod_eq_of_lt (by simp; omega)
  · rw [dif_neg upper, if_neg (upper ∘ capital.mpr)]

theorem toLower_eq_iff {a b : Char} : a.toLower = b.toLower ↔ SameLetter a b := by
  rw [← Char.toNat_inj, toNat_toLower, toNat_toLower]
  constructor
  · intro same
    by_cases first : 65 ≤ a.toNat ∧ a.toNat ≤ 90 <;> by_cases second : 65 ≤ b.toNat ∧ b.toNat ≤ 90
    · have equal : a = b := Char.toNat_inj.mp (by simpa [first, second] using same)
      exact equal ▸ .equal a
    · exact .lowered first (by simpa [first, second] using same.symm)
    · exact .raised second (by simpa [first, second] using same)
    · have equal : a = b := Char.toNat_inj.mp (by simpa [first, second] using same)
      exact equal ▸ .equal a
  · intro same
    cases same with
    | equal => rfl
    | lowered letter apart => rw [if_pos letter, if_neg (by omega), apart]
    | raised letter apart => rw [if_neg (by omega), if_pos letter, apart]

theorem sameIgnoringCase_iff {a b : List Char} :
    sameIgnoringCase a b = true ↔ List.Forall₂ SameLetter a b := by
  rw [sameIgnoringCase, beq_iff_eq, ← List.forall₂_eq_eq_eq, List.forall₂_map_left_iff,
    List.forall₂_map_right_iff]
  simp only [toLower_eq_iff]

namespace Path

/-- A path that ends in a name of a stem and, after the last dot, an extension. -/
structure Named (path : Path) (stem extension : List UInt8) : Prop where
  last : ∃ front, path.components = front ++ [.normal (stem ++ dot :: extension)]
  filled : stem ≠ []
  undotted : dot ∉ extension

private theorem splitLastDot?_eq_none {name : List UInt8} :
    splitLastDot? name = none ↔ dot ∉ name := by
  induction name with
  | nil => simp [splitLastDot?]
  | cons octet rest ih =>
    unfold splitLastDot?
    cases found : splitLastDot? rest with
    | some parts =>
      have dotted : dot ∈ rest := by simpa [found] using ih.not
      simp [dotted]
    | none =>
      have undotted : dot ∉ rest := ih.mp found
      simp [undotted, eq_comm]

private theorem splitLastDot?_eq_some {name stem extension : List UInt8} :
    splitLastDot? name = some (stem, extension) ↔
      name = stem ++ dot :: extension ∧ dot ∉ extension := by
  induction name generalizing stem extension with
  | nil => simp [splitLastDot?]
  | cons octet rest ih =>
    unfold splitLastDot?
    cases found : splitLastDot? rest with
    | some parts =>
      obtain ⟨front, back⟩ := parts
      obtain ⟨split, undotted⟩ := ih.mp found
      constructor
      · intro same
        cases same
        exact ⟨by rw [split, List.cons_append], undotted⟩
      · rintro ⟨whole, plain⟩
        cases stem with
        | nil =>
          obtain ⟨-, rfl⟩ := List.cons.inj whole
          exact absurd (split ▸ List.mem_append_right _ List.mem_cons_self) plain
        | cons first stem =>
          obtain ⟨rfl, later⟩ := List.cons.inj whole
          cases found.symm.trans (ih.mpr ⟨later, plain⟩)
          rfl
    | none =>
      have undotted : dot ∉ rest := splitLastDot?_eq_none.mp found
      constructor
      · intro same
        by_cases dotted : octet = dot
        · obtain ⟨rfl, rfl⟩ : [] = stem ∧ rest = extension := by simpa [dotted] using same
          exact ⟨by rw [dotted, List.nil_append], undotted⟩
        · simp [dotted] at same
      · rintro ⟨whole, plain⟩
        cases stem with
        | nil =>
          obtain ⟨rfl, rfl⟩ := List.cons.inj whole
          exact if_pos rfl
        | cons first stem =>
          obtain ⟨rfl, later⟩ := List.cons.inj whole
          exact absurd (later ▸ List.mem_append_right _ List.mem_cons_self) undotted

private theorem fileName?_eq_some {path : Path} {name : List UInt8} :
    path.fileName? = some name ↔ ∃ front, path.components = front ++ [.normal name] := by
  rw [← List.getLast?_eq_some_iff, fileName?]
  constructor
  · intro found
    split at found
    · next same =>
      cases found
      exact same
    · cases found
  · intro last
    rw [last]

private theorem extension?_eq_some {path : Path} {extension : List UInt8} :
    path.extension? = some extension ↔ ∃ stem, path.Named stem extension := by
  simp only [extension?, Option.bind_eq_bind, Option.bind_eq_some_iff, fileName?_eq_some]
  constructor
  · rintro ⟨name, ⟨front, last⟩, ⟨stem, other⟩, cut, filled⟩
    obtain ⟨rfl, undotted⟩ := splitLastDot?_eq_some.mp cut
    split at filled
    · cases filled
    · next full =>
      cases filled
      exact ⟨stem, ⟨front, last⟩, by simpa using full, undotted⟩
  · rintro ⟨stem, ⟨front, last⟩, filled, undotted⟩
    refine ⟨_, ⟨front, last⟩, _, splitLastDot?_eq_some.mpr ⟨rfl, undotted⟩, ?_⟩
    simp [filled]

end Path

/-! Listed extensions -/

/-- What is left of an extension of the list without its leading dots. -/
def Bare (extension : String) (bare : List Char) : Prop :=
  ∃ dots, extension.toList = List.replicate dots '.' ++ bare ∧ bare.head? ≠ some '.'

theorem bare_iff {extension : String} {bare : List Char} :
    Bare extension bare ↔ bareExtension extension = bare := by
  unfold bareExtension
  constructor
  · rintro ⟨dots, split, undotted⟩
    rw [split, List.dropWhile_append_of_pos (by simp)]
    cases bare with
    | nil => rfl
    | cons first rest => exact List.dropWhile_cons_of_neg (by simpa using undotted)
  · rintro rfl
    refine ⟨(extension.toList.takeWhile (· = '.')).length, ?_, ?_⟩
    · have dots : extension.toList.takeWhile (· = '.') =
          List.replicate (extension.toList.takeWhile (· = '.')).length '.' :=
        List.eq_replicate_length.mpr fun c member => by
          simpa using List.all_eq_true.mp List.all_takeWhile c member
      rw [← dots, List.takeWhile_append_dropWhile]
    · intro dotted
      have undotted := List.head?_dropWhile_not (· = '.') extension.toList
      rw [dotted] at undotted
      simp at undotted

/-- An extension with one more dot before it, or with letters of the other case. -/
inductive Restyled : String → String → Prop where
  | dotted (extension : String) : Restyled extension ("." ++ extension)
  | cased {extension other : String}
      (same : List.Forall₂ SameLetter extension.toList other.toList) : Restyled extension other

/-- What the extension of a path is compared with. -/
def folded (extension : String) : List Char := (bareExtension extension).map Char.toLower

private theorem folded_eq (extension : String) :
    folded extension = (extension.toList.map Char.toLower).dropWhile (· = '.') := by
  have kept (c : Char) : c.toLower = '.' ↔ c = '.' := by
    rw [← Char.toNat_inj, ← Char.toNat_inj, toNat_toLower]
    have place : '.'.toNat = 46 := rfl
    split <;> omega
  simp only [folded, bareExtension, List.dropWhile_map, Function.comp_def, kept]

theorem Restyled.alike {extension other : String} (restyled : Restyled extension other) :
    folded extension = folded other := by
  cases restyled with
  | dotted =>
    have dotted : ("." ++ extension).toList = '.' :: extension.toList := String.toList_append
    rw [folded, folded, bareExtension, bareExtension, dotted, List.dropWhile_cons_of_pos rfl]
  | cased same =>
    have alike : extension.toList.map Char.toLower = other.toList.map Char.toLower :=
      beq_iff_eq.mp (sameIgnoringCase_iff.mpr same)
    rw [folded_eq, folded_eq, alike]

private theorem folded_eq_of_restyled {extension other : String}
    (restyled : EqvGen Restyled extension other) : folded extension = folded other := by
  induction restyled with
  | rel _ _ once => exact once.alike
  | refl => rfl
  | symm _ _ _ ih => exact ih.symm
  | trans _ _ _ _ _ first second => exact first.trans second

namespace Path

theorem isSource_iff {path : Path} {extensions : List String} :
    path.isSource extensions = true ↔
      ∃ stem found, path.Named stem (Document.octets found) ∧ ∃ extension ∈ extensions, ∃ bare,
        Bare extension bare ∧ List.Forall₂ SameLetter bare found.toList := by
  have read (found : String) :
      (path.extension?.bind fun extension => String.fromUTF8? ⟨extension.toArray⟩) = some found ↔
        ∃ stem, path.Named stem (Document.octets found) := by
    rw [Option.bind_eq_some_iff]
    constructor
    · rintro ⟨extension, there, text⟩
      rw [octets_of_fromUTF8? text]
      exact extension?_eq_some.mp there
    · intro named
      exact ⟨Document.octets found, extension?_eq_some.mpr named, fromUTF8?_octets found⟩
  have listed (found : String) :
      (extensions.any fun extension => sameIgnoringCase (bareExtension extension) found.toList) = true ↔
        ∃ extension ∈ extensions, ∃ bare, Bare extension bare ∧
          List.Forall₂ SameLetter bare found.toList := by
    simp [List.any_eq_true, sameIgnoringCase_iff, bare_iff]
  unfold isSource
  constructor
  · intro source
    split at source
    · cases source
    · next found same =>
      obtain ⟨stem, named⟩ := (read found).mp same
      exact ⟨stem, found, named, (listed found).mp source⟩
  · rintro ⟨stem, found, named, inside⟩
    rw [(read found).mpr ⟨stem, named⟩]
    exact (listed found).mpr inside

theorem Named.ended {path : Path} {front : List Component} {stem extension name : List UInt8}
    (named : path.Named stem extension)
    (last : path.components = front ++ [.normal (name ++ [dot])]) : extension = [] := by
  obtain ⟨before, whole⟩ := named.last
  have same : stem ++ dot :: extension = name ++ [dot] := by
    have ends := congrArg List.getLast? (whole.symm.trans last)
    simpa using ends
  rcases List.eq_nil_or_concat extension with empty | ⟨rest, octet, rfl⟩
  · exact empty
  · have apart : stem ++ dot :: rest ++ [octet] = name ++ [dot] := by simpa using same
    have dotted : octet = dot := List.singleton_inj.mp (List.append_inj_right' apart rfl)
    exact absurd (by simp [dotted]) named.undotted

private theorem isSource_of_components {path other : Path}
    (same : path.components = other.components)
    (extensions : List String) : path.isSource extensions = other.isSource extensions := by
  simp only [isSource, extension?, fileName?, same]

/-- Whether a path is a source depends on what the listed extensions are compared as. -/
theorem isSource_of_folded {extensions others : List String}
    (same : extensions.map folded = others.map folded) (path : Path) :
    path.isSource extensions = path.isSource others := by
  have asked (extensions : List String) (found : String) :
      (extensions.any fun extension => sameIgnoringCase (bareExtension extension) found.toList) =
        (extensions.map folded).any (· == found.toList.map Char.toLower) := by
    rw [List.any_map]
    rfl
  simp only [isSource, asked, same]

end Path

namespace Config

variable {text : String} {config : Config}

private theorem fault?_of_ofText (loaded : ofText text = .ok config) : config.fault? = none := by
  unfold ofText at loaded
  split at loaded
  · cases loaded
  · split at loaded
    · cases loaded
    · next sound =>
      cases loaded
      exact sound

private theorem bare_of_ofText (loaded : ofText text = .ok config) :
    ∀ extension ∈ config.extensions, ¬ Bare extension [] := by
  intro extension member bare
  have dots : (bareExtension extension).isEmpty = true := by
    rw [bare_iff.mp bare]
    rfl
  have sound := fault?_of_ofText loaded
  unfold fault? at sound
  split at sound
  · cases sound
  · split at sound
    · cases sound
    · split at sound
      · cases sound
      · next unfound => exact List.find?_eq_none.mp unfound extension member dots

end Config

/-- A path is a source just if it ends in a name of a stem and a readable extension that is, but for
the case of its letters, one of the list without its leading dots. Two paths with one place in a
buffer map are sources alike, lists that differ by leading dots and by the case of letters are alike,
and no list of a configuration has a source whose name ends in a dot. -/
theorem recognized_by_extension (path : Path) (extensions : List String) :
    (path.isSource extensions = true ↔
      ∃ stem found, path.Named stem (octets found) ∧ ∃ extension ∈ extensions, ∃ bare,
        Bare extension bare ∧ List.Forall₂ SameLetter bare found.toList) ∧
    (∀ other : Path, path.compare other = .eq →
      path.isSource extensions = other.isSource extensions) ∧
    (∀ (map : BufferMap) (buffer : Buffer), map.find? path = some buffer →
      path.isSource extensions = buffer.path.isSource extensions) ∧
    (∀ others : List String, List.Forall₂ (EqvGen Restyled) extensions others →
      path.isSource extensions = path.isSource others) ∧
    (∀ (text : String) (config : Config), Config.ofText text = .ok config →
      ∀ front name, path.components = front ++ [.normal (name ++ [Path.dot])] →
        path.isSource config.extensions = false) := by
  refine ⟨Path.isSource_iff, ?_, ?_, ?_, ?_⟩
  · intro other same
    exact Path.isSource_of_components (Path.compare_eq_iff.mp same) extensions
  · intro map buffer found
    have place := (BufferMap.found_at found).2
    exact Path.isSource_of_components place.symm extensions
  · intro others restyled
    apply Path.isSource_of_folded
    rw [← List.forall₂_eq_eq_eq, List.forall₂_map_left_iff, List.forall₂_map_right_iff]
    exact restyled.imp fun _ _ => folded_eq_of_restyled
  · intro text config loaded front name last
    rw [Bool.eq_false_iff]
    intro source
    obtain ⟨stem, found, named, extension, member, bare, stripped, same⟩ := Path.isSource_iff.mp source
    have nothing : octets "" = [] := by simp [octets_eq_flatMap]
    obtain rfl : found = "" := octets_injective ((named.ended last).trans nothing.symm)
    cases same
    exact Config.bare_of_ofText loaded extension member stripped

/-- With a configuration that was read, a name that ends in a dot is no source. A list with nothing
but a dot, which no configuration has, would make it one. -/
theorem recognized_by_extension_loaded :
    let text := "[project]\nname = \"harbor\"\n[sources]\nextensions = [\"..Loom\"]\n"
    let config : Config := { name := "harbor", extensions := ["..Loom"] }
    let notes := Path.ofText "./src//notes./."
    let tavern := Path.ofText "src/tavern.old.lOOM/"
    Config.ofText text = .ok config ∧ notes.isSource config.extensions = false ∧
      notes.isSource ["."] = true ∧ tavern.isSource config.extensions = true := by
  intro text config notes tavern
  have loaded : Config.ofText text = .ok config := by
    have read : (Config.ofText text).toOption = some config := by decide +kernel
    cases found : Config.ofText text with
    | error cause =>
      rw [found] at read
      cases read
    | ok other =>
      rw [found] at read
      exact congrArg Except.ok (Option.some.inj read)
  have place : notes.components =
      [.current, .normal [115, 114, 99]] ++ [.normal ([110, 111, 116, 101, 115] ++ [Path.dot])] := by
    decide +kernel
  obtain ⟨-, -, -, -, ended⟩ := recognized_by_extension notes config.extensions
  refine ⟨loaded, ended text config loaded _ _ place, ?_, ?_⟩
  · decide +kernel
  · have plain : tavern.compare (Path.ofText "src/tavern.old.lOOM") = .eq := by decide +kernel
    obtain ⟨-, alike, -⟩ := recognized_by_extension tavern config.extensions
    rw [alike _ plain]
    decide +kernel

end LiveCompile
