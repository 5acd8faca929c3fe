import LiveCompile.Buffer.Map
import LiveCompile.Proofs.PathSpelling
import Mathlib.Data.Finset.Sort
import Mathlib.Data.List.Sort

/-! A buffer map is a finite map from places, which are lists of components. Each operation does
to the entries what it does to such a map, and every question is answered as the map says,
whatever the spelling. -/

namespace LiveCompile
open Std

/-- Where a buffer is, however its path is spelled. -/
abbrev Place := List Component

namespace Place

/-- The order in which buffers are listed. -/
def NotAfter (a b : Place) : Prop := (compareComponents a b).isLE = true

instance : DecidableRel NotAfter := fun a b =>
  inferInstanceAs (Decidable ((compareComponents a b).isLE = true))

instance : IsTrans Place NotAfter := ⟨fun _ _ _ => TransCmp.isLE_trans⟩

instance : Std.Antisymm NotAfter :=
  ⟨fun _ _ first second => LawfulEqCmp.eq_of_compare (OrientedCmp.isLE_antisymm first second)⟩

instance : Std.Total NotAfter where
  total a b := by
    unfold NotAfter
    have swap : compareComponents b a = (compareComponents a b).swap := OrientedCmp.eq_swap
    rw [swap]
    cases compareComponents a b <;> simp

end Place

/-- A finite map from places to buffers, each under the spelling that it has had since there was
none at its place. -/
structure Catalog where
  held : Place → Option Buffer
  places : Finset Place
  mem_places : ∀ place, place ∈ places ↔ held place ≠ none

namespace Catalog

def empty : Catalog := ⟨fun _ => none, ∅, by simp⟩

def put (catalog : Catalog) (place : Place) (buffer : Buffer) : Catalog where
  held := Function.update catalog.held place (some buffer)
  places := insert place catalog.places
  mem_places other := by
    by_cases same : other = place <;> simp [same, catalog.mem_places]

def erase (catalog : Catalog) (place : Place) : Catalog where
  held := Function.update catalog.held place none
  places := catalog.places.erase place
  mem_places other := by
    by_cases same : other = place <;> simp [same, catalog.mem_places]

/-- Marks the buffers at some places as clean. -/
def clean (catalog : Catalog) (where? : Place → Bool) : Catalog where
  held place :=
    (catalog.held place).map fun buffer =>
      if where? place then { buffer with dirty := false } else buffer
  places := catalog.places
  mem_places place := by simp [catalog.mem_places]

def contents (catalog : Catalog) (place : Place) : Option String :=
  (catalog.held place).map (·.content)

/-- The spelling under which a buffer is kept that is stored now. -/
def spelling (catalog : Catalog) (path : Path) : Path :=
  ((catalog.held path.components).map (·.path)).getD path

def apply (catalog : Catalog) : BufferMap.Operation → Catalog
  | .set path content =>
    if catalog.contents path.components = some content then catalog
    else catalog.put path.components ⟨catalog.spelling path, content, true⟩
  | .load path content => catalog.put path.components ⟨catalog.spelling path, content, false⟩
  | .remove path => catalog.erase path.components
  | .markClean path => catalog.clean (path.components = ·)
  | .markAllClean => catalog.clean fun _ => true
  | .clear => empty

def after (catalog : Catalog) (operations : List BufferMap.Operation) : Catalog :=
  operations.foldl apply catalog

def listed (catalog : Catalog) : List Buffer :=
  (catalog.places.sort Place.NotAfter).filterMap catalog.held

/-- The path under which an operation stores a text. -/
def stored? : BufferMap.Operation → Option Path
  | .set path _ | .load path _ => some path
  | _ => none

section
variable {catalog : Catalog} {path : Path} {place : Place} {buffer : Buffer}

private theorem spelled_put {content : String} {dirty : Bool}
    (held : (catalog.put path.components ⟨catalog.spelling path, content, dirty⟩).held place =
      some buffer) :
    (∃ old, catalog.held place = some old ∧ old.path = buffer.path) ∨
      catalog.held place = none ∧ path = buffer.path := by
  by_cases same : place = path.components
  · subst same
    simp only [put, Function.update_self, Option.some.injEq] at held
    subst held
    cases found : catalog.held path.components with
    | none => exact .inr ⟨rfl, by simp [spelling, found]⟩
    | some old => exact .inl ⟨old, rfl, by simp [spelling, found]⟩
  · simp only [put, Function.update_of_ne same] at held
    exact .inl ⟨buffer, held, rfl⟩

private theorem spelled_apply {operation : BufferMap.Operation}
    (held : (catalog.apply operation).held place = some buffer) :
    (∃ old, catalog.held place = some old ∧ old.path = buffer.path) ∨
      catalog.held place = none ∧ stored? operation = some buffer.path := by
  have cleaned {where? : Place → Bool} (held : (catalog.clean where?).held place = some buffer) :
      ∃ old, catalog.held place = some old ∧ old.path = buffer.path := by
    obtain ⟨old, found, rfl⟩ := Option.map_eq_some_iff.mp held
    exact ⟨old, found, by split <;> rfl⟩
  cases operation with
  | set path content =>
    rw [apply] at held
    split at held
    · exact .inl ⟨buffer, held, rfl⟩
    · exact (spelled_put held).imp_right fun ⟨vacant, same⟩ => ⟨vacant, congrArg some same⟩
  | load path content =>
    exact (spelled_put held).imp_right fun ⟨vacant, same⟩ => ⟨vacant, congrArg some same⟩
  | remove path =>
    by_cases same : place = path.components
    · simp [apply, erase, same] at held
    · simp only [apply, erase, Function.update_of_ne same] at held
      exact .inl ⟨buffer, held, rfl⟩
  | markClean | markAllClean => exact .inl (cleaned held)
  | clear => cases held

/-- The spelling of a buffer is that of the operation that stored it where there was none, since
when its place was never empty. -/
theorem first_spelling {operations : List BufferMap.Operation}
    (held : (empty.after operations).held place = some buffer) :
    ∃ front operation back, operations = front ++ operation :: back ∧
      stored? operation = some buffer.path ∧ (empty.after front).held place = none ∧
      ∀ mid, mid <+: back → (empty.after (front ++ operation :: mid)).held place ≠ none := by
  induction operations using List.reverseRecOn generalizing buffer with
  | nil => cases held
  | append_singleton before last ih =>
    have step : empty.after (before ++ [last]) = (empty.after before).apply last := by
      simp [after, List.foldl_append]
    have present : (empty.after (before ++ [last])).held place ≠ none := by simp [held]
    rcases spelled_apply (step ▸ held) with ⟨old, found, same⟩ | ⟨vacant, stored⟩
    · obtain ⟨front, operation, back, rfl, stored, vacant, since⟩ := ih found
      refine ⟨front, operation, back ++ [last], by simp, same ▸ stored, vacant, ?_⟩
      intro mid within
      rcases List.prefix_concat_iff.mp within with rfl | earlier
      · simpa using present
      · exact since mid earlier
    · refine ⟨before, last, [], rfl, stored, vacant, ?_⟩
      intro mid within
      rw [List.prefix_nil.mp within]
      exact present

end

end Catalog

namespace BufferMap

/-- Entries in strict order of their components. -/
def Ordered (entries : List Buffer) : Prop :=
  entries.Pairwise fun before after => before.path.compare after.path = .lt

section
variable {entries : List Buffer} {path : Path} {content : String} {dirty : Bool}

theorem Ordered.distinct (ordered : Ordered entries) :
    (entries.map (·.path.components)).Nodup := Path.distinct_of_increasing ordered

theorem Ordered.unique (ordered : Ordered entries) {first second : Buffer}
    (found : first ∈ entries) (other : second ∈ entries)
    (same : first.path.components = second.path.components) : first = second :=
  List.inj_on_of_nodup_map ordered.distinct found other same

theorem found_at {entry : Buffer}
    (found : entries.find? (fun entry => path.compare entry.path = .eq) = some entry) :
    entry ∈ entries ∧ entry.path.components = path.components := by
  have same : path.compare entry.path = .eq := by simpa using List.find?_some found
  exact ⟨List.mem_of_find?_eq_some found, (Path.compare_eq_iff.mp same).symm⟩

/-- The spelling under which `store` keeps a buffer. -/
def kept (path : Path) (entries : List Buffer) : Path :=
  ((entries.find? fun entry => path.compare entry.path = .eq).map (·.path)).getD path

private theorem components_kept : (kept path entries).components = path.components := by
  cases found : entries.find? fun entry => path.compare entry.path = .eq with
  | none => simp [kept, found]
  | some entry =>
    simp [kept, found, found_at found]

theorem Ordered.before_all {entry : Buffer} (ordered : Ordered (entry :: entries))
    (less : path.compare entry.path = .lt) :
    ∀ other ∈ entry :: entries, path.compare other.path = .lt := by
  intro other member
  rcases List.mem_cons.mp member with rfl | later
  · exact less
  · exact Path.compare_trans less ((List.pairwise_cons.mp ordered).1 other later)

private theorem components_ne {other : Path} (different : path.compare other ≠ .eq) :
    other.components ≠ path.components := fun same =>
  different (Path.compare_eq_iff.mpr same.symm)

theorem Ordered.mem_store (ordered : Ordered entries) {buffer : Buffer} :
    buffer ∈ store path content dirty entries ↔
      buffer = ⟨kept path entries, content, dirty⟩ ∨
        buffer ∈ entries ∧ buffer.path.components ≠ path.components := by
  induction entries with
  | nil => simp [store, kept]
  | cons entry rest ih =>
    obtain ⟨first, later⟩ := List.pairwise_cons.mp ordered
    cases order : path.compare entry.path with
    | lt =>
      have before := ordered.before_all order
      have absent : (entry :: rest).find? (fun entry => path.compare entry.path = .eq) = none := by
        rw [List.find?_eq_none]
        intro other member
        simp [before other member]
      have apart : ∀ other ∈ entry :: rest, other.path.components ≠ path.components :=
        fun other member => components_ne (by simp [before other member])
      simp only [store, order, kept, absent, Option.map_none, Option.getD_none, List.mem_cons]
      grind
    | eq =>
      have same := Path.compare_eq_iff.mp order
      have apart : ∀ other ∈ rest, other.path.components ≠ path.components := by
        intro other member
        rw [same]
        exact components_ne (by simp [first other member])
      simp only [store, order, kept, List.find?_cons, decide_true, Option.map_some,
        Option.getD_some, List.mem_cons]
      grind
    | gt =>
      have apart : entry.path.components ≠ path.components := components_ne (by simp [order])
      have skipped : kept path (entry :: rest) = kept path rest := by
        simp [kept, order]
      simp only [store, order, List.mem_cons, ih later, skipped]
      grind

theorem Ordered.store (ordered : Ordered entries) :
    Ordered (BufferMap.store path content dirty entries) := by
  induction entries with
  | nil => exact List.pairwise_singleton ..
  | cons entry rest ih =>
    obtain ⟨first, later⟩ := List.pairwise_cons.mp ordered
    cases order : path.compare entry.path with
    | lt =>
      simp only [BufferMap.store, order]
      exact List.pairwise_cons.mpr ⟨ordered.before_all order, ordered⟩
    | eq =>
      simp only [BufferMap.store, order]
      exact List.pairwise_cons.mpr ⟨first, later⟩
    | gt =>
      simp only [BufferMap.store, order]
      refine List.pairwise_cons.mpr ⟨?_, ih later⟩
      intro other member
      rcases Ordered.mem_store later |>.mp member with rfl | ⟨old, _⟩
      · have same : (kept path rest).components = path.components := components_kept
        have less := Path.compare_swap.mp order
        simpa only [Path.compare, same] using less
      · exact first other old

end

/-- A map of buffers that stands for a catalog. -/
structure Represents (map : BufferMap) (catalog : Catalog) : Prop where
  ordered : Ordered map.entries
  held_iff : ∀ place buffer,
    catalog.held place = some buffer ↔ buffer ∈ map.entries ∧ buffer.path.components = place

namespace Represents

variable {map : BufferMap} {catalog : Catalog}

theorem empty : Represents .empty .empty := ⟨.nil, by simp [BufferMap.empty, Catalog.empty]⟩

private theorem find?_eq (represents : Represents map catalog) (path : Path) :
    map.find? path = catalog.held path.components := by
  apply Option.ext
  intro buffer
  rw [represents.held_iff]
  constructor
  · exact found_at
  · rintro ⟨member, same⟩
    have equal : path.compare buffer.path = .eq := Path.compare_eq_iff.mpr same.symm
    obtain ⟨other, found⟩ : ∃ other, map.find? path = some other := by
      rw [← Option.isSome_iff_exists, find?, List.find?_isSome]
      exact ⟨buffer, member, by simp [equal]⟩
    obtain ⟨inside, again⟩ := found_at found
    rw [found, represents.ordered.unique inside member (again.trans same.symm)]

private theorem kept_eq (represents : Represents map catalog) (path : Path) :
    kept path map.entries = catalog.spelling path := by
  rw [Catalog.spelling, ← represents.find?_eq]
  rfl

theorem get?_eq (represents : Represents map catalog) (path : Path) :
    map.get? path = catalog.contents path.components := by
  rw [get?, represents.find?_eq]
  rfl

private theorem store (represents : Represents map catalog) (path : Path) (content : String)
    (dirty : Bool) :
    Represents ⟨BufferMap.store path content dirty map.entries⟩
      (catalog.put path.components ⟨catalog.spelling path, content, dirty⟩) := by
  refine ⟨represents.ordered.store, fun place buffer => ?_⟩
  have spelled : (catalog.spelling path).components = path.components :=
    represents.kept_eq path ▸ components_kept
  rw [represents.ordered.mem_store, represents.kept_eq]
  by_cases same : place = path.components
  · simp only [Catalog.put, same, Function.update_self, Option.some.injEq]
    constructor
    · rintro rfl
      exact ⟨.inl rfl, spelled⟩
    · rintro ⟨rfl | ⟨_, other⟩, equal⟩
      · rfl
      · exact absurd equal other
  · simp only [Catalog.put, Function.update_of_ne same, represents.held_iff]
    constructor
    · rintro ⟨member, rfl⟩
      exact ⟨.inr ⟨member, same⟩, rfl⟩
    · rintro ⟨rfl | ⟨member, _⟩, equal⟩
      · exact absurd (equal.symm.trans spelled) same
      · exact ⟨member, equal⟩

private theorem remove (represents : Represents map catalog) (path : Path) :
    Represents (map.remove path).2 (catalog.erase path.components) := by
  refine ⟨represents.ordered.filter _, fun place buffer => ?_⟩
  simp only [BufferMap.remove, List.mem_filter, ne_eq, Path.compare_eq_iff, decide_eq_true_eq]
  by_cases same : place = path.components
  · simp only [Catalog.erase, same, Function.update_self]
    grind
  · simp only [Catalog.erase, Function.update_of_ne same, represents.held_iff]
    grind

private theorem clean (represents : Represents map catalog) (where? : Place → Bool) :
    Represents
      ⟨map.entries.map fun entry =>
        if where? entry.path.components then { entry with dirty := false } else entry⟩
      (catalog.clean where?) := by
  have spelled (entry : Buffer) :
      (if where? entry.path.components then { entry with dirty := false } else entry).path =
        entry.path := by split <;> rfl
  refine ⟨?_, fun place buffer => ?_⟩
  · rw [Ordered, List.pairwise_map]
    exact represents.ordered.imp fun {before after} less => by rwa [spelled, spelled]
  · simp only [Catalog.clean, Option.map_eq_some_iff, represents.held_iff, List.mem_map]
    constructor
    · rintro ⟨entry, ⟨member, rfl⟩, rfl⟩
      exact ⟨⟨entry, member, rfl⟩, congrArg Path.components (spelled entry)⟩
    · rintro ⟨⟨entry, member, rfl⟩, rfl⟩
      rw [spelled]
      exact ⟨entry, ⟨member, rfl⟩, rfl⟩

theorem apply (represents : Represents map catalog) (operation : Operation) :
    Represents (map.apply operation).map (catalog.apply operation) := by
  cases operation with
  | set path content =>
    simp only [BufferMap.apply, answered, set, Catalog.apply, represents.get?_eq]
    split
    · exact represents
    · exact represents.store path content true
  | load path content => exact represents.store path content false
  | remove path => exact represents.remove path
  | markClean path =>
    have cleaned := represents.clean (path.components = ·)
    simpa [BufferMap.apply, markClean, Catalog.apply, Path.compare_eq_iff] using cleaned
  | markAllClean =>
    have cleaned := represents.clean fun _ => true
    simpa [BufferMap.apply, markAllClean, Catalog.apply] using cleaned
  | clear => exact empty

private theorem places_eq (represents : Represents map catalog) :
    catalog.places.sort Place.NotAfter = map.entries.map (·.path.components) := by
  have same : catalog.places = (map.entries.map (·.path.components)).toFinset := by
    ext place
    rw [catalog.mem_places, Option.ne_none_iff_exists', List.mem_toFinset, List.mem_map]
    simp only [represents.held_iff]
  rw [same, List.toFinset_sort _ represents.ordered.distinct, List.pairwise_map]
  refine represents.ordered.imp fun {before after} less => ?_
  have less : compareComponents before.path.components after.path.components = .lt := less
  simp [Place.NotAfter, less]

private theorem listed_eq (represents : Represents map catalog) : catalog.listed = map.entries := by
  rw [Catalog.listed, represents.places_eq, List.filterMap_map]
  calc
    map.entries.filterMap (catalog.held ∘ fun entry => entry.path.components)
    _ = map.entries.filterMap some := List.filterMap_congr fun entry member =>
      (represents.held_iff _ _).mpr ⟨member, rfl⟩
    _ = map.entries := List.filterMap_some

theorem set_changed_iff (represents : Represents map catalog) (path : Path) (content : String) :
    (map.set path content).1 = true ↔
      (catalog.apply (.set path content)).contents ≠ catalog.contents := by
  simp only [set, Catalog.apply, represents.get?_eq]
  split
  · simp
  case isFalse different =>
    refine iff_of_true rfl fun same => different ?_
    simpa [Catalog.contents, Catalog.put, eq_comm] using congrFun same path.components

theorem remove_changed_iff (represents : Represents map catalog) (path : Path) :
    (map.remove path).1 = true ↔
      (catalog.apply (.remove path)).contents ≠ catalog.contents := by
  simp only [BufferMap.remove, contains, represents.find?_eq, Catalog.apply]
  cases found : catalog.held path.components with
  | none =>
    refine iff_of_false (by simp) (not_not.mpr (funext fun place => ?_))
    by_cases same : place = path.components <;>
      simp [Catalog.contents, Catalog.erase, same, found]
  | some buffer =>
    refine iff_of_true rfl fun same => ?_
    simpa [Catalog.contents, Catalog.erase, found] using congrFun same path.components

end Represents

/-- The map answers every question as the catalog does. -/
structure Answers (map : BufferMap) (catalog : Catalog) : Prop where
  get? (path : Path) : map.get? path = catalog.contents path.components
  buffer? (path : Path) :
    map.buffer? path = (catalog.held path.components).map ({ · with path })
  contains (path : Path) : map.contains path = (catalog.held path.components).isSome
  isDirty (path : Path) : map.isDirty path = (catalog.held path.components).any (·.dirty)
  hasDirty : map.hasDirty = true ↔
    ∃ place buffer, catalog.held place = some buffer ∧ buffer.dirty = true
  dirtyPaths : map.dirtyPaths = (catalog.listed.filter (·.dirty)).map (·.path)
  paths : map.paths = catalog.listed.map (·.path)
  getAll : map.getAll = catalog.listed.map fun buffer => (buffer.path, buffer.content)
  size : map.size = catalog.places.card
  isEmpty : map.isEmpty = true ↔ catalog.places = ∅

theorem Represents.answers {map : BufferMap} {catalog : Catalog}
    (represents : Represents map catalog) : Answers map catalog := by
  have listed := represents.listed_eq
  have size : map.size = catalog.places.card := by
    rw [← Finset.length_sort Place.NotAfter, represents.places_eq, List.length_map]
    rfl
  constructor
  case get? => exact represents.get?_eq
  case hasDirty =>
    simp only [hasDirty, List.any_eq_true, represents.held_iff]
    constructor
    · rintro ⟨buffer, member, dirty⟩
      exact ⟨_, buffer, ⟨member, rfl⟩, dirty⟩
    · rintro ⟨_, buffer, ⟨member, _⟩, dirty⟩
      exact ⟨buffer, member, dirty⟩
  case size => exact size
  case isEmpty =>
    rw [← Finset.card_eq_zero, ← size]
    simp [BufferMap.isEmpty, BufferMap.size]
  all_goals simp [BufferMap.buffer?, BufferMap.contains, BufferMap.isDirty, BufferMap.dirtyPaths,
    BufferMap.paths, BufferMap.getAll, represents.find?_eq, listed]

def after (map : BufferMap) (operations : List Operation) : BufferMap :=
  operations.foldl (fun map operation => (map.apply operation).map) map

theorem Represents.after {map : BufferMap} {catalog : Catalog}
    (represents : Represents map catalog) (operations : List Operation) :
    Represents (map.after operations) (catalog.after operations) := by
  induction operations generalizing map catalog with
  | nil => exact represents
  | cons operation rest ih => exact ih (represents.apply operation)

/-- After any operations the entries are in strict order of their components, one for each place,
and they are what the catalog holds after the same operations: the text, whether it is dirty, and
the first spelling since the place was empty. Every question is answered as the catalog says by
the place of the path alone, and `set` and `remove` answer whether they changed the catalog. -/
theorem refines_catalog (operations : List Operation) :
    let map := empty.after operations
    let catalog := Catalog.empty.after operations
    (∀ a b : Path, a.components = b.components ↔ Relation.EqvGen Path.Respelled a b) ∧
    (map.entries.Pairwise fun before after => before.path.compare after.path = .lt) ∧
    (map.entries.map (·.path.components)).Nodup ∧
    (∀ place buffer, catalog.held place = some buffer ↔
      buffer ∈ map.entries ∧ buffer.path.components = place) ∧
    (∀ place buffer, catalog.held place = some buffer →
      ∃ front operation back, operations = front ++ operation :: back ∧
        Catalog.stored? operation = some buffer.path ∧
        (Catalog.empty.after front).held place = none ∧
        ∀ mid, mid <+: back →
          (Catalog.empty.after (front ++ operation :: mid)).held place ≠ none) ∧
    Answers map catalog ∧
    (∀ path content, (map.set path content).1 = true ↔
      (catalog.apply (.set path content)).contents ≠ catalog.contents) ∧
    ∀ path, (map.remove path).1 = true ↔
      (catalog.apply (.remove path)).contents ≠ catalog.contents := by
  intro map catalog
  have represents : Represents map catalog := Represents.empty.after operations
  refine ⟨fun _ _ => Path.components_eq_iff, represents.ordered, represents.ordered.distinct,
    represents.held_iff, ?_, represents.answers, represents.set_changed_iff,
    represents.remove_changed_iff⟩
  intro place buffer held
  exact Catalog.first_spelling held

end BufferMap

end LiveCompile
