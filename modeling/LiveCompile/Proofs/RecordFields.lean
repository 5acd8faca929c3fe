import LiveCompile.Proofs.ChunkReread
import Mathlib.Data.List.Forall2

/-! What typing keeps of the records in a payload: seven kinds of records keep the fields that their
type does not name, definition sites and diagnostics drop them. The records of a payload and those of
its typed value, written again, are found by one traversal and stand in one order. -/

namespace LiveCompile

open Document

inductive RecordKind where
  | node
  | symbol
  | fact
  | site
  | diagnostic
  | entity
  | location
  | locationExit
  | exit
  deriving DecidableEq, Repr

namespace RecordKind

def fieldNames : RecordKind → List String
  | node => SyntaxNode.fieldNames
  | symbol => ["name", "kind", "file", "line"]
  | fact => ["subject", "predicate", "object"]
  | site => ["file", "line", "column"]
  | diagnostic => Diagnostic.fieldNames
  | entity => ["id", "name", "location"]
  | location => ["id", "name", "description", "exits"]
  | locationExit => ["direction", "target"]
  | exit => ["id", "from", "to"]

/-- Whether the type has a place for other fields. Such a record is an object, the others may also
be given as arrays. -/
def isOpen : RecordKind → Bool
  | site | diagnostic => false
  | _ => true

end RecordKind

/-- A record in a document, with the name it is filed under if it stands in a map. -/
structure Record where
  kind : RecordKind
  key : Option String
  fields : Fields Document

namespace Record

def ofDocument (kind : RecordKind) (key : Option String) (document : Document) : Record :=
  let members := if kind.isOpen then document.members? else document.recordMembers? kind.fieldNames
  ⟨kind, key, members.getD []⟩

/-- What a field holds: of several members with its name the last counts. -/
def field? (record : Record) (name : String) : Option Document :=
  (Fields.ofList record.fields).get? name

end Record

/-! The records of a payload -/

namespace Document

def items : Document → List Document
  | array _ items => items
  | _ => []

def members : Document → Fields Document
  | object _ fields => fields
  | _ => []

def listed (fields : Fields Document) (name : String) : List Document :=
  (fields.filter (·.1 == name)).flatMap fun (_, document) => document.items

def mapped (fields : Fields Document) (name : String) : Fields Document :=
  (fields.filter (·.1 == name)).flatMap fun (_, document) => document.members

mutual

/-- A node and the nodes below it. -/
def nodeRecords : Document → List Record
  | object span fields => .ofDocument .node none (object span fields) :: childRecords fields
  | _ => []

def childRecords : Fields Document → List Record
  | [] => []
  | (name, array _ items) :: rest =>
    if name = "children" then nodesRecords items ++ childRecords rest else childRecords rest
  | _ :: rest => childRecords rest

def nodesRecords : List Document → List Record
  | [] => []
  | item :: rest => nodeRecords item ++ nodesRecords rest

end

def locationRecords (document : Document) : List Record :=
  .ofDocument .location none document ::
    (listed document.members "exits").map (.ofDocument .locationExit none)

/-- The records of a world in normal form. -/
def worldRecords (document : Document) : List Record :=
  (listed document.members "entities").map (.ofDocument .entity none)
    ++ (listed document.members "locations").flatMap locationRecords
    ++ (listed document.members "exits").map (.ofDocument .exit none)

/-- The fields of a payload with the given fields. -/
def payloadFields (names : List String) (document : Document) : Fields Document :=
  (document.recordMembers? names).getD []

/-- The records of a payload, those of a map in the order of their names. -/
def records : ChunkName → Document → List Record
  | .syntaxTree, document => nodesRecords (listed (payloadFields ["nodes"] document) "nodes")
  | .symbolTable, document =>
    (listed (payloadFields ["symbols"] document) "symbols").map (.ofDocument .symbol none)
  | .factSet, document =>
    (listed (payloadFields ["facts"] document) "facts").map (.ofDocument .fact none)
  | .propertyDependencyIndex, _ => []
  | .definitionIndex, document =>
    let sites := mapped (payloadFields ["definitions"] document) "definitions"
    (Fields.sorted (Fields.ofList sites)).map fun (name, site) => .ofDocument .site name site
  | .compiledWorld, document =>
    match document.json? with
    | none => []
    | some payload => worldRecords (ofJson (World.normalized payload))
  | .diagnostics, document =>
    let fields := (payloadFields ["items"] document).map fun (name, value) =>
      (Diagnostics.canonicalName name, value)
    (listed fields "items").map (.ofDocument .diagnostic none)

/-- Two documents that have one value. -/
def SameValue (first second : Document) : Prop :=
  ∃ value, first.json? = some value ∧ second.json? = some value

end Document

/-- What becomes of a record when it is typed and written again: where the type has a place for
other fields, each of them is there with its value, and no further one; else none is there. -/
structure Record.Kept (before after : Record) : Prop where
  kind : after.kind = before.kind
  key : after.key = before.key
  others : ∀ name ∉ before.kind.fieldNames,
    if before.kind.isOpen then Option.Rel SameValue (before.field? name) (after.field? name)
    else after.field? name = none

/-! The last member of a name -/

namespace Fields

variable {α : Type} {fields : Fields α} {name other : String} {value : α}

theorem get?_nil : get? ([] : Fields α) name = none := rfl

theorem get?_cons : get? ((other, value) :: fields) name =
    if other = name then some value else get? fields name := by
  by_cases same : other = name <;> simp [get?, same]

private theorem get?_insert : get? (insert fields other value) name =
    if other = name then some value else get? fields name := by
  induction fields with
  | nil => rw [insert, get?_cons]
  | cons first rest ih =>
    obtain ⟨held, old⟩ := first
    unfold insert
    by_cases here : held = other
    · subst here
      by_cases same : held = name <;> simp [get?_cons, same]
    · rw [if_neg here, get?_cons, get?_cons, ih]
      by_cases same : held = name
      · subst same
        simp [Ne.symm here]
      · simp [same]

theorem get?_append {front back : Fields α} (new : name ∉ names front) :
    get? (front ++ back) name = get? back name := by
  induction front with
  | nil => rfl
  | cons first rest ih =>
    obtain ⟨held, old⟩ := first
    simp only [names_cons, List.mem_cons, not_or] at new
    rw [List.cons_append, get?_cons, if_neg (Ne.symm new.1), ih new.2]

/-! Members whose values are related one by one -/

section
variable {β : Type} {related : α → β → Prop} {members : Fields β} {image : β}

/-- The same names with related values. -/
def Linked (related : α → β → Prop) (fields : Fields α) (members : Fields β) : Prop :=
  List.Forall₂ (fun entry image => image.1 = entry.1 ∧ related entry.2 image.2) fields members

theorem Linked.insert (linked : Linked related fields members) (here : related value image) :
    Linked related (insert fields name value) (insert members name image) := by
  induction linked with
  | nil => exact .cons ⟨rfl, here⟩ .nil
  | @cons entry other rest others both later ih =>
    obtain ⟨held, old⟩ := entry
    obtain ⟨_, new⟩ := other
    obtain ⟨rfl, both⟩ := both
    unfold Fields.insert
    split
    · exact .cons ⟨rfl, here⟩ later
    · exact .cons ⟨rfl, both⟩ ih

theorem Linked.insertSorted (linked : Linked related fields members) (here : related value image) :
    Linked related (insertSorted name value fields) (insertSorted name image members) := by
  induction linked with
  | nil => exact .cons ⟨rfl, here⟩ .nil
  | @cons entry other rest others both later ih =>
    obtain ⟨held, old⟩ := entry
    obtain ⟨_, new⟩ := other
    obtain ⟨rfl, both⟩ := both
    unfold Fields.insertSorted
    split
    · exact .cons ⟨rfl, here⟩ (.cons ⟨rfl, both⟩ later)
    · exact .cons ⟨rfl, both⟩ ih

theorem Linked.ofList (linked : Linked related fields members) :
    Linked related (ofList fields) (ofList members) := by
  suffices general : ∀ (before : Fields α) (after : Fields β), Linked related before after →
      Linked related (fields.foldl (fun fields entry => Fields.insert fields entry.1 entry.2) before)
        (members.foldl (fun fields entry => Fields.insert fields entry.1 entry.2) after) from
    general [] [] .nil
  induction linked with
  | nil => exact fun before after linked => linked
  | @cons entry other rest others both later ih =>
    intro before after linked
    obtain ⟨held, old⟩ := entry
    obtain ⟨_, new⟩ := other
    obtain ⟨rfl, both⟩ := both
    exact ih _ _ (linked.insert both)

theorem Linked.sorted (linked : Linked related fields members) :
    Linked related (sorted fields) (sorted members) := by
  induction linked with
  | nil => exact .nil
  | @cons entry other rest others both later ih =>
    obtain ⟨held, old⟩ := entry
    obtain ⟨_, new⟩ := other
    obtain ⟨rfl, both⟩ := both
    exact ih.insertSorted both

end

end Fields

/-! One record -/

section
variable {slots : List (String × Option Json)} {extra : Fields Json} {fields : Fields Document}
  {known : List String}

private theorem others?_field {name : String} (found : others? fields known = some extra)
    (unknown : name ∉ known) :
    Option.Rel (fun document value => document.json? = some value)
      ((Fields.ofList fields).get? name) (extra.get? name) := by
  obtain ⟨members, values, same⟩ := Option.bind_eq_some_iff.mp found
  cases same
  suffices general : ∀ (before : Fields Document) (after : Fields Json),
      Option.Rel (fun document value => document.json? = some value)
        (before.get? name) (after.get? name) →
      Option.Rel (fun document value => document.json? = some value)
        ((fields.foldl (fun fields entry => Fields.insert fields entry.1 entry.2) before).get? name)
        ((members.foldl (fun fields entry => Fields.insert fields entry.1 entry.2) after).get? name)
    from general [] [] .none
  clear found
  induction fields generalizing members with
  | nil =>
    cases values
    exact fun before after agree => agree
  | cons first rest ih =>
    obtain ⟨held, document⟩ := first
    intro before after agree
    by_cases there : held ∈ known
    · have dropped : ((held, document) :: rest).filter (fun entry => !known.contains entry.1) =
          rest.filter fun entry => !known.contains entry.1 := by simp [there]
      rw [dropped] at values
      refine ih members values _ _ ?_
      have different : held ≠ name := fun same => unknown (same ▸ there)
      rw [Fields.get?_insert, if_neg different]
      exact agree
    · have kept : ((held, document) :: rest).filter (fun entry => !known.contains entry.1) =
          (held, document) :: rest.filter fun entry => !known.contains entry.1 := by simp [there]
      rw [kept] at values
      simp only [fieldValues?, fieldValuesWith?, Option.bind_eq_bind, Option.bind_eq_some_iff,
        Option.pure_def, Option.some.injEq] at values
      obtain ⟨value, here, others, later, rfl⟩ := values
      refine ih others later _ _ ?_
      rw [Fields.get?_insert, Fields.get?_insert]
      split
      · exact .some here
      · exact agree

theorem get?_fieldsOfJson (members : Fields Json) (name : String) :
    Fields.get? (fieldsOfJson members) name = (members.get? name).map ofJson := by
  induction members with
  | nil => rfl
  | cons first rest ih =>
    obtain ⟨held, value⟩ := first
    rw [fieldsOfJson, Fields.get?_cons, Fields.get?_cons, ih]
    split <;> rfl

theorem Layout.get?_other (layout : Layout slots extra) {name : String}
    (unknown : name ∉ slots.map (·.1)) :
    (Fields.ofList (fieldsOfJson (written slots ++ extra))).get? name =
      (extra.get? name).map ofJson := by
  have distinct : (Fields.names (fieldsOfJson (written slots ++ extra))).Nodup := by
    rw [names_fieldsOfJson]
    exact layout.distinct_members
  have absent : name ∉ Fields.names (written slots) := by
    intro there
    obtain ⟨entry, member, same⟩ := List.mem_map.mp there
    have none : entry ∈ (written slots).filter (·.1 == name) :=
      List.mem_filter.mpr ⟨member, by simpa using same⟩
    rw [Layout.written_absent unknown] at none
    exact List.not_mem_nil none
  rw [Fields.ofList_distinct distinct, get?_fieldsOfJson, Fields.get?_append absent]

theorem Document.SameValue.of_json? {document : Document} {value : Json}
    (read : document.json? = some value) : SameValue document (ofJson value) :=
  ⟨value, read, json?_ofJson (proper_of_json? read)⟩

namespace Record

variable {kind : RecordKind} {key : Option String} {document : Document} {value : Json}

/-- A record of an open type that is read and written again. -/
theorem kept_open (isOpen : kind.isOpen = true) (layout : Layout slots extra)
    (names : slots.map (·.1) = kind.fieldNames) (read : document.members? = some fields)
    (others : others? fields kind.fieldNames = some extra)
    (writes : value = .object (written slots ++ extra)) :
    Kept (ofDocument kind key document) (ofDocument kind key (ofJson value)) := by
  refine ⟨rfl, rfl, fun name unknown => ?_⟩
  have before : (ofDocument kind key document).fields = fields := by
    simp [ofDocument, isOpen, read]
  have after : (ofDocument kind key (ofJson value)).fields =
      fieldsOfJson (written slots ++ extra) := by
    simp [ofDocument, isOpen, writes, ofJson, ofFields, members?]
  have agree := others?_field others unknown
  rw [show (ofDocument kind key document).kind = kind from rfl, if_pos isOpen, field?, field?, before,
    after, layout.get?_other (names ▸ unknown)]
  generalize (Fields.ofList fields).get? name = held at agree
  generalize extra.get? name = kept at agree
  cases agree with
  | none => exact .none
  | some read => exact .some (.of_json? read)

private theorem kept_closed (closed : kind.isOpen = false) (layout : Layout slots [])
    (names : slots.map (·.1) = kind.fieldNames) (writes : value = .object (written slots ++ [])) :
    Kept (ofDocument kind key document) (ofDocument kind key (ofJson value)) := by
  refine ⟨rfl, rfl, fun name unknown => ?_⟩
  have after : (ofDocument kind key (ofJson value)).fields = fieldsOfJson (written slots ++ []) := by
    simp [ofDocument, closed, writes, ofJson, ofFields, recordMembers?]
  have isClosed : ¬ (ofDocument kind key document).kind.isOpen = true := by simp [ofDocument, closed]
  rw [if_neg isClosed, field?, after, layout.get?_other (names ▸ unknown)]
  rfl

/-- What reading and writing a record of a type makes of its other fields. -/
def Keeps {α : Type} (kind : RecordKind) (read : Document → Option α) (write : α → Json) : Prop :=
  ∀ document value, read document = some value → ∀ key,
    Kept (ofDocument kind key document) (ofDocument kind key (ofJson (write value)))

end Record

end

open Record

theorem Symbol.keeps : Keeps .symbol ofDocument? toJson := by
  intro document symbol read key
  simp only [ofDocument?, Option.bind_eq_bind, Option.bind_eq_some_iff, Option.pure_def,
    Option.some.injEq] at read
  obtain ⟨fields, inside, name, _, kind, _, file, _, line, _, extra, others, rfl⟩ := read
  have layout : Layout (slots ⟨name, kind, file, line, extra⟩) extra :=
    ⟨by simp [slots], extra_of_others? others⟩
  exact kept_open rfl layout rfl inside others (toJson_eq _)

theorem Fact.keeps : Keeps .fact ofDocument? toJson := by
  intro document fact read key
  simp only [ofDocument?, Option.bind_eq_bind, Option.bind_eq_some_iff, Option.pure_def,
    Option.some.injEq] at read
  obtain ⟨fields, inside, subject, _, predicate, _, object, _, extra, others, rfl⟩ := read
  have layout : Layout (slots ⟨subject, predicate, object, extra⟩) extra :=
    ⟨by simp [slots], extra_of_others? others⟩
  exact kept_open rfl layout rfl inside others rfl

theorem DefinitionSite.keeps : Keeps .site ofDocument? toJson := by
  intro document site _ key
  exact kept_closed rfl (.known (by simp [slots]) : Layout site.slots []) rfl rfl

theorem Diagnostic.keeps : Keeps .diagnostic ofDocument? toJson := by
  intro document diagnostic _ key
  exact kept_closed rfl (.known (by simp [slots])) rfl (toJson_eq diagnostic)

theorem Entity.keeps : Keeps .entity ofDocument? toJson := by
  intro document entity read key
  simp only [ofDocument?, Option.bind_eq_bind, Option.bind_eq_some_iff, Option.pure_def,
    Option.some.injEq] at read
  obtain ⟨fields, inside, id, _, name, _, location, _, extra, others, rfl⟩ := read
  have layout : Layout (slots ⟨id, name, location, extra⟩) extra :=
    ⟨by simp [slots], extra_of_others? others⟩
  exact kept_open rfl layout rfl inside others (toJson_eq _)

theorem LocationExit.keeps : Keeps .locationExit ofDocument? toJson := by
  intro document exit read key
  simp only [ofDocument?, Option.bind_eq_bind, Option.bind_eq_some_iff, Option.pure_def,
    Option.some.injEq] at read
  obtain ⟨fields, inside, direction, _, target, _, extra, others, rfl⟩ := read
  have layout : Layout (slots ⟨direction, target, extra⟩) extra :=
    ⟨by simp [slots], extra_of_others? others⟩
  exact kept_open rfl layout rfl inside others rfl

theorem Exit.keeps : Keeps .exit ofDocument? toJson := by
  intro document exit read key
  simp only [ofDocument?, Option.bind_eq_bind, Option.bind_eq_some_iff, Option.pure_def,
    Option.some.injEq] at read
  obtain ⟨fields, inside, id, _, origin, _, destination, _, extra, others, rfl⟩ := read
  have layout : Layout (slots ⟨id, origin, destination, extra⟩) extra :=
    ⟨by simp [slots], extra_of_others? others⟩
  exact kept_open rfl layout rfl inside others (toJson_eq _)

/-! Lists of records -/

section
variable {α : Type} {read : Document → Option α} {write : α → Json} {fields : Fields Document}
  {name : String}

theorem forall₂_of_mapM {β : Type} {read : β → Option α} {items : List β} {values : List α}
    (found : items.mapM read = some values) :
    List.Forall₂ (fun item value => read item = some value) items values := by
  induction items generalizing values with
  | nil =>
    cases found
    exact .nil
  | cons first rest ih =>
    simp only [List.mapM_cons, Option.bind_eq_bind, Option.bind_eq_some_iff, Option.pure_def,
      Option.some.injEq] at found
    obtain ⟨value, here, others, later, rfl⟩ := found
    exact .cons here (ih later)

theorem filter_of_single? {found : Option Document} (there : single? fields name = some found) :
    (fields.filter (·.1 == name)).map (·.2) = found.toList := by
  unfold single? at there
  split at there
  case h_1 none =>
    cases there
    rw [none]
    rfl
  case h_2 one =>
    cases there
    rw [one]
    rfl
  case h_3 => cases there

private theorem listed_of_single? {found : Option Document}
    (there : single? fields name = some found) :
    listed fields name = found.toList.flatMap items := by
  rw [← filter_of_single? there, List.flatMap_map]
  rfl

private theorem mapped_of_single? {found : Option Document}
    (there : single? fields name = some found) :
    mapped fields name = found.toList.flatMap members := by
  rw [← filter_of_single? there, List.flatMap_map]
  rfl

theorem listed_read {values : List α} (found : fieldOr? fields name [] (list? read) = some values) :
    List.Forall₂ (fun item value => read item = some value) (listed fields name) values := by
  obtain ⟨held, there, found⟩ := Option.bind_eq_some_iff.mp found
  rw [listed_of_single? there]
  cases held with
  | none =>
    cases found
    exact .nil
  | some document =>
    cases document with
    | array span items => simpa [Document.items] using forall₂_of_mapM found
    | _ => cases found

theorem Layout.listed {slots : List (String × Option Json)} {extra : Fields Json} {items : List Json}
    (layout : Layout slots extra) (slot : (name, some (.array items)) ∈ slots) :
    Document.listed (fieldsOfJson (written slots ++ extra)) name = itemsOfJson items := by
  rw [listed_of_single? (layout.single? slot)]
  simp [ofJson, ofItems, Document.items]

theorem itemsOfJson_eq (items : List Json) : itemsOfJson items = items.map ofJson := by
  induction items with
  | nil => rfl
  | cons item rest ih => rw [itemsOfJson, ih, List.map_cons]

theorem Record.Keeps.list {kind : RecordKind} (keeps : Keeps kind read write) {items : List Document}
    {values : List α} (found : List.Forall₂ (fun item value => read item = some value) items values) :
    List.Forall₂ Kept (items.map (ofDocument kind none))
      ((itemsOfJson (values.map write)).map (ofDocument kind none)) := by
  rw [itemsOfJson_eq, List.map_map, List.map_map, List.forall₂_map_left_iff,
    List.forall₂_map_right_iff]
  exact found.imp fun item value read => keeps item value read none

end

/-! Nodes -/

private theorem nodesRecords_eq (items : List Document) :
    nodesRecords items = items.flatMap nodeRecords := by
  induction items with
  | nil => rfl
  | cons item rest ih => rw [nodesRecords, ih, List.flatMap_cons]

private theorem childRecords_eq (fields : Fields Document) :
    childRecords fields = nodesRecords (listed fields "children") := by
  rw [nodesRecords_eq]
  induction fields with
  | nil => rfl
  | cons first rest ih =>
    obtain ⟨name, document⟩ := first
    by_cases same : name = "children"
    · subst same
      cases document <;> simp [childRecords, listed, items, nodesRecords_eq, ih]
    · cases document <;> simp [childRecords, listed, same, ih]

namespace SyntaxNode

private theorem listed_children {slots : List (String × Option Json)} {extra : Fields Json}
    {children : List SyntaxNode} (layout : Layout slots extra)
    (slot : ("children", if children.isEmpty then none else
      some (.array (children.map toJson))) ∈ slots) :
    listed (fieldsOfJson (written slots ++ extra)) "children" =
      itemsOfJson (children.map toJson) := by
  cases children with
  | nil => rw [listed_of_single? (layout.single? slot)]; rfl
  | cons child rest => exact layout.listed slot

mutual

/-- A node is kept with all the nodes below it. -/
theorem kept_below (node : SyntaxNode) (document : Document)
    (read : ofDocument? document = some node) :
    List.Forall₂ Kept (nodeRecords document) (nodeRecords (ofJson node.toJson)) := by
  obtain ⟨kind, name, file, line, children, extra⟩ := node
  cases document with
  | object span fields =>
    simp only [ofDocument?_object, Option.bind_eq_bind, Option.bind_eq_some_iff, Option.pure_def,
      Option.some.injEq] at read
    obtain ⟨kind, _, name, _, file, _, line, _, children, nested, extra, others, same⟩ := read
    cases same
    have layout : Layout (slots ⟨kind, name, file, line, children, extra⟩) extra :=
      ⟨by simp [slots], extra_of_others? others⟩
    have here : Kept (ofDocument .node none (object span fields))
        (ofDocument .node none (ofJson (toJson ⟨kind, name, file, line, children, extra⟩))) :=
      kept_open rfl layout rfl rfl others (toJson_eq _)
    have below := each_kept_below children (listed fields "children") (listed_read nested)
    rw [← listed_children layout (by simp [slots]), ← childRecords_eq, ← childRecords_eq] at below
    rw [toJson_eq, ofJson, ofFields] at here ⊢
    exact .cons here below
  | _ => simp [ofDocument?] at read

theorem each_kept_below (nodes : List SyntaxNode) (items : List Document)
    (read : List.Forall₂ (fun item node => ofDocument? item = some node) items nodes) :
    List.Forall₂ Kept (nodesRecords items) (nodesRecords (itemsOfJson (nodes.map toJson))) := by
  cases read with
  | nil => exact .nil
  | cons here later =>
    exact List.rel_append (kept_below _ _ here) (each_kept_below _ _ later)

end

end SyntaxNode

theorem Location.keeps : Keeps .location ofDocument? toJson := by
  intro document location read key
  simp only [ofDocument?, Option.bind_eq_bind, Option.bind_eq_some_iff, Option.pure_def,
    Option.some.injEq] at read
  obtain ⟨fields, inside, id, _, name, _, description, _, exits, _, extra, others, rfl⟩ := read
  have layout : Layout (slots ⟨id, name, description, exits, extra⟩) extra :=
    ⟨by simp [slots], extra_of_others? others⟩
  exact kept_open rfl layout rfl inside others (toJson_eq _)

theorem Document.members_of_members? {document : Document} {fields : Fields Document}
    (inside : document.members? = some fields) : document.members = fields := by
  cases document with
  | object span found => exact Option.some.inj inside
  | _ => cases inside

theorem Location.kept_with_exits (document : Document) (location : Location)
    (read : ofDocument? document = some location) :
    List.Forall₂ Kept (locationRecords document) (locationRecords (ofJson location.toJson)) := by
  have here := keeps document location read none
  simp only [ofDocument?, Option.bind_eq_bind, Option.bind_eq_some_iff, Option.pure_def,
    Option.some.injEq] at read
  obtain ⟨fields, inside, id, _, name, _, description, _, exits, left, extra, others, rfl⟩ := read
  have layout : Layout (slots ⟨id, name, description, exits, extra⟩) extra :=
    ⟨by simp [slots], extra_of_others? others⟩
  have below := LocationExit.keeps.list (listed_read left)
  have written : ("exits", some (.array (exits.map LocationExit.toJson))) ∈
      slots ⟨id, name, description, exits, extra⟩ := by simp [slots]
  rw [← layout.listed written, ← members_of_members? inside] at below
  refine .cons here ?_
  rw [toJson_eq]
  exact below

theorem World.kept_records {document : Document} {world : World}
    (read : ofDocument? document = some world) :
    List.Forall₂ Kept (worldRecords document) (worldRecords (ofJson world.toJson)) := by
  simp only [ofDocument?, Option.bind_eq_bind, Option.bind_eq_some_iff, Option.pure_def,
    Option.some.injEq] at read
  obtain ⟨fields, inside, entities, first, locations, second, exits, third, properties, _, rules, _,
    start, _, extra, others, rfl⟩ := read
  have layout : Layout (slots ⟨entities, locations, exits, properties, rules, start, extra⟩) extra :=
    ⟨by simp [slots], extra_of_others? others⟩
  have entities' := Entity.keeps.list (listed_read first)
  have exits' := Exit.keeps.list (listed_read third)
  have locations' : List.Forall₂ Kept ((listed fields "locations").flatMap locationRecords)
      ((itemsOfJson (locations.map Location.toJson)).flatMap locationRecords) := by
    have linked : List.Forall₂ (fun item written => ∃ location,
        Location.ofDocument? item = some location ∧ written = ofJson location.toJson)
        (listed fields "locations") (itemsOfJson (locations.map Location.toJson)) := by
      rw [itemsOfJson_eq, List.map_map, List.forall₂_map_right_iff]
      exact (listed_read second).imp fun item location read => ⟨location, read, rfl⟩
    refine List.rel_flatMap linked ?_
    rintro item _ ⟨location, read, rfl⟩
    exact location.kept_with_exits item read
  have first' := layout.listed (by simp [slots] :
    ("entities", some (.array (entities.map Entity.toJson))) ∈ slots _)
  have second' := layout.listed (by simp [slots] :
    ("locations", some (.array (locations.map Location.toJson))) ∈ slots _)
  have third' := layout.listed (by simp [slots] :
    ("exits", some (.array (exits.map Exit.toJson))) ∈ slots _)
  rw [worldRecords, members_of_members? inside, toJson_eq, ofJson, ofFields, worldRecords]
  simp only [Document.members, first', second', third']
  exact List.rel_append (List.rel_append entities' locations') exits'

/-! Payloads -/

theorem Document.payloadFields_of_recordMembers? {names : List String} {document : Document}
    {fields : Fields Document} (inside : document.recordMembers? names = some fields) :
    payloadFields names document = fields := by
  rw [payloadFields, inside]
  rfl

theorem Document.payloadFields_ofJson (names : List String) (fields : Fields Json) :
    payloadFields names (ofJson (.object fields)) = fieldsOfJson fields := rfl

theorem Document.listed_only (name : String) (items : List Json) :
    listed (fieldsOfJson [(name, .array items)]) name = itemsOfJson items := by
  simp [listed, fieldsOfJson, ofJson, ofItems, Document.items]

theorem Fields.names_map {α β : Type} (fields : Fields α) (change : α → β) :
    names (fields.map fun entry => (entry.1, change entry.2)) = names fields := by
  rw [names, List.map_map]
  rfl

private theorem linked_mapped {α : Type} {read : Document → Option α} {fields : Fields Document}
    {name : String} {entries : Fields α}
    (found : fieldOr? fields name [] (dictionary? read) = some entries) :
    Fields.Linked (fun item value => read item = some value)
      (Fields.ofList (mapped fields name)) entries := by
  obtain ⟨held, there, found⟩ := Option.bind_eq_some_iff.mp found
  rw [mapped_of_single? there]
  cases held with
  | none =>
    cases found
    exact .nil
  | some document =>
    cases document with
    | object span members =>
      simp only [dictionary?, Option.bind_eq_bind, Option.bind_eq_some_iff, Option.pure_def,
        Option.some.injEq] at found
      obtain ⟨values, each, rfl⟩ := found
      have linked : Fields.Linked (fun item value => read item = some value) members values := by
        refine (forall₂_of_mapM each).imp fun member value held => ?_
        obtain ⟨inner, there, rfl⟩ := Option.map_eq_some_iff.mp held
        exact ⟨rfl, there⟩
      simpa [Document.members] using linked.ofList
    | _ => cases found

theorem DefinitionIndex.kept_records {document : Document} {index : DefinitionIndex}
    (read : ofDocument? document = some index) :
    List.Forall₂ Kept (records .definitionIndex document)
      (records .definitionIndex (ofJson index.toJson)) := by
  simp only [ofDocument?, Option.bind_eq_bind, Option.bind_eq_some_iff, Option.pure_def,
    Option.some.injEq] at read
  obtain ⟨fields, inside, definitions, found, rfl⟩ := read
  have distinct : (Fields.names definitions).Nodup := by
    rcases fieldOr?_eq_some found with rfl | ⟨map, read⟩
    · exact .nil
    · exact (of_dictionary read).1
  have linked := (linked_mapped found).sorted
  have rising := Fields.rising_sorted distinct
  generalize Fields.sorted definitions = definitions at linked rising
  let members : Fields Json := definitions.map fun entry => (entry.1, entry.2.toJson)
  have rising : Fields.Rising (fieldsOfJson members) := by
    rw [Fields.Rising, names_fieldsOfJson, Fields.names_map]
    exact rising
  have after : records .definitionIndex (ofJson (toJson ⟨definitions⟩)) =
      (fieldsOfJson members).map fun (name, site) => .ofDocument .site name site := by
    have only : mapped (fieldsOfJson [("definitions", .object members)]) "definitions" =
        fieldsOfJson members := List.append_nil _
    rw [records, toJson, payloadFields_ofJson, only, Fields.ofList_distinct rising.distinct,
      Fields.sorted_rising rising]
  rw [after, records, payloadFields_of_recordMembers? inside, fieldsOfJson_eq, List.map_map,
    List.map_map, List.forall₂_map_left_iff, List.forall₂_map_right_iff]
  refine linked.imp fun item site both => ?_
  obtain ⟨name, document⟩ := item
  obtain ⟨other, site⟩ := site
  obtain ⟨same, read⟩ := both
  cases same
  exact DefinitionSite.keeps document site read (some name)

namespace ChunkValue

private theorem kept_records {name : ChunkName} {document : Document} {value : ChunkValue}
    (read : ofDocument? name document = some value) :
    List.Forall₂ Kept (records name document) (records name (Document.ofJson value.toJson)) := by
  cases name <;> obtain ⟨typed, found, rfl⟩ := Option.map_eq_some_iff.mp read
  case propertyDependencyIndex => exact .nil
  case definitionIndex => exact DefinitionIndex.kept_records found
  case compiledWorld =>
    obtain ⟨payload, valued, found⟩ := Option.bind_eq_some_iff.mp found
    obtain ⟨world, typing, same⟩ := Option.bind_eq_some_iff.mp found
    obtain rfl : (⟨world, payload⟩ : ResolvedWorld) = typed := Option.some.inj same
    have again : (ofJson world.toJson).json? = some world.toJson := json?_ofJson (World.proper typing)
    simp only [records, valued, toJson, again, World.normalized_toJson typing]
    exact World.kept_records typing
  all_goals
    simp only [SyntaxTree.ofDocument?, SymbolTable.ofDocument?, FactSet.ofDocument?,
      Diagnostics.ofDocument?, Option.bind_eq_bind, Option.bind_eq_some_iff, Option.pure_def,
      Option.some.injEq] at found
    obtain ⟨fields, inside, values, found, rfl⟩ := found
    rw [records, payloadFields_of_recordMembers? inside]
  case syntaxTree =>
    have kept := SyntaxNode.each_kept_below values _ (listed_read found)
    rw [← listed_only "nodes", ← SyntaxNode.listToJson_eq] at kept
    exact kept
  case symbolTable =>
    have kept := Symbol.keeps.list (listed_read found)
    rw [← listed_only "symbols"] at kept
    exact kept
  case factSet =>
    have kept := Fact.keeps.list (listed_read found)
    rw [← listed_only "facts"] at kept
    exact kept
  case diagnostics =>
    have kept := Diagnostic.keeps.list (listed_read found)
    rw [← listed_only "items"] at kept
    exact kept

/-- Typing keeps the other fields of every record of a payload whose type has a place for them, and
drops those of definition sites and diagnostics. -/
theorem typing_keeps_fields {name : ChunkName} {payload : String} {value : ChunkValue}
    (typed : decode? name payload = some value) :
    ∃ document, Document.read? payload = some document ∧
      List.Forall₂ Kept (records name document) (records name (Document.ofJson value.toJson)) := by
  obtain ⟨document, found, read⟩ := Option.bind_eq_some_iff.mp typed
  exact ⟨document, found, kept_records read⟩

def annotatedNodes : String :=
  "\x7b\"nodes\":[\x7b\"a\":1,\"a\":[2],\"children\":[\x7b\"b\":null\x7d]\x7d]\x7d"

def writtenNodes : String :=
  "\x7b\"nodes\":[\x7b\"kind\":\"\",\"children\":[\x7b\"kind\":\"\",\"b\":null\x7d]," ++
    "\"a\":[2]\x7d]\x7d"

/-- Of two members with one name the last is kept, also if a node stands below another. -/
theorem typing_keeps_fields_of_nodes :
    ∃ value document, decode? .syntaxTree annotatedNodes = some value ∧
      value.toJson.text = writtenNodes ∧
      Document.read? annotatedNodes = some document ∧ (records .syntaxTree document).length = 2 ∧
      List.Forall₂ Kept (records .syntaxTree document)
        (records .syntaxTree (Document.ofJson value.toJson)) := by
  have written : (decode? .syntaxTree annotatedNodes).map (·.toJson.text) = some writtenNodes := by
    decide +kernel
  have count : (Document.read? annotatedNodes).map (fun document =>
      (records .syntaxTree document).length) = some 2 := by decide +kernel
  obtain ⟨value, typed, text⟩ := Option.map_eq_some_iff.mp written
  obtain ⟨document, found, kept⟩ := typing_keeps_fields typed
  rw [found] at count
  exact ⟨value, document, typed, text, found, Option.some.inj count, kept⟩

def suggestingReport : String :=
  "\x7b\"items\":[\x7b\"severity\":\"error\",\"message\":\"m\"," ++
    "\"suggestion\":\"add an exit\"\x7d]\x7d"

/-- A diagnostic has no place for a field that its type does not name. -/
theorem suggestion_dropped :
    ∃ document value, Document.read? suggestingReport = some document ∧
      ofDocument? .diagnostics document = some value ∧
      (∃ before ∈ records .diagnostics document, before.kind = .diagnostic ∧
        "suggestion" ∉ before.kind.fieldNames ∧
        (before.field? "suggestion").bind string? = some "add an exit") ∧
      ∀ after ∈ records .diagnostics (Document.ofJson value.toJson),
        after.field? "suggestion" = none := by
  have before : (Document.read? suggestingReport).map (fun document =>
      (records .diagnostics document).map fun record =>
        (record.kind, (record.field? "suggestion").bind string?)) =
      some [(.diagnostic, some "add an exit")] := by decide +kernel
  have after : (decode? .diagnostics suggestingReport).map (fun value =>
      (records .diagnostics (Document.ofJson value.toJson)).map fun record =>
        (record.field? "suggestion").isNone) = some [true] := by decide +kernel
  obtain ⟨document, found, held⟩ := Option.map_eq_some_iff.mp before
  obtain ⟨value, typed, dropped⟩ := Option.map_eq_some_iff.mp after
  refine ⟨document, value, found, ?_, ?_, fun record member => ?_⟩
  · rw [decode?, found] at typed
    exact typed
  · obtain ⟨record, member, same⟩ : ∃ record ∈ records .diagnostics document,
        (record.kind, (record.field? "suggestion").bind string?) =
          (.diagnostic, some "add an exit") :=
      List.mem_map.mp (held ▸ List.mem_singleton_self _)
    obtain ⟨kind, held⟩ := Prod.mk.inj same
    exact ⟨record, member, kind, by rw [kind]; decide, held⟩
  · have absent : (record.field? "suggestion").isNone ∈ [true] :=
      dropped ▸ List.mem_map.mpr ⟨record, member, rfl⟩
    exact Option.isNone_iff_eq_none.mp (List.mem_singleton.mp absent)

end ChunkValue

end LiveCompile
