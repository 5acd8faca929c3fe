import LiveCompile.Chunk.Value
import LiveCompile.Proofs.WorldReread

/-! The typed values of chunks are read back as they were written. -/

namespace LiveCompile

open Document

/-! Records that keep other members -/

namespace Symbol

def slots (symbol : Symbol) : List (String × Option Json) :=
  [("name", some (.string symbol.name)), ("kind", some (.string symbol.kind)),
    ("file", symbol.file.map .string), ("line", symbol.line.map Json.nat)]

theorem toJson_eq (symbol : Symbol) :
    symbol.toJson = .object (written symbol.slots ++ symbol.extra) := by
  obtain ⟨name, kind, file, line, extra⟩ := symbol
  cases file <;> cases line <;> rfl

private theorem rereads : Rereads ofDocument? toJson := by
  intro document symbol read
  simp only [ofDocument?, Option.bind_eq_bind, Option.bind_eq_some_iff, Option.pure_def,
    Option.some.injEq] at read
  obtain ⟨fields, _, name, named, kind, kinded, file, filed, line, lined, extra, others, rfl⟩ := read
  have layout : Layout (slots ⟨name, kind, file, line, extra⟩) extra :=
    ⟨by simp [slots], extra_of_others? others⟩
  have name' := layout.always rereads_string named rfl (by simp [slots])
  have kind' := layout.always rereads_string kinded rfl (by simp [slots])
  have file' := layout.optional rereads_string string_filled filed (by simp [slots])
  have line' := layout.optional (rereads_natUpTo _) nat_filled lined (by simp [slots])
  have others' : others? _ ["name", "kind", "file", "line"] = _ := layout.others
  rw [Returns, toJson_eq]
  simp only [ofJson, ofFields, ofDocument?, members?, Option.bind_eq_bind, Option.bind_some, name',
    kind', file', line', others']
  rfl

end Symbol

namespace Fact

def slots (fact : Fact) : List (String × Option Json) :=
  [("subject", some (.string fact.subject)), ("predicate", some (.string fact.predicate)),
    ("object", some fact.object)]

private theorem rereads : Rereads ofDocument? toJson := by
  intro document fact read
  simp only [ofDocument?, Option.bind_eq_bind, Option.bind_eq_some_iff, Option.pure_def,
    Option.some.injEq] at read
  obtain ⟨fields, _, subject, first, predicate, second, object, third, extra, others, rfl⟩ := read
  have layout : Layout (slots ⟨subject, predicate, object, extra⟩) extra :=
    ⟨by simp [slots], extra_of_others? others⟩
  have subject' := layout.always rereads_string first rfl (by simp [slots])
  have predicate' := layout.always rereads_string second rfl (by simp [slots])
  have object' := layout.always rereads_json third rfl (by simp [slots])
  have others' : others? _ ["subject", "predicate", "object"] = _ := layout.others
  have same : toJson ⟨subject, predicate, object, extra⟩ =
      .object (written (slots ⟨subject, predicate, object, extra⟩) ++ extra) := rfl
  rw [Returns, same]
  simp only [ofJson, ofFields, ofDocument?, members?, Option.bind_eq_bind, Option.bind_some,
    subject', predicate', object', others']
  rfl

end Fact

namespace SyntaxNode

private theorem listOfDocuments?_eq (items : List Document) :
    listOfDocuments? items = items.mapM ofDocument? := by
  induction items with
  | nil => rfl
  | cons item rest ih => rw [listOfDocuments?, ih, List.mapM_cons]

theorem listToJson_eq (nodes : List SyntaxNode) : listToJson nodes = nodes.map toJson := by
  induction nodes with
  | nil => rfl
  | cons node rest ih => rw [listToJson, ih, List.map_cons]

private theorem childLists?_eq (fields : Fields Document) :
    childLists? fields = (fields.filter (·.1 == "children")).mapM fun entry =>
      list? ofDocument? entry.2 := by
  induction fields with
  | nil => rfl
  | cons first rest ih =>
    obtain ⟨name, document⟩ := first
    by_cases same : name = "children"
    · subst same
      cases document <;> simp [childLists?, list?, listOfDocuments?_eq, ih]
    · cases document <;> simp [childLists?, same, ih]

/-- The children, if they are listed once at most. -/
def only? : List (List SyntaxNode) → Option (List SyntaxNode)
  | [] => some []
  | [children] => some children
  | _ => none

private theorem only?_eq (fields : Fields Document) :
    (childLists? fields).bind only? = fieldOr? fields "children" [] (list? ofDocument?) := by
  rw [childLists?_eq, fieldOr?, single?]
  generalize fields.filter (·.1 == "children") = found
  rcases found with _ | ⟨first, _ | ⟨second, rest⟩⟩
  · rfl
  · cases read : list? ofDocument? first.2 <;> simp [read, only?]
  · refine Option.bind_eq_none_iff.mpr fun lists read => ?_
    simp only [List.mapM_cons, Option.bind_eq_bind, Option.bind_eq_some_iff, Option.pure_def,
      Option.some.injEq] at read
    obtain ⟨one, _, _, ⟨two, _, others, _, rfl⟩, rfl⟩ := read
    rfl

theorem ofDocument?_object (span : Span) (fields : Fields Document) :
    ofDocument? (.object span fields) = do
      return {
        kind := ← fieldOr? fields "kind" "" string?
        name := ← fieldOr? fields "name" none (nullable? string?)
        file := ← fieldOr? fields "file" none (nullable? string?)
        line := ← fieldOr? fields "line" none (nullable? (natUpTo? maxPosition))
        children := ← fieldOr? fields "children" [] (list? ofDocument?)
        extra := ← others? fields fieldNames } := by
  simp only [← only?_eq, ofDocument?]
  cases childLists? fields with
  | none => rfl
  | some lists => rcases lists with _ | ⟨children, _ | _⟩ <;> rfl

def slots (node : SyntaxNode) : List (String × Option Json) :=
  [("kind", some (.string node.kind)), ("name", node.name.map .string),
    ("file", node.file.map .string), ("line", node.line.map Json.nat),
    ("children", if node.children.isEmpty then none else some (.array (node.children.map toJson)))]

theorem toJson_eq (node : SyntaxNode) :
    node.toJson = .object (written node.slots ++ node.extra) := by
  obtain ⟨kind, name, file, line, children, extra⟩ := node
  rw [toJson, listToJson_eq]
  cases name <;> cases file <;> cases line <;> cases children <;> rfl

private theorem children_reread {slots : List (String × Option Json)} {extra : Fields Json}
    {children : List SyntaxNode} (layout : Layout slots extra)
    (slot : ("children", if children.isEmpty then none else
      some (.array (children.map toJson))) ∈ slots)
    (each : ∀ child ∈ children, Returns ofDocument? toJson child) :
    fieldOr? (fieldsOfJson (written slots ++ extra)) "children" [] (list? ofDocument?) =
      some children := by
  rw [layout.fieldOr? slot]
  cases children with
  | nil => rfl
  | cons child rest => exact mapM_returns each

mutual

theorem returns (node : SyntaxNode) (read : ∃ document, ofDocument? document = some node) :
    Returns ofDocument? toJson node := by
  obtain ⟨kind, name, file, line, children, extra⟩ := node
  obtain ⟨document, read⟩ := read
  cases document with
  | object span fields =>
    simp only [ofDocument?_object, Option.bind_eq_bind, Option.bind_eq_some_iff, Option.pure_def,
      Option.some.injEq] at read
    obtain ⟨kind, kinded, name, named, file, filed, line, lined, children, nested, extra, others,
      same⟩ := read
    cases same
    have layout : Layout (slots ⟨kind, name, file, line, children, extra⟩) extra :=
      ⟨by simp [slots], extra_of_others? others⟩
    have inner : ∀ child ∈ children, ∃ document, ofDocument? document = some child := by
      rcases fieldOr?_eq_some nested with rfl | ⟨document, found⟩
      · simp
      · exact read_of_list found
    have kind' := layout.always rereads_string kinded rfl (by simp [slots])
    have name' := layout.optional rereads_string string_filled named (by simp [slots])
    have file' := layout.optional rereads_string string_filled filed (by simp [slots])
    have line' := layout.optional (rereads_natUpTo _) nat_filled lined (by simp [slots])
    have children' := children_reread layout (by simp [slots]) (each_returns children inner)
    have others' : others? _ fieldNames = _ := layout.others
    rw [Returns, toJson_eq, ofJson, ofFields, ofDocument?_object]
    simp only [Option.bind_eq_bind, Option.bind_some, kind', name', file', line', children', others']
    rfl
  | _ => simp [ofDocument?] at read

theorem each_returns (nodes : List SyntaxNode)
    (read : ∀ node ∈ nodes, ∃ document, ofDocument? document = some node) :
    ∀ node ∈ nodes, Returns ofDocument? toJson node := by
  cases nodes with
  | nil => simp
  | cons node rest =>
    obtain ⟨here, later⟩ := List.forall_mem_cons.mp read
    exact List.forall_mem_cons.mpr ⟨returns node here, each_returns rest later⟩

end

private theorem rereads :
    Rereads ofDocument? toJson := fun document node read => returns node ⟨document, read⟩

end SyntaxNode

/-! Records with known members only -/

theorem Layout.known {slots : List (String × Option Json)} (distinct : (slots.map (·.1)).Nodup) :
    Layout slots [] :=
  ⟨distinct, .nil, by simp, by simp⟩

theorem Severity.rereads : Rereads ofDocument? fun severity => .string severity.text := by
  rintro - severity -
  cases severity <;> rfl

namespace Diagnostic

def slots (diagnostic : Diagnostic) : List (String × Option Json) :=
  [("severity", some (.string diagnostic.severity.text)),
    ("message", some (.string diagnostic.message)), ("code", diagnostic.code.map .string),
    ("file", diagnostic.file.map .string), ("line", diagnostic.line.map Json.nat),
    ("column", diagnostic.column.map Json.nat)]

theorem toJson_eq (diagnostic : Diagnostic) :
    diagnostic.toJson = .object (written diagnostic.slots ++ []) := by
  obtain ⟨severity, message, code, file, line, column⟩ := diagnostic
  cases code <;> cases file <;> cases line <;> cases column <;> rfl

private theorem rereads : Rereads ofDocument? toJson := by
  intro document diagnostic read
  simp only [ofDocument?, Option.bind_eq_bind, Option.bind_eq_some_iff, Option.pure_def,
    Option.some.injEq] at read
  obtain ⟨fields, _, severity, first, message, second, code, third, file, fourth, line, fifth,
    column, sixth, rfl⟩ := read
  have layout : Layout (slots ⟨severity, message, code, file, line, column⟩) [] :=
    .known (by simp [slots])
  have severity' := layout.always Severity.rereads first rfl (by simp [slots])
  have message' := layout.always rereads_string second rfl (by simp [slots])
  have code' := layout.optional rereads_string string_filled third (by simp [slots])
  have file' := layout.optional rereads_string string_filled fourth (by simp [slots])
  have line' := layout.optional (rereads_natUpTo _) nat_filled fifth (by simp [slots])
  have column' := layout.optional (rereads_natUpTo _) nat_filled sixth (by simp [slots])
  rw [Returns, toJson_eq]
  simp only [ofJson, ofFields, ofDocument?, recordMembers?, Option.bind_eq_bind, Option.bind_some,
    severity', message', code', file', line', column']
  rfl

end Diagnostic

namespace DefinitionSite

def slots (site : DefinitionSite) : List (String × Option Json) :=
  [("file", some (.string site.file)), ("line", some (Json.nat site.line)),
    ("column", some (Json.nat site.column))]

private theorem rereads : Rereads ofDocument? toJson := by
  intro document site read
  simp only [ofDocument?, Option.bind_eq_bind, Option.bind_eq_some_iff, Option.pure_def,
    Option.some.injEq] at read
  obtain ⟨fields, _, file, filed, line, lined, column, columned, rfl⟩ := read
  have layout : Layout (slots ⟨file, line, column⟩) [] := .known (by simp [slots])
  have file' := layout.always rereads_string filed rfl (by simp [slots])
  have line' := layout.always (rereads_natUpTo _) lined rfl (by simp [slots])
  have column' := layout.always (rereads_natUpTo _) columned rfl (by simp [slots])
  have same : toJson ⟨file, line, column⟩ =
      .object (written (slots ⟨file, line, column⟩) ++ []) := rfl
  rw [Returns, same]
  simp only [ofJson, ofFields, ofDocument?, recordMembers?, Option.bind_eq_bind, Option.bind_some,
    file', line', column']
  rfl

end DefinitionSite

private theorem single_reread {α : Type} {read : Document → Option α} {write : α → Json}
    {fields : Fields Document} {name : String} {absent value : α} (rereads : Rereads read write)
    (found : fieldOr? fields name absent read = some value) (base : Returns read write absent) :
    fieldOr? (fieldsOfJson [(name, write value)]) name absent read = some value :=
  (Layout.known (by simp)).always rereads found base (List.mem_singleton_self _)

theorem SyntaxTree.rereads : Rereads ofDocument? toJson := by
  intro document tree read
  simp only [ofDocument?, Option.bind_eq_bind, Option.bind_eq_some_iff, Option.pure_def,
    Option.some.injEq] at read
  obtain ⟨fields, _, nodes, found, rfl⟩ := read
  have nodes' := single_reread (rereads_list SyntaxNode.rereads) found rfl
  simp only [Returns, toJson, SyntaxNode.listToJson_eq, ofJson, ofFields, ofDocument?,
    recordMembers?, Option.bind_eq_bind, Option.bind_some, nodes']
  rfl

theorem SymbolTable.rereads : Rereads ofDocument? toJson := by
  intro document table read
  simp only [ofDocument?, Option.bind_eq_bind, Option.bind_eq_some_iff, Option.pure_def,
    Option.some.injEq] at read
  obtain ⟨fields, _, symbols, found, rfl⟩ := read
  have symbols' := single_reread (rereads_list Symbol.rereads) found rfl
  simp only [Returns, toJson, ofJson, ofFields, ofDocument?, recordMembers?, Option.bind_eq_bind,
    Option.bind_some, symbols']
  rfl

theorem FactSet.rereads : Rereads ofDocument? toJson := by
  intro document set read
  simp only [ofDocument?, Option.bind_eq_bind, Option.bind_eq_some_iff, Option.pure_def,
    Option.some.injEq] at read
  obtain ⟨fields, _, facts, found, rfl⟩ := read
  have facts' := single_reread (rereads_list Fact.rereads) found rfl
  simp only [Returns, toJson, ofJson, ofFields, ofDocument?, recordMembers?, Option.bind_eq_bind,
    Option.bind_some, facts']
  rfl

theorem Diagnostics.rereads : Rereads ofDocument? toJson := by
  intro document diagnostics read
  simp only [ofDocument?, Option.bind_eq_bind, Option.bind_eq_some_iff, Option.pure_def,
    Option.some.injEq] at read
  obtain ⟨fields, _, items, found, rfl⟩ := read
  have items' := single_reread (rereads_list Diagnostic.rereads) found rfl
  have own : canonicalName "items" = "items" := rfl
  simp only [fieldsOfJson] at items'
  rw [Returns, toJson, ofJson, ofFields]
  simp only [ofDocument?, recordMembers?, Option.bind_eq_bind, Option.bind_some, fieldsOfJson,
    List.map_cons, List.map_nil, own, items']
  rfl

/-! Maps in the order of their names -/

namespace Fields

variable {α : Type} {fields : Fields α} {name : String} {value : α} {entry : String × α}

private theorem mem_insertSorted :
    entry ∈ insertSorted name value fields ↔ entry = (name, value) ∨ entry ∈ fields := by
  induction fields with
  | nil => simp [insertSorted]
  | cons first rest ih =>
    obtain ⟨other, old⟩ := first
    unfold insertSorted
    split <;> simp [ih, or_left_comm]

private theorem mem_sorted : entry ∈ sorted fields ↔ entry ∈ fields := by
  induction fields with
  | nil => rfl
  | cons first rest ih =>
    rw [sorted, List.foldr_cons, mem_insertSorted, List.mem_cons]
    exact or_congr_right ih

/-- Names that rise. -/
def Rising (fields : Fields α) : Prop := (names fields).Pairwise (· < ·)

theorem Rising.distinct (rising : Rising fields) : (names fields).Nodup := by
  refine List.Pairwise.imp ?_ rising
  rintro name _ below rfl
  exact String.lt_irrefl name below

private theorem rising_insertSorted (rising : Rising fields) (new : name ∉ names fields) :
    Rising (insertSorted name value fields) := by
  induction fields with
  | nil => exact List.pairwise_singleton _ _
  | cons first rest ih =>
    obtain ⟨other, old⟩ := first
    obtain ⟨above, later⟩ := List.pairwise_cons.mp rising
    simp only [names_cons, List.mem_cons, not_or] at new
    unfold insertSorted
    split
    case isTrue below =>
      refine List.pairwise_cons.mpr ⟨fun next member => ?_, rising⟩
      rcases List.mem_cons.mp member with rfl | there
      · exact below
      · exact String.lt_trans below (above next there)
    case isFalse notBelow =>
      have below : other < name := by
        refine Decidable.byContradiction fun notAbove => new.1 ?_
        exact String.le_antisymm (String.not_lt.mp notAbove) (String.not_lt.mp notBelow)
      refine List.pairwise_cons.mpr ⟨fun next member => ?_, ih later new.2⟩
      obtain ⟨entry, inside, rfl⟩ := List.mem_map.mp member
      rcases mem_insertSorted.mp inside with rfl | there
      · exact below
      · exact above _ (mem_names there)

theorem rising_sorted (distinct : (names fields).Nodup) : Rising (sorted fields) := by
  induction fields with
  | nil => exact .nil
  | cons first rest ih =>
    obtain ⟨new, later⟩ := List.nodup_cons.mp distinct
    refine rising_insertSorted (ih later) fun there => new ?_
    obtain ⟨entry, inside, same⟩ := List.mem_map.mp there
    exact List.mem_map.mpr ⟨entry, mem_sorted.mp inside, same⟩

theorem sorted_rising (rising : Rising fields) : sorted fields = fields := by
  induction fields with
  | nil => rfl
  | cons first rest ih =>
    obtain ⟨name, value⟩ := first
    obtain ⟨above, later⟩ := List.pairwise_cons.mp rising
    have step : sorted ((name, value) :: rest) = insertSorted name value (sorted rest) := rfl
    rw [step, ih later]
    cases rest with
    | nil => rfl
    | cons second rest =>
      exact if_pos (above second.1 List.mem_cons_self)

end Fields

section
variable {α : Type} {read : Document → Option α} {write : α → Json}

def writeMap (write : α → Json) (entries : Fields α) : Json :=
  .object (entries.map fun (name, value) => (name, write value))

theorem map_returns {entries : Fields α} (distinct : (Fields.names entries).Nodup)
    (each : ∀ entry ∈ entries, Returns read write entry.2) :
    Returns (dictionary? read) (writeMap write) entries := by
  have values : (fieldsOfJson (entries.map fun entry => (entry.1, write entry.2))).mapM
      (fun entry => (read entry.2).map (entry.1, ·)) = some entries := by
    clear distinct
    induction entries with
    | nil => rfl
    | cons first rest ih =>
      obtain ⟨here, later⟩ := List.forall_mem_cons.mp each
      rw [Returns] at here
      simp [fieldsOfJson, here, ih later]
  calc dictionary? read (ofJson (writeMap write entries))
      = (some entries).bind fun entries => some (Fields.ofList entries) :=
        congrArg (Option.bind · fun entries => some (Fields.ofList entries)) values
    _ = some entries := congrArg some (Fields.ofList_distinct distinct)

theorem of_dictionary {document : Document} {entries : Fields α}
    (found : dictionary? read document = some entries) :
    (Fields.names entries).Nodup ∧ ∀ entry ∈ entries, ∃ item, read item = some entry.2 := by
  cases document with
  | object span fields =>
    simp only [dictionary?, Option.bind_eq_bind, Option.bind_eq_some_iff, Option.pure_def,
      Option.some.injEq] at found
    obtain ⟨members, values, rfl⟩ := found
    refine ⟨Fields.distinct_ofList members, fun entry member => ?_⟩
    obtain ⟨⟨name, item⟩, _, held⟩ := of_mapM values entry (Fields.mem_ofList member)
    obtain ⟨value, there, rfl⟩ := Option.map_eq_some_iff.mp held
    exact ⟨item, there⟩
  | _ => cases found

private theorem sorted_reread {fields : Fields Document} {name : String} {entries : Fields α}
    (rereads : Rereads read write) (found : fieldOr? fields name [] (dictionary? read) = some entries) :
    fieldOr? (fieldsOfJson [(name, writeMap write (Fields.sorted entries))]) name []
      (dictionary? read) = some (Fields.sorted entries) ∧
    Fields.sorted (Fields.sorted entries) = Fields.sorted entries := by
  have kept : (Fields.names entries).Nodup ∧ ∀ entry ∈ entries, ∃ item, read item = some entry.2 := by
    rcases fieldOr?_eq_some found with rfl | ⟨document, read⟩
    · exact ⟨.nil, by simp⟩
    · exact of_dictionary read
  have rising := Fields.rising_sorted kept.1
  refine ⟨?_, Fields.sorted_rising rising⟩
  have returns : Returns (dictionary? read) (writeMap write) (Fields.sorted entries) := by
    refine map_returns rising.distinct fun entry member => ?_
    obtain ⟨item, read⟩ := kept.2 entry (Fields.mem_sorted.mp member)
    exact rereads item _ read
  have layout : Layout [(name, some (writeMap write (Fields.sorted entries)))] [] := .known (by simp)
  exact (layout.fieldOr? (List.mem_singleton_self _) []).trans returns

end

theorem PropertyDependencyIndex.rereads : Rereads ofDocument? toJson := by
  intro document index read
  simp only [ofDocument?, Option.bind_eq_bind, Option.bind_eq_some_iff, Option.pure_def,
    Option.some.injEq] at read
  obtain ⟨fields, _, dependencies, found, rfl⟩ := read
  obtain ⟨dependencies', sorted⟩ := sorted_reread (rereads_list rereads_string) found
  rw [writeMap] at dependencies'
  simp only [Returns, toJson, ofJson, ofFields, ofDocument?, recordMembers?, Option.bind_eq_bind,
    Option.bind_some, dependencies', sorted]
  rfl

theorem DefinitionIndex.rereads : Rereads ofDocument? toJson := by
  intro document index read
  simp only [ofDocument?, Option.bind_eq_bind, Option.bind_eq_some_iff, Option.pure_def,
    Option.some.injEq] at read
  obtain ⟨fields, _, definitions, found, rfl⟩ := read
  obtain ⟨definitions', sorted⟩ := sorted_reread DefinitionSite.rereads found
  rw [writeMap] at definitions'
  simp only [Returns, toJson, ofJson, ofFields, ofDocument?, recordMembers?, Option.bind_eq_bind,
    Option.bind_some, definitions', sorted]
  rfl

theorem ResolvedWorld.rereads {document : Document} {resolved : ResolvedWorld}
    (read : ofDocument? document = some resolved) :
    World.normalized resolved.world.toJson = resolved.world.toJson ∧
      World.ofDocument? (Document.ofJson (World.normalized resolved.world.toJson)) =
        some resolved.world ∧
      ofDocument? (Document.ofJson resolved.world.toJson) =
        some ⟨resolved.world, resolved.world.toJson⟩ := by
  simp only [ofDocument?, ofPayload?, Option.bind_eq_bind, Option.bind_eq_some_iff, Option.pure_def,
    Option.some.injEq] at read
  obtain ⟨payload, _, world, typed, rfl⟩ := read
  have normal := World.normalized_toJson typed
  have back := World.rereads _ _ typed
  rw [Returns] at back
  refine ⟨normal, by rw [normal, back], ?_⟩
  simp only [ofDocument?, ofPayload?, Option.bind_eq_bind, json?_ofJson (World.proper typed),
    Option.bind_some, normal, back]
  rfl

namespace ChunkValue

/-- Whatever was read from a payload, what it writes is read as the same value. A world is written
in normal form, and its text takes the place of the payload it was read from. -/
theorem reread_as_written {name : ChunkName} {document : Document} {value : ChunkValue}
    (read : ofDocument? name document = some value) :
    (name ≠ .compiledWorld → ofDocument? name (Document.ofJson value.toJson) = some value) ∧
      ∀ resolved, value = .compiledWorld resolved →
        World.normalized value.toJson = value.toJson ∧
        World.ofDocument? (Document.ofJson (World.normalized value.toJson)) = some resolved.world ∧
        ofDocument? name (Document.ofJson value.toJson) =
          some (.compiledWorld ⟨resolved.world, value.toJson⟩) := by
  cases name <;>
    (obtain ⟨typed, found, rfl⟩ := Option.map_eq_some_iff.mp read
     refine ⟨fun other => ?_, fun resolved same => ?_⟩)
  case syntaxTree.refine_1 => exact congrArg (Option.map syntaxTree) (SyntaxTree.rereads _ _ found)
  case symbolTable.refine_1 => exact congrArg (Option.map symbolTable) (SymbolTable.rereads _ _ found)
  case factSet.refine_1 => exact congrArg (Option.map factSet) (FactSet.rereads _ _ found)
  case propertyDependencyIndex.refine_1 =>
    exact congrArg (Option.map propertyDependencyIndex) (PropertyDependencyIndex.rereads _ _ found)
  case definitionIndex.refine_1 =>
    exact congrArg (Option.map definitionIndex) (DefinitionIndex.rereads _ _ found)
  case diagnostics.refine_1 => exact congrArg (Option.map diagnostics) (Diagnostics.rereads _ _ found)
  case compiledWorld.refine_1 => exact absurd rfl other
  case compiledWorld.refine_2 =>
    cases same
    obtain ⟨normal, back, again⟩ := ResolvedWorld.rereads found
    exact ⟨normal, back, congrArg (Option.map compiledWorld) again⟩
  all_goals cases same

def nestedTree : Document := .ofJson (.array [.array [.object
  [("children", .array [.object [("kind", .string "link"), ("target", .string "hall")]]),
    ("note", .null), ("kind", .string "passage")]]])

def renamedReports : Document := .ofJson (.object
  [("diagnostics", .array [.array [.string "warning", .string "unused"]])])

def keyedWorld : Document := .ofJson (.object
  [("mood", .string "calm"), ("locations", .object [("hall", .object
    [("exits", .object [("north", .string "yard")]), ("dark", .bool true)])])])

/-- A tree given as arrays, reports under their other name, and a world keyed by id. -/
theorem reread_as_written_nested :
    (∃ tree, ofDocument? .syntaxTree nestedTree = some tree ∧
      tree = .syntaxTree ⟨[⟨"passage", none, none, none,
        [⟨"link", none, none, none, [], [("target", .string "hall")]⟩], [("note", .null)]⟩]⟩ ∧
      ofDocument? .syntaxTree (Document.ofJson tree.toJson) = some tree) ∧
    (∃ reports, ofDocument? .diagnostics renamedReports = some reports ∧
      reports = .diagnostics ⟨[⟨.warning, "unused", none, none, none, none⟩]⟩ ∧
      ofDocument? .diagnostics (Document.ofJson reports.toJson) = some reports) ∧
    ∃ resolved, ofDocument? .compiledWorld keyedWorld = some (.compiledWorld resolved) ∧
      resolved.world = ⟨[], [⟨"hall", none, none, [⟨"north", "yard", []⟩], [("dark", .bool true)]⟩],
        [], [], [], none, [("mood", .string "calm")]⟩ ∧
      ofDocument? .compiledWorld (Document.ofJson resolved.world.toJson) =
        some (.compiledWorld ⟨resolved.world, resolved.world.toJson⟩) := by
  have tree : ofDocument? .syntaxTree nestedTree = some (.syntaxTree _) := rfl
  have reports : ofDocument? .diagnostics renamedReports = some (.diagnostics _) := rfl
  have world : ofDocument? .compiledWorld keyedWorld = some (.compiledWorld _) := rfl
  exact ⟨⟨_, tree, rfl, (reread_as_written tree).1 (by decide)⟩,
    ⟨_, reports, rfl, (reread_as_written reports).1 (by decide)⟩,
    ⟨_, world, rfl, ((reread_as_written world).2 _ rfl).2.2⟩⟩

end ChunkValue

end LiveCompile
