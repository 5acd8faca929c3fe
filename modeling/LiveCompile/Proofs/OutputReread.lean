import LiveCompile.Cache
import LiveCompile.Proofs.HeaderReread
import LiveCompile.Proofs.RecordFields

/-! An output that was read from a text is written to a text that is read as the same output. The
header is written from its values; the payload of a chunk keeps the octets that it had in the text it
was first read from, where it stands between blanks. -/

namespace LiveCompile

open Document

namespace Document

/-! Parts of a document -/

def valuesOf (fields : Fields Document) (name : String) : List Document :=
  (fields.filter (·.1 == name)).map (·.2)

/-- The payloads of the chunks in an output. -/
def payloads (document : Document) : List Document :=
  (listed (payloadFields ["header", "chunks"] document) "chunks").flatMap fun chunk =>
    valuesOf (payloadFields ["name", "data", "contentHash"] chunk) "data"

section
variable {document part : Document}

theorem Spelled.item (spelled : Spelled document) (inside : part ∈ document.items) :
    Spelled part := by
  cases spelled with
  | null | bool => cases inside
  | @number span literal =>
    cases value : literal.value? <;> rw [value] at inside <;> cases inside
  | @string span value => cases value <;> cases inside
  | array each => exact each part inside
  | @object span members =>
    rw [ofMembers_eq] at inside
    cases named : members.mapM named? <;> rw [named] at inside <;> cases inside

theorem Spelled.member {entry : String × Document} (spelled : Spelled document)
    (inside : entry ∈ document.members) : Spelled entry.2 := by
  cases spelled with
  | null | bool | array => cases inside
  | @number span literal =>
    cases value : literal.value? <;> rw [value] at inside <;> cases inside
  | @string span value => cases value <;> cases inside
  | @object span members each =>
    rw [ofMembers_eq] at inside
    cases named : members.mapM named? with
    | none => rw [named] at inside; cases inside
    | some fields =>
      rw [named] at inside
      obtain ⟨member, there, same⟩ := of_mapM named entry inside
      obtain ⟨name, _, rfl⟩ := Option.map_eq_some_iff.mp same
      exact each member there

theorem Spelled.field {names : List String} {entry : String × Document} (spelled : Spelled document)
    (inside : entry ∈ payloadFields names document) : Spelled entry.2 := by
  cases document with
  | object span fields => exact spelled.member inside
  | array span items =>
    simp only [payloadFields, recordMembers?] at inside
    split at inside
    · exact spelled.item (List.of_mem_zip inside).2
    · cases inside
  | _ => cases inside

theorem Spelled.payload (spelled : Spelled document) (inside : part ∈ payloads document) :
    Spelled part := by
  obtain ⟨chunk, listing, there⟩ := List.mem_flatMap.mp inside
  obtain ⟨entry, held, rfl⟩ := List.mem_map.mp there
  obtain ⟨list, field, item⟩ := List.mem_flatMap.mp listing
  have chunkSpelled := (spelled.field (List.mem_filter.mp field).1).item item
  exact chunkSpelled.field (List.mem_filter.mp held).1

end

/-! Parts within the depth limit -/

private theorem items_within (depth : Nat) (document : Document) :
    (within (depth + 1) document).items = document.items.map (within depth) := by
  cases document with
  | array span items => exact itemsWithin_eq depth items
  | _ => rfl

private theorem payloadFields_within (names : List String) (depth : Nat) (document : Document) :
    payloadFields names (within (depth + 1) document) =
      fieldsWithin depth (payloadFields names document) := by
  cases document with
  | array span items =>
    have zipped : names.zip (itemsWithin depth items) = fieldsWithin depth (names.zip items) := by
      rw [itemsWithin_eq, fieldsWithin_eq, List.zip_map_right]
      rfl
    have length : (itemsWithin depth items).length = items.length := by
      rw [itemsWithin_eq, List.length_map]
    simp only [payloadFields, within, recordMembers?, length, zipped]
    split <;> rfl
  | _ => rfl

private theorem filter_fieldsWithin (depth : Nat) (fields : Fields Document) (name : String) :
    (fieldsWithin depth fields).filter (·.1 == name) =
      fieldsWithin depth (fields.filter (·.1 == name)) := by
  rw [fieldsWithin_eq, fieldsWithin_eq, List.filter_map]
  rfl

private theorem listed_within (depth : Nat) (fields : Fields Document) (name : String) :
    listed (fieldsWithin (depth + 1) fields) name = (listed fields name).map (within depth) := by
  rw [listed, listed, filter_fieldsWithin, fieldsWithin_eq, List.flatMap_map, List.map_flatMap]
  simp only [items_within]

private theorem valuesOf_within (depth : Nat) (fields : Fields Document) (name : String) :
    valuesOf (fieldsWithin depth fields) name = (valuesOf fields name).map (within depth) := by
  rw [valuesOf, valuesOf, filter_fieldsWithin, fieldsWithin_eq, List.map_map, List.map_map]
  rfl

private theorem payloads_within (depth : Nat) (document : Document) :
    payloads (within (depth + 3) document) = (payloads document).map (within depth) := by
  rw [payloads, payloads, payloadFields_within, listed_within, List.flatMap_map, List.map_flatMap]
  simp only [payloadFields_within, valuesOf_within]

private theorem within_ofFields (depth : Nat) (fields : Fields Document) :
    within (depth + 1) (ofFields fields) = ofFields (fieldsWithin depth fields) := by
  rw [ofFields, ofFields, within, fieldsWithin_eq, List.map_map]
  simp [Function.comp_def]

private theorem within_ofItems (depth : Nat) (items : List Document) :
    within (depth + 1) (ofItems items) = ofItems (items.map (within depth)) := by
  rw [ofItems, ofItems, within, itemsWithin_eq, List.map_map]
  simp [Function.comp_def]

private theorem within_string (depth : Nat) (text : String) :
    within depth (ofJson (.string text)) = ofJson (.string text) :=
  within_ofJson (.string text)

end Document

/-! Chunks -/

namespace RawChunk

/-- The payload of a chunk is what a document is written as. -/
def Carries (payload : Document) (chunk : RawChunk) : Prop := payload.source = octets chunk.payload

def document (chunk : RawChunk) (payload : Document) : Document := .ofFields
  [("name", .ofJson (.string chunk.name.text)), ("data", payload),
    ("contentHash", .ofJson (.string chunk.hash.token))]

variable {chunk : RawChunk} {payload : Document}

theorem Carries.text? (carries : Carries payload chunk) : payload.text? = some chunk.payload := by
  rw [Document.text?, carries, fromUTF8?_octets]

private theorem carries_of_text? (held : payload.text? = some chunk.payload) :
    Carries payload chunk :=
  (octets_of_fromUTF8? held).symm

private theorem carries_of_read {document : Document} (read : ofDocument? document = some chunk) :
    List.Forall₂ Carries
      (valuesOf (payloadFields ["name", "data", "contentHash"] document) "data") [chunk] := by
  simp only [ofDocument?, Option.bind_eq_bind, Option.bind_eq_some_iff, Option.pure_def,
    Option.some.injEq] at read
  obtain ⟨fields, inside, name, _, text, found, hash, _, rfl⟩ := read
  obtain ⟨held, there, found⟩ := Option.bind_eq_some_iff.mp found
  obtain ⟨payload, rfl, held⟩ := Option.bind_eq_some_iff.mp found
  rw [payloadFields_of_recordMembers? inside, valuesOf, filter_of_single? there]
  exact .cons (carries_of_text? held) .nil

private theorem ofDocument?_document (carries : Carries payload chunk) :
    ofDocument? (chunk.document payload) = some chunk := by
  obtain ⟨name, text, ⟨token⟩⟩ := chunk
  have named : ChunkName.ofDocument? (ofJson (.string name.text)) = some name := by
    cases name <;> rfl
  have held := carries.text?
  show (do
    let name ← ChunkName.ofDocument? (ofJson (.string name.text))
    let text ← payload.text?
    return (⟨name, text, ⟨token⟩⟩ : RawChunk)) = _
  rw [named, held]
  rfl

private theorem within_document (depth : Nat) :
    within (depth + 1) (chunk.document payload) = chunk.document (within depth payload) := by
  rw [document, within_ofFields, document]
  simp only [fieldsWithin, within_string]

private theorem source_document (carries : Carries payload chunk) :
    (chunk.document payload).source = chunk.toDocument.source := by
  have alone : (Document.verbatim (alone chunk.payload)).source = payload.source :=
    (Span.octets_alone _).trans carries.symm
  simp only [document, toDocument, ofFields, source, List.map_cons] at alone ⊢
  rw [alone]

section
variable {chunks : List RawChunk} {payloads : List Document}

private theorem carried_within (depth : Nat) :
    List.Forall₂ Carries (payloads.map (within depth)) chunks ↔
      List.Forall₂ Carries payloads chunks := by
  simp only [List.forall₂_map_left_iff, Carries, source_within]
  exact Iff.rfl

private theorem map_source_payloads (carried : List.Forall₂ Carries payloads chunks) :
    payloads.map source = chunks.map fun chunk => octets chunk.payload := by
  induction carried with
  | nil => rfl
  | cons carries _ ih => rw [List.map_cons, List.map_cons, carries, ih]

private theorem mapM_document (carried : List.Forall₂ Carries payloads chunks) :
    (List.zipWith document chunks payloads).mapM ofDocument? = some chunks := by
  induction carried with
  | nil => rfl
  | cons carries _ ih =>
    rw [List.zipWith_cons_cons, List.mapM_cons, ofDocument?_document carries, ih]
    rfl

private theorem map_source_document (carried : List.Forall₂ Carries payloads chunks) :
    (List.zipWith document chunks payloads).map source = (chunks.map toDocument).map source := by
  induction carried with
  | nil => rfl
  | cons carries _ ih =>
    rw [List.zipWith_cons_cons, List.map_cons, source_document carries, ih]
    rfl

end

end RawChunk

/-! Outputs -/

namespace CompilerOutput

open RawChunk

def document (output : CompilerOutput) (payloads : List Document) : Document := .ofFields
  [("header", .ofJson output.header.toJson),
    ("chunks", .ofItems (List.zipWith RawChunk.document output.chunks payloads))]

/-- The payloads of an output as texts that stand alone. -/
def alonePayloads (output : CompilerOutput) : List Document :=
  output.chunks.map fun chunk => .verbatim (alone chunk.payload)

private theorem toDocument_eq (output : CompilerOutput) :
    output.toDocument = output.document output.alonePayloads := by
  rw [document, alonePayloads, List.zipWith_map_right, List.zipWith_self]
  rfl

private theorem carries_alone (output : CompilerOutput) :
    List.Forall₂ Carries output.alonePayloads output.chunks := by
  rw [alonePayloads, List.forall₂_map_left_iff]
  exact List.forall₂_same.mpr fun chunk _ => Span.octets_alone _

variable {output : CompilerOutput} {payloads : List Document}

private theorem ofDocument?_document (fits : output.header.Fits)
    (carried : List.Forall₂ Carries payloads output.chunks) :
    ofDocument? (output.document payloads) = some output := by
  have header := Header.returns fits
  have chunks := mapM_document carried
  show (do
    let header ← Header.ofDocument? (ofJson output.header.toJson)
    let chunks ← (List.zipWith RawChunk.document output.chunks payloads).mapM RawChunk.ofDocument?
    return (⟨header, chunks⟩ : CompilerOutput)) = _
  rw [header, chunks]
  rfl

private theorem within_document (depth : Nat) :
    within (depth + 4) (output.document payloads) =
      output.document (payloads.map (within (depth + 1))) := by
  rw [document, within_ofFields, document]
  simp only [fieldsWithin, within_ofItems, within_ofJson (output.header.nested depth),
    List.map_zipWith, List.zipWith_map_right, RawChunk.within_document]

private theorem source_document (carried : List.Forall₂ Carries payloads output.chunks) :
    (output.document payloads).source = output.toDocument.source := by
  have sources := map_source_document carried
  simp only [document, toDocument, ofFields, ofItems, source, List.map_cons, sources]

private theorem octets_text (output : CompilerOutput) :
    octets output.text = output.toDocument.source := by
  have chunks : ∀ chunk : RawChunk, Textual chunk.toDocument.source := by
    intro chunk
    refine textual_ofFields fun entry member => ?_
    simp only [List.mem_cons, List.not_mem_nil, or_false] at member
    rcases member with rfl | rfl | rfl
    · exact textual_ofJson _
    · exact ⟨chunk.payload, Span.octets_alone _⟩
    · exact textual_ofJson _
  have textual : Textual output.toDocument.source := by
    refine textual_ofFields fun entry member => ?_
    simp only [List.mem_cons, List.not_mem_nil, or_false] at member
    rcases member with rfl | rfl
    · exact textual_ofJson _
    · refine textual_ofItems fun item inside => ?_
      obtain ⟨chunk, _, rfl⟩ := List.mem_map.mp inside
      exact chunks chunk
  obtain ⟨text, written, same⟩ := text?_of_textual textual
  rw [CompilerOutput.text, written]
  exact same

private theorem spelled_document (fits : output.header.Fits)
    (rereads : ∀ duration ∈ output.header.durations, (Number.float duration).Rereads)
    (spelled : ∀ payload ∈ payloads, Spelled payload) : Spelled (output.document payloads) := by
  refine spelled_ofFields fun entry member => ?_
  simp only [List.mem_cons, List.not_mem_nil, or_false] at member
  rcases member with rfl | rfl
  · exact spelled_ofJson (Header.legible fits rereads)
  · refine spelled_ofItems fun item inside => ?_
    rw [← List.map_uncurry_zip_eq_zipWith] at inside
    obtain ⟨⟨chunk, payload⟩, pair, rfl⟩ := List.mem_map.mp inside
    refine spelled_ofFields fun entry member => ?_
    simp only [List.mem_cons, List.not_mem_nil, or_false] at member
    rcases member with rfl | rfl | rfl
    · exact spelled_ofJson (.string _)
    · exact spelled payload (List.of_mem_zip pair).2
    · exact spelled_ofJson (.string _)

private theorem carries_of_read {document : Document} (read : ofDocument? document = some output) :
    output.header.Fits ∧ List.Forall₂ Carries (Document.payloads document) output.chunks := by
  simp only [ofDocument?, Option.bind_eq_bind, Option.bind_eq_some_iff, Option.pure_def,
    Option.some.injEq] at read
  obtain ⟨fields, inside, header, first, chunks, second, rfl⟩ := read
  constructor
  · rcases fieldOr?_eq_some first with rfl | ⟨document, read⟩
    · exact Header.fits_default
    · exact Header.fits_of_read read
  · have each := List.rel_flatMap (listed_read second)
      (fun item chunk read => RawChunk.carries_of_read read)
    rw [Document.payloads, payloadFields_of_recordMembers? inside]
    simpa using each

/-- The payloads of an output that was read are what stands in the text between the blanks around
them, and the text it is written to is read as the same output. -/
theorem rereads_with_payloads {text : String} (read : ofText? text = some output) :
    (∃ document, Document.ofText? text = some document ∧ Spelled document ∧
      Padded document.source (octets text) ∧
      (Document.payloads document).map source =
        output.chunks.map fun chunk => octets chunk.payload) ∧
    ofDocument? output.toDocument = some output ∧
    ((∀ duration ∈ output.header.durations, (Number.float duration).Rereads) →
      ∃ reread, ofText? output.text = some reread ∧ reread.header = output.header ∧
        reread.chunks = output.chunks ∧
        ∀ cache : Cache, cache.resolve reread = cache.resolve output) := by
  obtain ⟨limited, found, read⟩ := Option.bind_eq_some_iff.mp read
  obtain ⟨document, parsed, rfl⟩ := Option.map_eq_some_iff.mp found
  obtain ⟨spelled, padded⟩ := spelled_of_read parsed
  obtain ⟨fits, carried⟩ := carries_of_read read
  have depth : depthLimit = 124 + 3 := rfl
  rw [depth, payloads_within, carried_within] at carried
  refine ⟨⟨document, parsed, spelled, padded, map_source_payloads carried⟩, ?_,
    fun rereads => ⟨output, ?_, rfl, rfl, fun _ => rfl⟩⟩
  · rw [toDocument_eq]
    exact ofDocument?_document fits output.carries_alone
  · have spelledAgain := spelled_document fits rereads fun payload => spelled.payload
    have paddedAgain : Padded (output.document (Document.payloads document)).source
        (octets output.text) := by
      rw [octets_text, ← source_document carried]
      exact padded_self _
    have limited : within depthLimit (output.document (Document.payloads document)) =
        output.document ((Document.payloads document).map (within 124)) := within_document 123
    have again := read?_spelled blind_output spelledAgain paddedAgain
    rw [limited, ofDocument?_document fits ((carried_within 124).mpr carried)] at again
    exact again

def unusualText : String :=
  " \x7b\"chunks\" : [[\"factSet\",\n [1e999 , \"\\ud800\" ]\t,\"h\"]," ++
    "\x7b\"data\":\x7b \x7d ,\"contentHash\":\"h\",\"name\":\x7b\"factSet\":null\x7d\x7d]," ++
    "\"header\":\x7b\"compileId\":7,\"durationMs\":1.5\x7d\x7d\n"

def unusualOutput : CompilerOutput where
  header := { compileId := "7", duration := ⟨false, 6755399441055744, -52⟩ }
  chunks := [⟨.factSet, "[1e999 , \"\\ud800\" ]", ⟨"h"⟩⟩, ⟨.factSet, "\x7b \x7d", ⟨"h"⟩⟩]

theorem unusual_rereads : ofText? unusualText = some unusualOutput ∧
    ∃ reread, ofText? unusualOutput.text = some reread ∧ reread.header = unusualOutput.header ∧
      reread.chunks = unusualOutput.chunks := by
  have read : ofText? unusualText = some unusualOutput := by decide +kernel
  obtain ⟨_, _, again⟩ := rereads_with_payloads read
  have rereads : (Number.float ⟨false, 6755399441055744, -52⟩).Rereads :=
    ⟨⟨false, [1], some [5], none⟩, by decide +kernel, by decide +kernel⟩
  obtain ⟨reread, found, header, chunks, _⟩ := again fun duration member =>
    List.mem_singleton.mp member ▸ rereads
  exact ⟨read, reread, found, header, chunks⟩

end CompilerOutput

end LiveCompile
