import LiveCompile.Compile.External
import LiveCompile.Proofs.BufferRefinement
import LiveCompile.Proofs.ChunkReread
import LiveCompile.Proofs.DetachedReading

/-! What an external compiler is given. A request with a path that is no text starts nothing; any
other is written as a document from which the files and the entry are read as they were. -/

namespace LiveCompile

open Document Json

/-- A path whose octets are UTF-8. -/
def Path.IsText (path : Path) : Prop := ∃ text, path = ofText text

theorem Path.text?_ofText (text : String) : (ofText text).text? = some text := fromUTF8?_octets text

theorem Path.isSome_text? {path : Path} : path.text?.isSome = true ↔ path.IsText := by
  constructor
  · intro readable
    obtain ⟨text, found⟩ := Option.isSome_iff_exists.mp readable
    exact ⟨text, congrArg Path.mk (octets_of_fromUTF8? found).symm⟩
  · rintro ⟨text, rfl⟩
    rw [text?_ofText]
    rfl

namespace BufferMap

private theorem store_perm {path : Path} {content : String} {dirty : Bool} {entries : List Buffer}
    (new : ∀ entry ∈ entries, entry.path.components ≠ path.components) :
    (store path content dirty entries).Perm (⟨path, content, dirty⟩ :: entries) := by
  induction entries with
  | nil => exact .refl _
  | cons entry rest ih =>
    obtain ⟨apart, later⟩ := List.forall_mem_cons.mp new
    cases order : path.compare entry.path with
    | lt => simp only [store, order, List.Perm.refl]
    | eq => exact absurd (Path.compare_eq_iff.mp order).symm apart
    | gt =>
      simp only [store, order]
      exact ((ih later).cons entry).trans (.swap ..)

private theorem ofFiles_perm {files : List (Path × String)}
    (distinct : (files.map (·.1.components)).Nodup) : (ofFiles files).getAll.Perm files := by
  -- the map so far has none of the places that are still to come, so nothing is replaced
  suffices general : ∀ map : BufferMap,
      (∀ entry ∈ map.entries, ∀ file ∈ files, entry.path.components ≠ file.1.components) →
      (files.foldl (fun map file => map.load file.1 file.2) map).getAll.Perm (map.getAll ++ files) from
    general empty (by simp [empty])
  induction files with
  | nil => exact fun map _ => by simp
  | cons file rest ih =>
    intro map apart
    obtain ⟨path, content⟩ := file
    obtain ⟨new, later⟩ := List.nodup_cons.mp distinct
    have stored : (map.load path content).entries.Perm (⟨path, content, false⟩ :: map.entries) :=
      store_perm fun entry member => apart entry member (path, content) List.mem_cons_self
    have listed : (map.load path content).getAll.Perm ((path, content) :: map.getAll) := stored.map _
    refine (ih later (map.load path content) ?_).trans ?_
    · intro entry member file inside
      rcases List.mem_cons.mp (stored.mem_iff.mp member) with rfl | old
      · intro same
        exact new (List.mem_map.mpr ⟨file, inside, same.symm⟩)
      · exact apart entry old file (List.mem_cons_of_mem _ inside)
    · exact (listed.append_right rest).trans List.perm_middle.symm

private theorem ordered_ofFiles (files : List (Path × String)) :
    Ordered (ofFiles files).entries := by
  have loaded : ofFiles files = empty.after (files.map fun file => .load file.1 file.2) := by
    rw [after, List.foldl_map]
    rfl
  rw [loaded]
  exact (Represents.empty.after _).ordered

end BufferMap

namespace CompileRequest

/-- The files of a request as a map of buffers lists them: in the order of their paths, one for each
place. -/
def Keyed (request : CompileRequest) : Prop :=
  request.files.Pairwise fun before after => before.1.compare after.1 = .lt

private theorem keyed_of_ordered {map : BufferMap} (ordered : BufferMap.Ordered map.entries)
    (entry : Option Path) : Keyed ⟨map.getAll, entry⟩ :=
  List.pairwise_map.mpr ordered

theorem Keyed.apart {request : CompileRequest} (keyed : request.Keyed) :
    (request.files.map (·.1.components)).Nodup := Path.distinct_of_increasing keyed

theorem Keyed.getAll_ofFiles {request : CompileRequest} (keyed : request.Keyed)
    {files : List (Path × String)} (read : files.Perm request.files) :
    (BufferMap.ofFiles files).getAll = request.files := by
  have distinct : (files.map (·.1.components)).Nodup :=
    (read.map fun file : Path × String => file.1.components).nodup_iff.mpr keyed.apart
  have sorted := keyed_of_ordered (BufferMap.ordered_ofFiles files) none
  refine List.Perm.eq_of_pairwise ?_ sorted keyed ((BufferMap.ofFiles_perm distinct).trans read)
  intro first second _ _ less greater
  have before := Path.compare_trans less greater
  rw [Path.compare_eq_iff.mpr rfl] at before
  cases before

def paths (request : CompileRequest) : List Path :=
  request.files.map (·.1) ++ request.entry.toList

/-- The request whose paths have these texts. -/
def ofTexts (files : Fields String) (entry : Option String) : CompileRequest :=
  ⟨files.map fun file => (Path.ofText file.1, file.2), entry.map Path.ofText⟩

def documentOf (files : Fields String) (entry : Option String) : Json :=
  .object (("files", writeMap .string files) :: optionalMember "entry" .string entry)

private theorem toJson?_ofTexts (files : Fields String) (entry : Option String) :
    (ofTexts files entry).toJson? = some (documentOf files entry) := by
  have members : (ofTexts files entry).files.mapM (fun file =>
      file.1.text?.map fun text => (text, Json.string file.2)) =
        some (files.map fun file => (file.1, .string file.2)) := by
    induction files with
    | nil => rfl
    | cons first rest ih =>
      simp only [ofTexts] at ih
      simp [ofTexts, Path.text?_ofText, ih]
  unfold toJson?
  rw [members]
  cases entry with
  | none => rfl
  | some entry => simp [ofTexts, Path.text?_ofText, documentOf, writeMap, optionalMember]

private theorem exists_names {files : List (Path × String)}
    (texts : ∀ file ∈ files, file.1.IsText) :
    ∃ named : Fields String, files = named.map fun file => (Path.ofText file.1, file.2) := by
  induction files with
  | nil => exact ⟨[], rfl⟩
  | cons first rest ih =>
    obtain ⟨⟨name, here⟩, later⟩ := List.forall_mem_cons.mp texts
    obtain ⟨named, rfl⟩ := ih later
    exact ⟨(name, first.2) :: named, by rw [List.map_cons, ← here]⟩

private theorem exists_texts {request : CompileRequest}
    (texts : ∀ path ∈ request.paths, path.IsText) :
    ∃ files entry, request = ofTexts files entry := by
  obtain ⟨files, entry⟩ := request
  simp only [paths, List.forall_mem_append, List.forall_mem_map, Option.mem_toList] at texts
  obtain ⟨inFiles, inEntry⟩ := texts
  obtain ⟨named, rfl⟩ := exists_names inFiles
  cases entry with
  | none => exact ⟨named, none, rfl⟩
  | some path =>
    obtain ⟨text, rfl⟩ := inEntry path rfl
    exact ⟨named, some text, rfl⟩

private theorem isSome_toJson? {request : CompileRequest} :
    request.toJson?.isSome = true ↔ ∀ path ∈ request.paths, path.IsText := by
  constructor
  · intro written
    obtain ⟨document, written⟩ := Option.isSome_iff_exists.mp written
    obtain ⟨files, listed, entered⟩ := Option.bind_eq_some_iff.mp written
    simp only [paths, List.forall_mem_append, List.forall_mem_map, Option.mem_toList]
    constructor
    · have each := isSome_mapM.mp (Option.isSome_of_eq_some listed)
      intro file member
      have readable := each file member
      rw [Option.isSome_map] at readable
      exact Path.isSome_text?.mp readable
    · intro path held
      rw [held] at entered
      obtain ⟨text, found, _⟩ := Option.bind_eq_some_iff.mp entered
      exact Path.isSome_text?.mp (Option.isSome_of_eq_some found)
  · intro texts
    obtain ⟨files, entry, rfl⟩ := exists_texts texts
    rw [toJson?_ofTexts]
    rfl

private theorem toJson?_eq_none {request : CompileRequest} :
    request.toJson? = none ↔ ∃ path ∈ request.paths, ¬ path.IsText := by
  rw [← Option.not_isSome_iff_eq_none, isSome_toJson?]
  simp only [not_forall, exists_prop]

private theorem toJson?_eq_some {request : CompileRequest} {document : Json} :
    request.toJson? = some document ↔
      ∃ files entry, request = ofTexts files entry ∧ document = documentOf files entry := by
  constructor
  · intro written
    obtain ⟨files, entry, rfl⟩ := exists_texts (isSome_toJson?.mp (Option.isSome_of_eq_some written))
    rw [toJson?_ofTexts] at written
    exact ⟨files, entry, rfl, (Option.some.inj written).symm⟩
  · rintro ⟨files, entry, rfl, rfl⟩
    exact toJson?_ofTexts files entry

/-! Reading -/

/-- What a compiler that reads the document takes it for. -/
def ofDocument? (document : Document) : Option CompileRequest := do
  let fields ← document.members?
  return ofTexts (← field? fields "files" (dictionary? string?))
    (← fieldOr? fields "entry" none fun document => document.string?.map some)

def ofOctets? (input : List UInt8) : Option CompileRequest := do
  ofDocument? ((← Document.ofOctets? input).within depthLimit)

private theorem blind_request : Blind ofDocument? := by
  intro document
  simp only [ofDocument?, members?_detached]
  cases document.members? with
  | none => rfl
  | some fields =>
    simp only [Option.map_some, Option.bind_eq_bind, Option.bind_some,
      field?_detached blind_string.dictionary, fieldOr?_detached (blind_string.map some)]

variable {files : Fields String} {entry : Option String}

theorem Keyed.names_nodup (keyed : (ofTexts files entry).Keyed) : (Fields.names files).Nodup := by
  have apart : ((Fields.names files).map fun name => (Path.ofText name).components).Nodup := by
    simpa [ofTexts, Fields.names, Function.comp_def] using keyed.apart
  exact apart.of_map _

private theorem part_of_document {member : String × Json}
    (inside : member ∈ ("files", writeMap .string files) :: optionalMember "entry" .string entry) :
    member.2 = writeMap .string files ∨ ∃ text, member.2 = .string text := by
  rcases List.mem_cons.mp inside with rfl | last
  · exact .inl rfl
  · cases entry with
    | none => cases last
    | some text =>
      cases List.mem_singleton.mp last
      exact .inr ⟨text, rfl⟩

private theorem readable_document (files : Fields String) (entry : Option String) :
    (documentOf files entry).Readable 2 := by
  refine Json.Readable.object_iff.mpr fun member inside => ?_
  rcases part_of_document inside with same | ⟨text, same⟩ <;> rw [same]
  · refine Json.Readable.object_iff.mpr fun field held => ?_
    obtain ⟨file, _, rfl⟩ := List.mem_map.mp held
    exact .string _
  · exact .string text

private theorem ofDocument?_documentOf (distinct : (Fields.names files).Nodup) :
    ofDocument? (ofJson (documentOf files entry)) = some (ofTexts files entry) := by
  have read : dictionary? string? (ofJson (writeMap .string files)) = some files :=
    map_returns distinct fun _ _ => rfl
  cases entry with
  | none =>
    show (do return ofTexts (← dictionary? string? (ofJson (writeMap .string files))) none) = _
    rw [read]
    rfl
  | some entry =>
    show (do
      return ofTexts (← dictionary? string? (ofJson (writeMap .string files))) (some entry)) = _
    rw [read]
    rfl

/-- A request is read from the octets of its document as it was. -/
theorem Keyed.reread {request : CompileRequest} {document : Json} (keyed : request.Keyed)
    (written : request.toJson? = some document) :
    ofOctets? (octets document.text) = some request := by
  obtain ⟨files, entry, rfl, rfl⟩ := toJson?_eq_some.mp written
  have read := read?_text blind_request ((readable_document files entry).mono (by decide))
  rw [ofDocument?_documentOf keyed.names_nodup] at read
  rw [← read, ofOctets?, read?, Document.ofText?, Option.bind_eq_bind, Option.bind_map]
  rfl

end CompileRequest

namespace CompilerCommand

/-- Starts the command and notes the input that it is given. -/
def noting (start : List UInt8 → Except String Shell.Ended) (input : List UInt8) :
    StateM (List (List UInt8)) (Except String Shell.Ended) := do
  modify (· ++ [input])
  return start input

section
variable {compiler : CompilerCommand} {start : List UInt8 → Except String Shell.Ended}
variable {tree : FileTree} {request : CompileRequest}

private theorem resultOf_ne_encode (ended : Shell.Ended) : resultOf ended ≠ .error .encode := by
  unfold resultOf
  split
  · exact fun same => nomatch same
  · split <;> exact fun same => nomatch same

private theorem callWith_unwritten {m : Type → Type} [Monad m] (unwritten : request.toJson? = none)
    (start : List UInt8 → m (Except String Shell.Ended)) :
    compiler.callWith start tree request = pure (.error .encode, tree) := by
  simp only [callWith, unwritten]

private theorem callWith_ne_encode {document : Json} (written : request.toJson? = some document) :
    (compiler.callWith (m := Id) start tree request).1 ≠ .error .encode := by
  simp only [callWith, written]
  cases start document.text.toUTF8.toList with
  | ok ended => exact resultOf_ne_encode ended
  | error cause => exact fun same => nomatch same

private theorem callWith_noting {document : Json} (written : request.toJson? = some document)
    (noted : List (List UInt8)) :
    (compiler.callWith (noting start) tree request).run noted =
      (compiler.callWith (m := Id) start tree request, noted ++ [octets document.text]) := by
  have input : document.text.toUTF8.toList = octets document.text := rfl
  have begun : (noting start (octets document.text)).run noted =
      (start (octets document.text), noted ++ [octets document.text]) := rfl
  simp only [callWith, written, input, StateT.run_bind, begun]
  cases start (octets document.text) with
  | ok ended => rfl
  | error cause => rfl

end

/-- A call of an external compiler, in whatever way its command is started. It fails to write the
request if and only if one of the paths is no text, and then nothing is started and no file changed.
Otherwise the command is started once, with the octets of a document whose `files` has for each
file, in their order, a member with the text of its path and its content, no two under one name, and
which has an `entry` just if the request does. From these octets the request is read as it was, the
files give the same map in whatever order they are taken, and no other request has them. -/
theorem request_delivered (compiler : CompilerCommand)
    (start : List UInt8 → Except String Shell.Ended) (tree : FileTree) {request : CompileRequest}
    (keyed : request.Keyed) :
    let answer : CompileResult × FileTree := compiler.callWith (m := Id) start tree request
    let call := compiler.callWith (noting start) tree request
    (request.toJson? = none ↔ ∃ path ∈ request.paths, ¬ path.IsText) ∧
    (answer.1 = .error .encode ↔ request.toJson? = none) ∧
    (request.toJson? = none → answer = (.error .encode, tree) ∧
      ∀ noted, call.run noted = (answer, noted)) ∧
    ∀ document, request.toJson? = some document →
      (∀ noted, call.run noted = (answer, noted ++ [octets document.text])) ∧
      (∃ (files : Fields String) (entry : Option String),
        document = .object (("files", .object (files.map fun file => (file.1, .string file.2))) ::
          optionalMember "entry" .string entry) ∧
        request.files = files.map (fun file => (Path.ofText file.1, file.2)) ∧
        request.entry = entry.map Path.ofText ∧ (Fields.names files).Nodup) ∧
      CompileRequest.ofOctets? (octets document.text) = some request ∧
      (∀ files : List (Path × String), files.Perm request.files →
        (BufferMap.ofFiles files).getAll = request.files) ∧
      ∀ (other : CompileRequest) (another : Json), other.Keyed → other.toJson? = some another →
        another.text = document.text → other = request := by
  intro answer call
  refine ⟨CompileRequest.toJson?_eq_none, ⟨?_, ?_⟩, ?_, ?_⟩
  · intro failed
    cases written : request.toJson? with
    | none => rfl
    | some document => exact absurd failed (callWith_ne_encode written)
  · intro unwritten
    exact congrArg Prod.fst (callWith_unwritten (m := Id) unwritten start)
  · intro unwritten
    have nothing : answer = (.error .encode, tree) := callWith_unwritten (m := Id) unwritten start
    refine ⟨nothing, fun noted => ?_⟩
    rw [nothing]
    exact congrArg (StateT.run · noted) (callWith_unwritten unwritten (noting start))
  · intro document written
    refine ⟨callWith_noting written, ?_, ?_, fun files => keyed.getAll_ofFiles, ?_⟩
    · obtain ⟨files, entry, rfl, rfl⟩ := CompileRequest.toJson?_eq_some.mp written
      exact ⟨files, entry, rfl, rfl, rfl, keyed.names_nodup⟩
    · exact keyed.reread written
    · intro other another ordered rewritten same
      have read := ordered.reread rewritten
      rw [same, keyed.reread written] at read
      exact (Option.some.inj read).symm

/-- A buffer that keeps the spelling it was first stored with, and an entry spelled in another way
than its buffer. With an entry that is no text nothing is started, as the command is itself. -/
theorem request_delivered_spelled :
    let operations : List BufferMap.Operation :=
      [.set (.ofText "b.loom") "exit \"n\"\n", .load (.ofText "a//x.loom") "room",
        .set (.ofText "a/x.loom") "rooms"]
    let files := (BufferMap.empty.after operations).getAll
    let request : CompileRequest := ⟨files, some (.ofText "./b.loom")⟩
    let unreadable : CompileRequest := ⟨files, some ⟨[97, 255]⟩⟩
    let text := "\x7b\"files\":\x7b\"a//x.loom\":\"rooms\",\"b.loom\":\"exit \\\"n\\\"\\n\"\x7d," ++
      "\"entry\":\"./b.loom\"\x7d"
    request.Keyed ∧ unreadable.Keyed ∧ CompileRequest.ofOctets? (octets text) = some request ∧
      ∀ (compiler : CompilerCommand) (view : FileView),
        compiler.compile view unreadable = (.error .encode, view.tree) := by
  intro operations files request unreadable text
  have ordered := (BufferMap.Represents.empty.after operations).ordered
  have keyed : request.Keyed := CompileRequest.keyed_of_ordered ordered _
  have keyedToo : unreadable.Keyed := CompileRequest.keyed_of_ordered ordered _
  refine ⟨keyed, keyedToo, ?_, ?_⟩
  · let named : Fields String := [("a//x.loom", "rooms"), ("b.loom", "exit \"n\"\n")]
    have spelled : request = .ofTexts named (some "./b.loom") := by decide +kernel
    have same : text = (CompileRequest.documentOf named (some "./b.loom")).text := by decide +kernel
    have written : request.toJson? = some (CompileRequest.documentOf named (some "./b.loom")) := by
      rw [spelled, CompileRequest.toJson?_ofTexts]
    obtain ⟨-, -, -, delivered⟩ :=
      request_delivered ⟨"loomc", [], none⟩ (fun _ => .error "not found") default keyed
    obtain ⟨-, -, read, -⟩ := delivered _ written
    rw [same]
    exact read
  · intro compiler view
    have illegible : ¬ (Path.mk [97, 255]).IsText := by
      rw [← Path.isSome_text?]
      decide +kernel
    obtain ⟨fails, -, nothing, -⟩ :=
      request_delivered compiler (compiler.start view) view.tree keyedToo
    have inside : Path.mk [97, 255] ∈ unreadable.paths := by
      simp [CompileRequest.paths, unreadable]
    exact (nothing (fails.mpr ⟨_, inside, illegible⟩)).1

end CompilerCommand

end LiveCompile
