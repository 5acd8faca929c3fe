import LiveCompile.Proofs.BufferHistory
import LiveCompile.Proofs.PipelineServing
import LiveCompile.Proofs.SessionRun

/-! What a session compiles. Every compile finds the buffers as the lines that were read before it
have left them. A caller holds up the reading, so the compile that answers it finds the buffers as
the lines before the request have left them. -/

namespace LiveCompile

open Pipeline

/-- What a command does to the buffers. -/
def SessionCommand.edit? : SessionCommand → Option BufferMap.Operation
  | .set path content => some (.set path content)
  | .remove path => some (.remove path)
  | _ => none

namespace Session

/-- The command on a line of octets, if it is text and a command. -/
def order? (line : List UInt8) : Option SessionCommand :=
  (String.fromUTF8? ⟨line.toArray⟩).bind command?

def edits (lines : List (List UInt8)) : List BufferMap.Operation :=
  lines.filterMap fun line => (order? line).bind SessionCommand.edit?

def written (map : BufferMap) (lines : List (List UInt8)) : BufferMap :=
  (edits lines).foldl (fun map operation => (map.apply operation).map) map

/-- How many of the lines ask for a compile. -/
def requested (lines : List (List UInt8)) : Nat :=
  lines.countP (order? · = some .compileNow)

/-- A caller asks for a compile on the last of the first lines of that number. -/
def Asks (lines : List (List UInt8)) (caller place : Nat) : Prop :=
  ∃ front line back, lines = front ++ line :: back ∧ order? line = some .compileNow ∧
    requested front = caller ∧ place = front.length + 1

section
variable {map : BufferMap} {lines front back : List (List UInt8)} {line : List UInt8}
variable {caller place other : Nat}

theorem written_concat :
    written map (lines ++ [line]) =
      ((order? line).bind SessionCommand.edit?).elim (written map lines)
        fun operation => ((written map lines).apply operation).map := by
  cases edit : (order? line).bind SessionCommand.edit? <;> simp [written, edits, edit]

private theorem written_unedited (unedited : (order? line).bind SessionCommand.edit? = none) :
    written map (lines ++ [line]) = written map lines := by
  rw [written_concat, unedited]
  rfl

theorem requested_append : requested (front ++ back) = requested front + requested back :=
  List.countP_append

private theorem requested_singleton :
    requested [line] = if order? line = some .compileNow then 1 else 0 := by
  simp [requested, List.countP_singleton]

theorem Asks.more (asks : Asks lines caller place) (more : List (List UInt8)) :
    Asks (lines ++ more) caller place := by
  obtain ⟨front, line, back, rfl, asking, count, here⟩ := asks
  exact ⟨front, line, back ++ more, by simp, asking, count, here⟩

theorem Asks.inside (asks : Asks lines caller place) :
    place ≤ lines.length ∧ caller < requested lines := by
  obtain ⟨front, line, back, rfl, asking, rfl, rfl⟩ := asks
  rw [requested_append, ← List.singleton_append, requested_append, requested_singleton, if_pos asking]
  simp only [List.length_append, List.length_cons]
  omega

theorem Asks.unique (asks : Asks lines caller place) (again : Asks lines caller other) :
    place = other := by
  obtain ⟨front, line, back, split, asking, count, rfl⟩ := asks
  obtain ⟨front', line', back', split', asking', count', rfl⟩ := again
  have shorter : ∀ {front front' back back' : List (List UInt8)} {line line' : List UInt8},
      front ++ line :: back = front' ++ line' :: back' → order? line = some .compileNow →
      requested front = requested front' → ¬ front.length < front'.length := by
    intro front front' back back' line line' same asking counts less
    obtain ⟨inner, rfl, rest⟩ | ⟨inner, rfl, rest⟩ := List.append_eq_append_iff.mp same
    · cases inner with
      | nil => simp at less
      | cons first inner =>
        obtain ⟨rfl, _⟩ := List.cons.inj rest
        rw [requested_append, ← List.singleton_append, requested_append, requested_singleton,
          if_pos asking] at counts
        omega
    · rw [List.length_append] at less
      omega
  have one := shorter (split.symm.trans split') asking (count.trans count'.symm)
  have two := shorter (split'.symm.trans split) asking' (count'.trans count.symm)
  omega

end

/-- What the pipeline of a session keeps. A place is how many lines were read when a compile was
called. -/
structure Kept (map : BufferMap) (lines : List (List UInt8)) (line : Timeline)
    (places : List Nat) : Prop where
  coherent : line.actor.Coherent
  arrival : line.arrival.isSome = line.actor.flight.isSome
  opened : line.held = true → line.actor.inboxOpen = true
  counted : places.length = line.actor.lastCompileId
  calm : ∀ listener ∈ line.space.listeners, listener.program = []
  texts : line.space.map = written map lines
  conserved : ∀ caller, line.asking.count caller + (line.told.map Prod.fst).count caller =
    if caller < requested lines then 1 else 0
  asks : ∀ caller ∈ line.asking, Asks lines caller lines.length
  ordered : places.Pairwise (· ≤ ·)
  within : ∀ place ∈ places, place ≤ lines.length ∧ (written map (lines.take place)).getAll ≠ []
  sources : line.sources = places.map fun place => (written map (lines.take place)).getAll
  current : line.actor.waiters ≠ [] → places.getLast? = some lines.length
  told : ∀ answer ∈ line.told, ∃ place, Asks lines answer.1 place ∧
    (answer.2 = .skipped ↔ (written map (lines.take place)).getAll = []) ∧
    ∀ number, answer.2.compileId? = some number →
      ∃ index, number = index + 1 ∧ places[index]? = some place

namespace Kept

section
variable {map : BufferMap} {lines : List (List UInt8)} {line next : Timeline} {places : List Nat}

private theorem start (map : BufferMap) (compiler : Compiler) (bus : EventBus)
    (config : PipelineConfig) : Kept map [] (Session.start map compiler bus config).line [] := by
  have unasked : (Session.start map compiler bus config).line.asking = [] := rfl
  have untold : (Session.start map compiler bus config).line.told = [] := rfl
  have uncalled : (Session.start map compiler bus config).line.sources = [] := rfl
  constructor
  · exact .start config .empty
  · rfl
  · exact fun _ => rfl
  · rfl
  · simp [Session.start, Timeline.start, Workspace.subscribe, Workspace.guard?]
  · rfl
  · simp [unasked, untold, requested]
  · simp [unasked]
  · exact .nil
  · simp
  · exact uncalled
  · exact fun waits => absurd rfl waits
  · simp [untold]

private theorem files (kept : Kept map lines line places) :
    line.files = (written map lines).getAll :=
  congrArg BufferMap.getAll kept.texts

/-- Who is told that there is nothing to compile, is told so for want of buffers; who is told of a
compile, of the last one, which was called when the lines so far were read. -/
theorem answered (kept : Kept map lines line places) {now : Nat} {wake : Wake} {actor : Actor}
    {effects : List Effect} (move : Actor.Move now line.files line.actor wake actor effects)
    {answer : Nat × Outcome} (member : answer ∈ Pipeline.answers effects) :
    (answer.2 = .skipped ↔ (written map lines).getAll = []) ∧
      ∀ number, answer.2.compileId? = some number →
        ∃ index, number = index + 1 ∧ places[index]? = some lines.length := by
  rcases move.answered kept.coherent member with ⟨skipped, empty⟩ | ⟨waits, compiled⟩
  · rw [kept.files] at empty
    refine ⟨iff_of_true skipped empty, fun number told => ?_⟩
    rw [skipped] at told
    cases told
  · have last := kept.current (List.ne_nil_of_mem waits)
    have inside := List.mem_of_getLast? last
    have filled := (kept.within _ inside).2
    rw [List.take_length] at filled
    refine ⟨iff_of_false ?_ filled, fun number told => ?_⟩
    · intro skipped
      rw [skipped] at compiled
      cases compiled
    · obtain rfl := Option.some.inj (compiled.symm.trans told)
      have more := List.length_pos_of_mem inside
      have counted := kept.counted
      refine ⟨places.length - 1, by omega, ?_⟩
      rw [← List.getLast?_eq_getElem?, last]

private theorem called (kept : Kept map lines line places) {now : Nat} {wake : Wake} {actor : Actor}
    {effects : List Effect} (move : Actor.Move now line.files line.actor wake actor effects) :
    (∀ place ∈ List.replicate (Pipeline.calls effects).length lines.length,
      place ≤ lines.length ∧ (written map (lines.take place)).getAll ≠ []) ∧
    (Pipeline.calls effects).map (·.files) =
      (List.replicate (Pipeline.calls effects).length lines.length).map
        fun place => (written map (lines.take place)).getAll := by
  rcases move.called with none | ⟨filled, one⟩
  · simp [none]
  · rw [kept.files] at filled one
    rw [move.called_once (by rintro none; simp [none] at one), one]
    simpa using filled

private theorem handle (kept : Kept map lines line places) {effects : List Effect} {wake : Wake}
    (served : line.Served wake next effects) :
    ∃ called, Kept map lines next (places ++ called) := by
  obtain ⟨now, move⟩ := served.move
  obtain ⟨inside, sources⟩ := kept.called move
  refine ⟨List.replicate (Pipeline.calls effects).length lines.length, ?_⟩
  constructor
  · exact move.coherent kept.coherent
  · exact served.arrival
  · intro held
    rw [served.held] at held
    rw [move.stays_open (served.sent held)]
    exact kept.opened held
  · rw [move.counts, List.length_append, List.length_replicate, kept.counted]
  · rw [served.space]
    exact kept.calm
  · rw [served.space]
    exact kept.texts
  · intro caller
    rw [served.conserved kept.coherent, kept.conserved]
  · exact fun caller member => kept.asks caller (served.asked kept.coherent (.inl member))
  · refine List.pairwise_append.mpr ⟨kept.ordered, List.pairwise_replicate.mpr (.inr (Nat.le_refl _)), ?_⟩
    intro place member current repeated
    rw [List.eq_of_mem_replicate repeated]
    exact (kept.within place member).1
  · exact fun place member =>
      (List.mem_append.mp member).elim (kept.within place) (inside place)
  · rw [served.sources, kept.sources, List.map_append, sources]
  · intro waiting
    by_cases calls : Pipeline.calls effects = []
    · have same := (move.waits_for waiting).resolve_left (absurd calls)
      simpa [calls] using kept.current (same ▸ waiting)
    · simp [move.called_once calls]
  · intro answer member
    have stays : ∀ {index place : Nat} (more : List Nat), places[index]? = some place →
        (places ++ more)[index]? = some place := by
      intro index place more there
      rw [List.getElem?_append_left (List.getElem?_eq_some_iff.mp there).1, there]
    rw [served.told, List.mem_append] at member
    rcases member with old | new
    · obtain ⟨place, asks, skipped, numbered⟩ := kept.told answer old
      refine ⟨place, asks, skipped, fun number told => ?_⟩
      obtain ⟨index, count, there⟩ := numbered number told
      exact ⟨index, count, stays _ there⟩
    · have asked := served.asked kept.coherent (.inr (List.mem_map_of_mem new))
      obtain ⟨skipped, numbered⟩ := kept.answered move new
      rw [← List.take_length (l := lines)] at skipped
      refine ⟨lines.length, kept.asks _ asked, skipped, fun number told => ?_⟩
      obtain ⟨index, count, there⟩ := numbered number told
      exact ⟨index, count, stays _ there⟩

end

/-- What is done beside the pipeline, as far as it does not send or write. -/
structure Beside (line next : Timeline) : Prop where
  actor : next.actor = line.actor
  calls : next.calls = line.calls
  answers : next.answers = line.answers
  arrival : next.arrival = line.arrival
  held : next.held = true → line.held = true
  listeners : next.space.listeners ⊆ line.space.listeners

section
variable {map : BufferMap} {lines : List (List UInt8)} {line next : Timeline} {places : List Nat}

private theorem beside (kept : Kept map lines line places) (beside : Beside line next)
    (texts : next.space.map = line.space.map)
    (inbox : next.inbox.filterMap Command.caller? = line.inbox.filterMap Command.caller?) :
    Kept map lines next places := by
  have asking : next.asking = line.asking := by simp [Timeline.asking, inbox, beside.actor]
  have told : next.told = line.told := congrArg (List.map _) beside.answers
  have sources : next.sources = line.sources := congrArg (List.map _) beside.calls
  constructor
  · exact beside.actor ▸ kept.coherent
  · rw [beside.arrival, beside.actor, kept.arrival]
  · intro held
    rw [beside.actor]
    exact kept.opened (beside.held held)
  · rw [beside.actor, kept.counted]
  · exact fun listener member => kept.calm listener (beside.listeners member)
  · rw [texts, kept.texts]
  · rw [asking, told]
    exact kept.conserved
  · rw [asking]
    exact kept.asks
  · exact kept.ordered
  · exact kept.within
  · rw [sources, kept.sources]
  · rw [beside.actor]
    exact kept.current
  · rw [told]
    exact kept.told

private theorem asking_after (idle : line.asking = []) {asks : List Nat}
    (actor : next.actor = line.actor)
    (inbox : next.inbox.filterMap Command.caller? = asks) : next.asking = asks := by
  simp only [Timeline.asking, List.append_eq_nil_iff] at idle
  simp [Timeline.asking, inbox, actor, idle.1.2, idle.2]

private theorem read (kept : Kept map lines line places) (idle : line.asking = [])
    {read : List UInt8}
    (beside : Beside line next) (texts : next.space.map = written map (lines ++ [read]))
    (inbox : next.inbox.filterMap Command.caller? =
      if order? read = some .compileNow then [requested lines] else []) :
    Kept map (lines ++ [read]) next places := by
  have told : next.told = line.told := congrArg (List.map _) beside.answers
  have sources : next.sources = line.sources := congrArg (List.map _) beside.calls
  have asking := asking_after idle beside.actor inbox
  have unwaited : line.actor.waiters = [] := by
    simp only [Timeline.asking, List.append_eq_nil_iff] at idle
    exact idle.1.2
  have front : ∀ place ∈ places, (lines ++ [read]).take place = lines.take place := fun place member =>
    List.take_append_of_le_length (kept.within place member).1
  constructor
  · exact beside.actor ▸ kept.coherent
  · rw [beside.arrival, beside.actor, kept.arrival]
  · intro held
    rw [beside.actor]
    exact kept.opened (beside.held held)
  · rw [beside.actor, kept.counted]
  · exact fun listener member => kept.calm listener (beside.listeners member)
  · exact texts
  · intro caller
    have conserved := kept.conserved caller
    rw [idle, List.count_nil] at conserved
    rw [asking, told, requested_append, requested_singleton]
    by_cases asks : order? read = some .compileNow
    · rw [if_pos asks, if_pos asks, List.count_singleton]
      split at conserved <;> simp <;> grind
    · rw [if_neg asks, if_neg asks]
      simpa using conserved
  · intro caller member
    rw [asking] at member
    split at member
    case isTrue asks =>
      obtain rfl := List.mem_singleton.mp member
      exact ⟨lines, read, [], rfl, asks, rfl, by simp⟩
    case isFalse => cases member
  · exact kept.ordered
  · intro place member
    obtain ⟨inside, filled⟩ := kept.within place member
    rw [front place member]
    exact ⟨by rw [List.length_append]; exact Nat.le_add_right_of_le inside, filled⟩
  · rw [sources, kept.sources]
    exact List.map_congr_left fun place member => by rw [front place member]
  · rw [beside.actor, unwaited]
    exact fun waits => absurd rfl waits
  · intro answer member
    rw [told] at member
    obtain ⟨place, asks, skipped, numbered⟩ := kept.told answer member
    refine ⟨place, asks.more [read], ?_, numbered⟩
    rw [List.take_append_of_le_length asks.inside.1]
    exact skipped

end

end Kept

/-! The steps of a session -/

section
variable {line : Timeline}

private theorem uncalled (observations : List (Observation Watcher)) :
    (observations.filterMap Timeline.changed?).filterMap Command.caller? = [] := by
  rw [List.filterMap_filterMap, List.filterMap_eq_nil_iff]
  intro observation _
  cases observation with
  | called key path => cases key <;> rfl
  | _ => rfl

private theorem operate_calm (calm : ∀ listener ∈ line.space.listeners, listener.program = [])
    (operation : BufferMap.Operation) :
    Kept.Beside line (line.operate operation) ∧
      (line.operate operation).space.map = (line.space.map.apply operation).map ∧
      (line.operate operation).inbox.filterMap Command.caller? =
        line.inbox.filterMap Command.caller? := by
  have quiet : ∀ listener ∈ { line.space with observations := [] }.listeners,
      Reaction.registered.Calm listener := by
    intro listener member space path instruction inside
    rw [Reaction.registered, calm listener member] at inside
    cases inside
  obtain ⟨next, acted, looked⟩ := Workspace.act?_calm 4095 quiet (.operate operation)
  have operated : { line.space with observations := [] }.operate? operation = some (_, next) := acted
  have after : line.operate operation = { line with
      space := { next with observations := [] }
      inbox := line.inbox ++ next.observations.filterMap Timeline.changed? } := by
    simp only [Timeline.operate, Timeline.touch, operated]
  rw [after]
  refine ⟨⟨rfl, rfl, rfl, rfl, id, ?_⟩, looked.map, ?_⟩
  · exact looked.listeners ▸ List.Subset.refl _
  · rw [List.filterMap_append, uncalled, List.append_nil]

private theorem unsubscribe_keeps (space : Workspace Watcher) (key : Watcher) :
    (space.unsubscribe key).map = space.map ∧
      (space.unsubscribe key).listeners ⊆ space.listeners := by
  unfold Workspace.unsubscribe
  split
  · exact ⟨rfl, List.Subset.refl _⟩
  · exact ⟨rfl, fun listener member => (List.mem_filter.mp member).1⟩

private theorem release_beside (line : Timeline) : Kept.Beside line line.release :=
  ⟨rfl, rfl, rfl, rfl, nofun, (unsubscribe_keeps _ _).2⟩

private theorem stop_beside (line : Timeline) : Kept.Beside line line.stop.release :=
  ⟨rfl, rfl, rfl, rfl, nofun, List.Subset.trans (unsubscribe_keeps _ _).2 (unsubscribe_keeps _ _).2⟩

end

/-- What a session keeps. -/
structure Faithful (map : BufferMap) (lines : List (List UInt8)) (session : Session)
    (places : List Nat) : Prop where
  kept : Kept map lines session.line places
  next : session.nextCaller = requested lines
  waits : ∀ caller ∈ session.line.asking, session.state = .waiting caller
  stopped : ∀ front line back, lines = front ++ line :: back → order? line = some .stop →
    back = [] ∧ session.state = .ended

namespace Faithful

section
variable {map : BufferMap} {lines : List (List UInt8)} {session next : Session} {places : List Nat}

private theorem idle (faithful : Faithful map lines session places)
    (unwaiting : ∀ caller, session.state ≠ .waiting caller) : session.line.asking = [] :=
  List.eq_nil_iff_forall_not_mem.mpr fun caller member =>
    unwaiting caller (faithful.waits caller member)

private theorem quiet (faithful : Faithful map lines session places)
    (reading : session.state = .reading) : session.line.inbox.filterMap Command.caller? = [] := by
  have idle := faithful.idle (by simp [reading])
  simp only [Timeline.asking, List.append_eq_nil_iff] at idle
  exact idle.1.1

private theorem beside (faithful : Faithful map lines session places)
    (beside : Kept.Beside session.line next.line) (texts : next.line.space.map = session.line.space.map)
    (inbox : next.line.inbox = session.line.inbox) (state : next.state = session.state)
    (number : next.nextCaller = session.nextCaller) : Faithful map lines next places := by
  refine ⟨faithful.kept.beside beside texts (by rw [inbox]), number.trans faithful.next, ?_, ?_⟩
  · intro caller member
    rw [state]
    refine faithful.waits caller ?_
    simpa [Timeline.asking, inbox, beside.actor] using member
  · rw [state]
    exact faithful.stopped

private theorem handle (faithful : Faithful map lines session places) {wake : Wake}
    {taken : Timeline}
    (running : session.line.actor.running = true) (ready : session.line.Ready wake taken) :
    ∃ called, Faithful map lines { session with line := taken.handle wake } (places ++ called) := by
  obtain ⟨effects, served⟩ :=
    ready.served running faithful.kept.coherent faithful.kept.arrival
  obtain ⟨called, kept⟩ := faithful.kept.handle served
  exact ⟨called, kept, faithful.next, fun caller member =>
    faithful.waits caller (served.asked faithful.kept.coherent (.inl member)), faithful.stopped⟩

private theorem resume (faithful : Faithful map lines session places) :
    Faithful map lines session.resume places := by
  unfold Session.resume
  split
  case h_2 => exact faithful
  case h_1 caller waiting =>
    split
    case isFalse => exact faithful
    case isTrue answered =>
      refine ⟨faithful.kept, faithful.next, fun other member => ?_, ?_⟩
      · obtain rfl : caller = other := by
          simpa [waiting] using faithful.waits other member
        have told : caller ∈ session.line.told.map Prod.fst := by
          obtain ⟨answer, found, _⟩ := Option.map_eq_some_iff.mp
            (Option.eq_some_of_isSome answered)
          have own : answer.caller = caller := by simpa using List.find?_some found
          exact List.mem_map.mpr ⟨_, List.mem_map_of_mem (List.mem_of_find?_eq_some found), own⟩
        have conserved := faithful.kept.conserved caller
        have asks : 0 < session.line.asking.count caller := List.count_pos_iff.mpr member
        have once := List.count_pos_iff.mpr told
        split at conserved <;> omega
      · intro front line back split stops
        have ended := (faithful.stopped front line back split stops).2
        rw [waiting] at ended
        cases ended

private theorem read_line (faithful : Faithful map lines session places)
    (reading : session.state = .reading)
    {read : List UInt8} (beside : Kept.Beside session.line next.line)
    (texts : next.line.space.map = written map (lines ++ [read]))
    (inbox : next.line.inbox.filterMap Command.caller? =
      if order? read = some .compileNow then [requested lines] else [])
    (number : next.nextCaller = requested (lines ++ [read]))
    (waits : order? read = some .compileNow → next.state = .waiting (requested lines))
    (stops : order? read = some .stop → next.state = .ended) :
    Faithful map (lines ++ [read]) next places := by
  have idle := faithful.idle (by simp [reading])
  refine ⟨faithful.kept.read idle beside texts inbox, number, fun caller member => ?_, ?_⟩
  · rw [Kept.asking_after idle beside.actor inbox] at member
    split at member
    case isTrue asks =>
      rw [List.mem_singleton.mp member]
      exact waits asks
    case isFalse => cases member
  · intro front line back split stop
    rcases List.eq_nil_or_concat back with rfl | ⟨inner, last, rfl⟩
    · obtain ⟨_, same⟩ := List.append_inj' split rfl
      cases same
      exact ⟨rfl, stops stop⟩
    · rw [List.concat_eq_append, ← List.cons_append, ← List.append_assoc] at split
      obtain ⟨earlier, _⟩ := List.append_inj' split rfl
      have ended := (faithful.stopped front line inner earlier stop).2
      rw [reading] at ended
      cases ended

private theorem read_quiet (faithful : Faithful map lines session places)
    (reading : session.state = .reading) {read : List UInt8}
    (edits : (order? read).bind SessionCommand.edit? = none)
    (asks : order? read ≠ some .compileNow) (stops : order? read ≠ some .stop)
    (beside : Kept.Beside session.line next.line)
    (texts : next.line.space.map = session.line.space.map)
    (inbox : next.line.inbox = session.line.inbox) (number : next.nextCaller = session.nextCaller) :
    Faithful map (lines ++ [read]) next places := by
  refine faithful.read_line reading beside ?_ ?_ ?_ (absurd · asks) (absurd · stops)
  · rw [texts, faithful.kept.texts, written_unedited edits]
  · rw [if_neg asks, inbox]
    exact faithful.quiet reading
  · rw [number, faithful.next, requested_append, requested_singleton, if_neg asks, Nat.add_zero]

private theorem read_edit (faithful : Faithful map lines session places)
    (reading : session.state = .reading) {read : List UInt8} {command : SessionCommand}
    {operation : BufferMap.Operation} (order : order? read = some command)
    (edits : command.edit? = some operation) :
    Faithful map (lines ++ [read])
      { session with line := session.line.operate operation } places := by
  obtain ⟨beside, texts, inbox⟩ := operate_calm faithful.kept.calm operation
  have asks : order? read ≠ some .compileNow := by
    rintro asks
    cases order.symm.trans asks
    cases edits
  have stops : order? read ≠ some .stop := by
    rintro stops
    cases order.symm.trans stops
    cases edits
  refine faithful.read_line reading beside ?_ ?_ ?_ (absurd · asks) (absurd · stops)
  · rw [texts, faithful.kept.texts, written_concat, order, Option.bind_some, edits]
    rfl
  · rw [inbox, if_neg asks]
    exact faithful.quiet reading
  · rw [requested_append, requested_singleton, if_neg asks]
    exact faithful.next

private theorem readLine (faithful : Faithful map lines session places)
    (reading : session.state = .reading)
    (read : List UInt8) : Faithful map (lines ++ [read]) (session.readLine read) places := by
  have same : Kept.Beside session.line session.line :=
    ⟨rfl, rfl, rfl, rfl, id, List.Subset.refl _⟩
  unfold Session.readLine
  split
  case h_1 unread =>
    have order : order? read = none := by simp [order?, unread]
    exact faithful.read_quiet reading (by simp [order]) (by simp [order]) (by simp [order])
      (release_beside _) (unsubscribe_keeps _ _).1 rfl rfl
  case h_2 text found =>
    split
    case h_1 none =>
      have order : order? read = Option.none := by simp [order?, found, none]
      exact faithful.read_quiet reading (by simp [order]) (by simp [order]) (by simp [order])
        same rfl rfl rfl
    case h_2 command there =>
      have order : order? read = some command := by simp [order?, found, there]
      cases command with
      | set path content => exact faithful.read_edit reading order rfl
      | remove path => exact faithful.read_edit reading order rfl
      | activeFile path =>
        exact faithful.read_quiet reading (by simp [order, SessionCommand.edit?]) (by simp [order])
          (by simp [order]) ⟨rfl, rfl, rfl, rfl, id, List.Subset.refl _⟩ rfl rfl rfl
      | compileNow =>
        refine faithful.read_line reading ⟨rfl, rfl, rfl, rfl, id, List.Subset.refl _⟩ ?_ ?_ ?_ ?_ ?_
        · rw [written_unedited (by simp [order, SessionCommand.edit?])]
          exact faithful.kept.texts
        · rw [if_pos order, ← faithful.next]
          simp [carryOut, Timeline.send, faithful.quiet reading, Command.caller?]
        · rw [requested_append, requested_singleton, if_pos order, ← faithful.next]
          rfl
        · intro _
          rw [← faithful.next]
          rfl
        · simp [order]
      | stop =>
        refine faithful.read_line reading (stop_beside _) ?_ ?_ ?_ ?_ ?_
        · rw [written_unedited (by simp [order, SessionCommand.edit?]), ← faithful.kept.texts]
          exact (unsubscribe_keeps _ _).1.trans (unsubscribe_keeps _ _).1
        · rw [if_neg (by simp [order])]
          simpa [carryOut, Session.close, Timeline.stop, Timeline.send, Timeline.release,
            Timeline.unwatch, Command.caller?] using faithful.quiet reading
        · rw [requested_append, requested_singleton, if_neg (by simp [order])]
          exact faithful.next
        · simp [order]
        · exact fun _ => rfl

private theorem nextLine? (faithful : Faithful map lines session places) {line : List UInt8}
    (there : session.nextLine? = some (line, next)) :
    Faithful map lines next places ∧ next.state = session.state := by
  unfold Session.nextLine? at there
  split at there
  · cases there
    exact ⟨⟨faithful.kept, faithful.next, faithful.waits, faithful.stopped⟩, rfl⟩
  · split at there
    · cases there
    · cases there
      exact ⟨⟨faithful.kept, faithful.next, faithful.waits, faithful.stopped⟩, rfl⟩

private theorem step (faithful : Faithful map lines session places) {typed : List UInt8}
    {read : List (List UInt8)} (step : Step session typed read next) :
    ∃ called, Faithful map (lines ++ read) next (places ++ called) := by
  cases step with
  | handle running ready => simpa using faithful.handle running ready
  | read reading there =>
    obtain ⟨faithful, same⟩ := faithful.nextLine? there
    exact ⟨[], by simpa using faithful.readLine (same.trans reading) _⟩
  | resume => exact ⟨[], by simpa using faithful.resume⟩
  | release =>
    have released : Faithful map lines { session with line := session.line.release } places :=
      faithful.beside (release_beside _) (unsubscribe_keeps _ _).1 rfl rfl rfl
    exact ⟨[], by simpa using released⟩
  | close reading =>
    have idle : session.line.release.asking = [] := faithful.idle (by simp [reading])
    have released : Faithful map lines { session with line := session.line.release } places :=
      faithful.beside (release_beside _) (unsubscribe_keeps _ _).1 rfl rfl rfl
    refine ⟨[], ?_⟩
    rw [List.append_nil, List.append_nil]
    refine ⟨released.kept, released.next, by simp [Session.close, idle], ?_⟩
    intro front line back split stops
    exact ⟨(faithful.stopped front line back split stops).1, rfl⟩
  | type | endInput =>
    refine ⟨[], ?_⟩
    rw [List.append_nil, List.append_nil]
    exact ⟨faithful.kept, faithful.next, faithful.waits, faithful.stopped⟩
  | attend | wait =>
    refine ⟨[], ?_⟩
    rw [List.append_nil, List.append_nil]
    exact faithful.beside ⟨rfl, rfl, rfl, rfl, id, List.Subset.refl _⟩ rfl rfl rfl rfl

end

private theorem start (map : BufferMap) (compiler : Compiler) (bus : EventBus)
    (config : PipelineConfig) : Faithful map [] (Session.start map compiler bus config) [] := by
  have unasked : (Session.start map compiler bus config).line.asking = [] := rfl
  exact ⟨.start map compiler bus config, rfl, by simp [unasked], by simp⟩

end Faithful

section
variable {map : BufferMap} {compiler : Compiler} {bus : EventBus} {config : PipelineConfig}
variable {given : List UInt8} {lines : List (List UInt8)} {session : Session} {places : List Nat}

theorem Run.faithful (run : Run (Session.start map compiler bus config) given lines session) :
    ∃ places, Faithful map lines session places := by
  induction run with
  | start => exact ⟨[], .start map compiler bus config⟩
  | step _ step ih =>
    obtain ⟨places, faithful⟩ := ih
    obtain ⟨called, stepped⟩ := faithful.step step
    exact ⟨_, stepped⟩

/-- While someone asks, the pipeline gets on: a wake is ready, or a timer is set. -/
theorem Kept.gets_on {line : Timeline} (kept : Kept map lines line places)
    (held : line.held = true) {caller : Nat} (asks : caller ∈ line.asking) :
    line.ready?.isSome ∨ line.timer?.isSome := by
  have opened := kept.opened held
  have running : line.actor.running = true := by simp [Actor.running, opened]
  rw [Timeline.asking, List.append_assoc, List.mem_append] at asks
  rcases asks with sent | waits
  · obtain ⟨command, there, _⟩ := List.mem_filterMap.mp sent
    cases inbox : line.inbox with
    | nil => simp [inbox] at there
    | cons first rest =>
      left
      simp [Timeline.ready?, running, Timeline.commandWake?, opened, inbox]
  · have flying : line.actor.flight.isSome := by
      refine kept.coherent.waiting ?_
      rcases List.mem_append.mp waits with now | later
      · exact .inl (List.ne_nil_of_mem now)
      · exact .inr (List.ne_nil_of_mem later)
    obtain ⟨arrival, there⟩ := Option.isSome_iff_exists.mp (kept.arrival.trans flying)
    right
    unfold Timeline.timer?
    rw [if_pos running, there]
    cases line.actor.deadline <;> rfl

/-- A session compiles what was written. The lines that are read are the first lines of the input,
and none is read after a `stop`. To every compile there belongs a number of lines that were read
when the compiler was called, and these numbers never get less; the compiler was called with the
buffers as those lines left them. A line that asks for a compile is answered, unless it is the last
line that was read, and the session waits and gets on. The answer is that there is nothing to
compile if and only if the lines before it have left no buffers; otherwise it tells of a compile
that was called after that line was read and before the next, with the buffers as the lines before
it left them. -/
theorem compiles_what_is_written
    (run : Run (Session.start map compiler bus config) given lines session) :
    lines <+: linesOf given ∧
    (∀ front line back, lines = front ++ line :: back → order? line = some .stop → back = []) ∧
    ∃ places : List Nat,
      places.Pairwise (· ≤ ·) ∧ (∀ place ∈ places, place ≤ lines.length) ∧
      session.line.calls.map (·.request.files) =
        places.map (fun place => (written map (lines.take place)).getAll) ∧
      ∀ front line back, lines = front ++ line :: back → order? line = some .compileNow →
        ((∃ answer ∈ session.line.answers, answer.caller = requested front) ∨
          back = [] ∧ session.state = .waiting (requested front) ∧
            (session.line.held = true →
              session.line.ready?.isSome ∨ session.line.timer?.isSome)) ∧
        ∀ answer ∈ session.line.answers, answer.caller = requested front →
          (answer.outcome = .skipped ↔ (written map front).getAll = []) ∧
          ∀ number, answer.outcome.compileId? = some number →
            ∃ index call, number = index + 1 ∧ places[index]? = some (front.length + 1) ∧
              session.line.calls[index]? = some call ∧
              call.request.files = (written map front).getAll := by
  obtain ⟨places, faithful⟩ := run.faithful
  have kept := faithful.kept
  have spoken : linesOf (given ++ []) = _ := run.lines_read rfl (.inr rfl)
  rw [List.append_nil] at spoken
  refine ⟨⟨_, spoken.symm⟩, fun front line back split stops =>
    (faithful.stopped front line back split stops).1, places, kept.ordered,
    fun place member => (kept.within place member).1, kept.sources, ?_⟩
  intro front line back split asks
  have own : Asks lines (requested front) (front.length + 1) :=
    ⟨front, line, back, split, asks, rfl, rfl⟩
  refine ⟨?_, fun answer member same => ?_⟩
  · have conserved := kept.conserved (requested front)
    rw [if_pos own.inside.2] at conserved
    by_cases asking : requested front ∈ session.line.asking
    · right
      have last := own.unique (kept.asks _ asking)
      refine ⟨?_, faithful.waits _ asking, fun held => kept.gets_on held asking⟩
      rw [split, List.length_append, List.length_cons] at last
      exact List.eq_nil_of_length_eq_zero (by omega)
    · left
      rw [List.count_eq_zero.mpr asking, Nat.zero_add] at conserved
      have told : requested front ∈ session.line.told.map Prod.fst :=
        List.count_pos_iff.mp (by omega)
      simpa [Timeline.told] using told
  · obtain ⟨place, asked, skipped, numbered⟩ :=
      kept.told (answer.caller, answer.outcome) (List.mem_map_of_mem member)
    rw [same] at asked
    obtain rfl := own.unique asked
    have before : written map (lines.take (front.length + 1)) = written map front := by
      rw [split, ← List.singleton_append, ← List.append_assoc,
        List.take_append_of_le_length (by simp), List.take_of_length_le (by simp),
        written_unedited (by simp [asks, SessionCommand.edit?])]
    rw [before] at skipped
    refine ⟨skipped, fun number told => ?_⟩
    obtain ⟨index, count, there⟩ := numbered number told
    have source : session.line.sources[index]? = some (written map front).getAll := by
      rw [kept.sources, List.getElem?_map, there, Option.map_some, before]
    obtain ⟨call, called, files⟩ := Option.map_eq_some_iff.mp
      ((List.getElem?_map ..).symm.trans source)
    exact ⟨index, call, count, there, called, files⟩

end

/-- A compile runs when the first line that asks for one is read, so the caller is answered by the
next one; at the second such line there is nothing to compile. -/
theorem compiles_what_is_written_in_flight :
    let bus : EventBus := ⟨⟨4, 0, [], [], 0⟩, ⟨4, 0, [], [], 0⟩, 4, 1⟩
    let slow : Compiler := fun _ _ => ⟨50, .error .encode⟩
    let said (fields : String) : List UInt8 := ("\x7b" ++ fields ++ "\x7d\n").toUTF8.toList
    let ask := said "\"op\":\"compileNow\""
    let first := said "\"op\":\"set\",\"path\":\"a\",\"content\":\"x\""
    let rest := said "\"op\":\"set\",\"path\":\"a\",\"content\":\"y\"" ++ ask ++ said "no command" ++
      said "\"op\":\"remove\",\"path\":\"a\"" ++ ask
    let inputs : List SessionInput := [.octets first, .wait 20, .octets rest]
    let fresh := Session.start .empty slow bus { debounce := 10 }
    let session := fresh.complete inputs
    session.line.calls.map (·.request.files) = [[(⟨[97]⟩, "x")], [(⟨[97]⟩, "y")]] ∧
      session.line.answers.map (fun answer => (answer.caller, answer.outcome.compileId?)) =
        [(0, some 2), (1, none)] ∧
      ∃ lines, Run fresh (inputs.flatMap (·.typed)) lines session ∧
        lines <+: linesOf (inputs.flatMap (·.typed)) ∧
        ∃ places : List Nat, places.Pairwise (· ≤ ·) ∧
          session.line.calls.map (·.request.files) =
            places.map (fun place => (written .empty (lines.take place)).getAll) := by
  intro bus slow said ask first rest inputs fresh session
  have opened : fresh.inputOpen = true := rfl
  obtain ⟨lines, run⟩ := run_complete opened inputs
  obtain ⟨front, _, places, ordered, _, sources, _⟩ := compiles_what_is_written run
  refine ⟨?_, ?_, lines, run, front, places, ordered, sources⟩
  · decide +kernel
  · decide +kernel

end Session

end LiveCompile
