import LiveCompile.Proofs.PipelineChannels
import LiveCompile.Proofs.PipelineDebounce
import LiveCompile.Proofs.PipelineFollowUp

/-! The file that a compile starts from. It is the last source file that the actor was shown when
the compile starts. Events and commands come on channels of their own, so it depends on what the
actor takes first whether a compile starts from a file that was shown before it was asked for. -/

namespace LiveCompile.Pipeline

/-- The source file that the editor shows. -/
def Wake.shown? (config : PipelineConfig) : Wake → Option Path
  | .event (.activeFileChanged path) =>
    if path.isSource config.extensions = true then some path else none
  | _ => none

def shown (config : PipelineConfig) (turns : List Turn) : List Path :=
  turns.filterMap (·.wake.shown? config)

/-- The last source file that was shown, or the configured one. -/
def hint (config : PipelineConfig) (turns : List Turn) : Option Path :=
  (shown config turns).getLast?.or config.entry

theorem shown_append (config : PipelineConfig) (front back : List Turn) :
    shown config (front ++ back) = shown config front ++ shown config back := List.filterMap_append

theorem getLast?_shown_cons (config : PipelineConfig) (turn : Turn) (rest : List Turn) :
    (shown config (turn :: rest)).getLast? =
      (shown config rest).getLast?.or (turn.wake.shown? config) := by
  cases found : turn.wake.shown? config with
  | none => simp [shown, found]
  | some path =>
    have split : shown config (turn :: rest) = [path] ++ shown config rest := by
      simp [shown, found]
    rw [split, List.getLast?_append]
    rfl

/-- The one call that a try makes is the one that its turn may make. -/
theorem Tried.calls_eq {files : List (Path × String)} {effects : List Effect} {entry : Option Path}
    (tried : Tried files effects)
    (made : calls effects = [] ∨ calls effects = [⟨files, entry⟩]) :
    calls effects = if files = [] then [] else [⟨files, entry⟩] := by
  have sources := tried.2
  by_cases empty : files = []
  · simpa [empty] using sources
  · rcases made with uncalled | called
    · simp [empty, uncalled] at sources
    · rw [called, if_neg empty]

namespace Actor

section
variable {now : Nat} {files : List (Path × String)} {wake : Wake} {callers : List Nat}
variable {actor next : Actor} {before effects : List Effect}

private theorem shown_of_notes {file : Option Path} (noted : actor.notes wake file) :
    file = (wake.shown? actor.config).or actor.activeFile := by
  cases wake with
  | command command =>
    cases command with
    | bufferChanged path => exact noted.2
    | _ => cases noted
  | event event =>
    cases event with
    | activeFileChanged path =>
      rw [noted.2]
      simp [Wake.shown?, noted.1]
    | _ => cases noted
  | _ => cases noted

private theorem unshown_of_ignores (ignored : actor.ignores wake = true) :
    wake.shown? actor.config = none := by
  cases wake with
  | event event => cases event <;> simp_all [ignores, Wake.shown?]
  | _ => rfl

private theorem unshown_of_demands (demanded : demands wake callers) :
    wake.shown? actor.config = none := by
  cases wake with
  | event => cases demanded
  | _ => rfl

private theorem unshown_of_halts {inboxOpen : Bool} (halted : actor.halts wake inboxOpen) :
    wake.shown? actor.config = none := by
  cases wake with
  | event => cases halted
  | _ => rfl

theorem Attempt.activeFile (tried : Attempt now files callers actor next effects) :
    next.activeFile = actor.activeFile := by
  cases tried <;> rfl

theorem Move.activeFile (move : Move now files actor wake next effects) :
    next.activeFile = (wake.shown? actor.config).or actor.activeFile := by
  cases move with
  | pass ignored => rw [unshown_of_ignores ignored, Option.none_or]
  | arm noted | defer noted => exact shown_of_notes noted
  | queue | settle => rfl
  | halt halted | rest halted => rw [unshown_of_halts halted, Option.none_or]
  | attempt demanded _ tried => rw [tried.activeFile, unshown_of_demands demanded, Option.none_or]
  | serve _ _ tried => exact tried.activeFile

theorem Attempt.calls_eq (tried : Attempt now files callers actor next effects) :
    calls effects = [] ∨ calls effects = [⟨files, actor.entryHint⟩] := by
  cases tried with
  | skip => exact .inl (by simp)
  | start => exact .inr (by simp)

theorem Move.calls_eq (move : Move now files actor wake next effects) :
    calls effects = [] ∨ calls effects = [⟨files, actor.entryHint⟩] := by
  cases move with
  | pass _ _ _ reports => exact .inl (reports_silent reports).2.2.1
  | arm | defer | queue | halt | rest => exact .inl rfl
  | attempt _ _ tried => exact tried.calls_eq
  | settle => exact .inl (calls_farewell ..)
  | serve _ _ tried => simpa [landed, entryHint] using tried.calls_eq

theorem Attempt.numbered (tried : Attempt now files callers actor next effects) {answer : Nat × Outcome}
    (member : answer ∈ answers effects) : answer.2.compileId? = none := by
  cases tried with
  | skip =>
    obtain ⟨caller, _, rfl⟩ : ∃ caller ∈ callers, (caller, Outcome.skipped) = answer := by
      simpa using member
    rfl
  | start => simp at member

/-- Callers are told of compiles that were started. -/
structure Numbered (actor : Actor) (effects : List Effect) : Prop where
  flying : actor.flight.isSome → 0 < actor.lastCompileId
  told : ∀ answer ∈ answers effects, ∀ number, answer.2.compileId? = some number →
    0 < number ∧ number ≤ actor.lastCompileId

theorem Attempt.flies_or (tried : Attempt now files callers actor next effects) :
    next.flight.isSome → actor.flight.isSome ∨ calls effects ≠ [] := by
  cases tried with
  | skip => exact .inl
  | start => exact fun _ => .inr (by simp)

theorem Move.flies_or (move : Move now files actor wake next effects) :
    next.flight.isSome → actor.flight.isSome ∨ calls effects ≠ [] := by
  cases move with
  | pass | arm | defer | queue | halt | rest => exact .inl
  | attempt _ _ tried => exact tried.flies_or
  | settle flying => exact fun _ => .inl (by simp [flying])
  | serve flying => exact fun _ => .inl (by simp [flying])

private theorem farewell_numbered {flight : Flight} {result : CompileResult}
    {answer : Nat × Outcome}
    (member : answer ∈ answers (actor.farewell (actor.verdict now flight result))) :
    answer.2.compileId? = some flight.compileId := by
  rw [answers_farewell] at member
  obtain ⟨caller, _, rfl⟩ := List.mem_map.mp member
  cases result <;> rfl

theorem Move.numbered (move : Move now files actor wake next effects) (coherent : actor.Coherent)
    {answer : Nat × Outcome} (member : answer ∈ answers effects) {number : Nat}
    (told : answer.2.compileId? = some number) :
    actor.flight.isSome ∧ number = actor.lastCompileId := by
  cases move with
  | pass _ _ _ reports => simp [(reports_silent reports).2.2.2] at member
  | arm | defer | queue | halt | rest => cases member
  | attempt _ _ tried => simp [tried.numbered member] at told
  | @settle _ flight flying =>
    rw [farewell_numbered member, Option.some.injEq] at told
    exact ⟨by simp [flying], told ▸ coherent.numbered flight flying⟩
  | @serve _ flight _ _ flying _ tried =>
    rw [answers_append, List.mem_append] at member
    rcases member with ending | begins
    · rw [farewell_numbered ending, Option.some.injEq] at told
      exact ⟨by simp [flying], told ▸ coherent.numbered flight flying⟩
    · simp [tried.numbered begins] at told

theorem Numbered.move (numbered : Numbered actor before) (coherent : actor.Coherent)
    (move : Move now files actor wake next effects) : Numbered next (before ++ effects) := by
  have counts := move.counts
  refine ⟨fun flies => ?_, fun answer member number told => ?_⟩
  · rw [counts]
    rcases move.flies_or flies with flying | called
    · exact Nat.add_pos_left (numbered.flying flying) _
    · exact Nat.add_pos_right _ (List.length_pos_iff.mpr called)
  · rw [counts]
    rw [answers_append, List.mem_append] at member
    rcases member with earlier | now
    · obtain ⟨positive, low⟩ := numbered.told answer earlier number told
      exact ⟨positive, Nat.le_trans low (Nat.le_add_right ..)⟩
    · obtain ⟨flying, same⟩ := move.numbered coherent now told
      exact ⟨same ▸ numbered.flying flying, same ▸ Nat.le_add_right ..⟩

end

section
variable {actor : Actor} {turns : List Turn}

theorem Steady.hint_eq (steady : actor.Steady) (admitted : actor.Admits turns) :
    (actor.after turns).activeFile =
      (shown actor.config turns).getLast?.or actor.activeFile := by
  induction turns generalizing actor with
  | nil => rfl
  | cons turn rest ih =>
    have move := steady.coherent.turn admitted.1
    rw [after_cons, ih (steady.next admitted.1) admitted.2, move.config, move.activeFile,
      getLast?_shown_cons, Option.or_assoc]

theorem Admits.hint_eq {config : PipelineConfig} {cache : Cache}
    (admitted : (start config cache).Admits turns) :
    ((start config cache).after turns).entryHint = hint config turns := by
  have steady := Steady.start config cache
  have shown := steady.hint_eq admitted
  have configured := steady.config_after admitted
  rw [entryHint, shown, configured, hint]
  show ((((Pipeline.shown config turns).getLast?).or none).orElse fun _ => config.entry) = _
  cases (Pipeline.shown config turns).getLast? <;> rfl

/-- Every call of the compiler is made in a turn, from the file that was shown last before. -/
theorem Coherent.call_starts (coherent : actor.Coherent) (admitted : actor.Admits turns)
    {place : Nat} {request : CompileRequest}
    (found : (calls (actor.effects turns))[place]? = some request) :
    ∃ before starting back, turns = before ++ starting :: back ∧
      (calls (actor.effects before)).length = place ∧
      calls ((actor.after before).output starting) = [request] ∧
      request.entry = (actor.after before).entryHint := by
  induction turns generalizing actor place with
  | nil => cases found
  | cons turn rest ih =>
    rw [effects, calls_append] at found
    have next := coherent.next admitted.1
    rcases (coherent.turn admitted.1).calls_eq with uncalled | called
    · rw [uncalled, List.nil_append] at found
      obtain ⟨before, starting, back, rfl, count, starts, hint⟩ := ih next admitted.2 found
      exact ⟨turn :: before, starting, back, rfl, by simp [effects, uncalled, count], starts, hint⟩
    · rw [called] at found
      cases place with
      | zero =>
        cases found
        exact ⟨[], turn, rest, rfl, rfl, called, rfl⟩
      | succ place =>
        obtain ⟨before, starting, back, rfl, count, starts, hint⟩ := ih next admitted.2 found
        exact ⟨turn :: before, starting, back, rfl, by simp [effects, called, count], starts, hint⟩

theorem Coherent.unhalted (coherent : actor.Coherent) (admitted : actor.Admits turns)
    (going : (actor.after turns).stopped = false) :
    ∀ turn ∈ turns, turn.wake.halts = false := by
  intro turn member
  obtain ⟨before, back, rfl⟩ := List.append_of_mem member
  obtain ⟨reached, awaited, onwards⟩ := admits_append.mp admitted
  have landed := coherent.after reached
  cases halts : turn.wake.halts with
  | false => rfl
  | true =>
    have stopped := (landed.next awaited).stays_stopped onwards ((landed.turn awaited).stops halts)
    rw [after_append, after_cons, stopped] at going
    cases going

theorem Live.pays {config : PipelineConfig} (live : actor.Live config)
    (admitted : actor.Admits turns) (unhalted : ∀ turn ∈ turns, turn.wake.halts = false)
    (owes : actor.Owes) (settled : ¬ (actor.after turns).Owes) :
    ∃ before starting back, turns = before ++ starting :: back ∧
      Tried starting.files ((actor.after before).output starting) := by
  induction turns generalizing actor with
  | nil => exact absurd owes settled
  | cons turn rest ih =>
    obtain ⟨on, others⟩ := List.forall_mem_cons.mp unhalted
    have move := live.coherent.turn admitted.1
    rcases move.tries with untried | tried
    · have owed := (move.owed live on untried).mpr (.inl owes)
      obtain ⟨before, starting, back, rfl, tried⟩ :=
        ih (live.next admitted.1 on) admitted.2 others owed settled
      exact ⟨turn :: before, starting, back, rfl, tried⟩
    · exact ⟨[], turn, rest, rfl, tried⟩

theorem Live.owes_shown {config : PipelineConfig} (live : actor.Live config) {turn : Turn}
    {path : Path} (awaited : actor.awaits turn.wake = true)
    (shows : turn.wake = .event (.activeFileChanged path))
    (source : path.isSource config.extensions = true) : (actor.next turn).Owes := by
  have untried : Untried (actor.output turn) := by
    simp [output, step, prepare, shows, Untried]
  have unhalted : turn.wake.halts = false := by rw [shows]; rfl
  refine ((live.coherent.turn awaited).owed live unhalted untried).mpr (.inr ?_)
  rw [shows]
  exact source

end

end Actor

private theorem published_of_arrived {history : List Incident} {event : Event}
    (member : event ∈ arrived history) : .published event ∈ history := by
  obtain ⟨incident, inside, found⟩ := List.mem_filterMap.mp member
  cases incident with
  | published other =>
    obtain ⟨_, same⟩ := Option.ite_none_right_eq_some.mp found
    exact Option.some.inj same ▸ inside
  | sent | handled => cases found

/-- The actor takes the event at a place. -/
def Taking (place : Nat) (before : List Turn) (taking : Turn) : Prop :=
  passed before = place ∧ ∃ event, taking.wake = .event event

/-- The actor has taken the event at a place. -/
def Takes (place : Nat) (turns : List Turn) : Prop :=
  ∃ before taking later, turns = before ++ taking :: later ∧ Taking place before taking

section
variable {config : PipelineConfig} {front rest : List Incident} {path : Path}

private theorem arrived_published (front rest : List Incident) (path : Path) :
    arrived (front ++ .published (.activeFileChanged path) :: rest) =
      arrived front ++ .activeFileChanged path :: arrived rest := by
  rw [arrived_append]
  rfl

theorem Delivered.taken {earlier before later : List Turn} {taking : Turn}
    (delivered : Delivered (arrived (front ++ .published (.activeFileChanged path) :: rest)) earlier)
    (split : earlier = before ++ taking :: later)
    (takes : Taking (arrived front).length before taking) :
    taking.wake = .event (.activeFileChanged path) := by
  obtain ⟨place, event, took⟩ := takes
  have found := delivered before taking later event split took
  rw [arrived_published, place, List.getElem?_append_right (Nat.le_refl _), Nat.sub_self] at found
  rw [took, ← Option.some.inj found]

/-- Once the actor took the last source file that was published, it is the last it was shown. -/
theorem Delivered.shown_last {earlier : List Turn}
    (delivered : Delivered (arrived (front ++ .published (.activeFileChanged path) :: rest)) earlier)
    (source : path.isSource config.extensions = true)
    (last : ∀ other, .published (.activeFileChanged other) ∈ rest →
      other.isSource config.extensions = false)
    (takes : Takes (arrived front).length earlier) :
    (shown config earlier).getLast? = some path := by
  obtain ⟨before, taking, after, rfl, takes⟩ := takes
  have took := delivered.taken rfl takes
  have place := takes.1
  have silent : shown config after = [] := by
    rw [shown, List.filterMap_eq_nil_iff]
    intro turn member
    obtain ⟨between, behind, rfl⟩ := List.append_of_mem member
    cases wake : turn.wake with
    | event event =>
      have found := delivered (before ++ taking :: between) turn behind event (by simp) wake
      have beyond : passed (before ++ taking :: between) =
          (arrived front).length + (1 + passed between) := by
        rw [passed_append, place]
        simp [passed, took, Wake.passes]
      rw [arrived_published, beyond, List.getElem?_append_right (Nat.le_add_right ..),
        Nat.add_sub_cancel_left, Nat.add_comm 1, List.getElem?_cons_succ] at found
      have later := published_of_arrived (List.mem_of_getElem? found)
      cases event with
      | activeFileChanged other => simp [Wake.shown?, last other later]
      | _ => rfl
    | _ => rfl
  rw [shown_append, List.getLast?_append]
  have shows : shown config (taking :: after) = [path] := by
    have first : taking.wake.shown? config = some path := by simp [took, Wake.shown?, source]
    simp only [shown, List.filterMap_cons, first]
    exact congrArg (path :: ·) silent
  rw [shows]
  rfl

end

namespace Timeline

section
variable {space : Workspace Watcher} {compiler : Compiler} {bus : EventBus}
variable {config : PipelineConfig} {history : List Incident} {line : Timeline}

theorem Run.answer_starts (made : bus.editor.Made)
    (run : Run (Timeline.start space compiler bus config) history line)
    {answer : Answer} (member : answer ∈ line.answers) {number : Nat}
    (told : answer.outcome.compileId? = some number) :
    ∃ before starting later call, turns history = before ++ starting :: later ∧
      line.calls[number - 1]? = some call ∧
      (Pipeline.calls ((Actor.start config .empty).effects before)).length = number - 1 ∧
      Pipeline.calls (((Actor.start config .empty).after before).output starting) =
        [call.request] ∧
      call.request.entry = hint config before := by
  have tracked := run.tracked made
  have coherent := Actor.Coherent.start config .empty
  have numbered : Actor.Numbered ((Actor.start config .empty).after (turns history))
      ((Actor.start config .empty).effects (turns history)) := by
    refine coherent.track Actor.Numbered tracked.admitted ⟨fun flies => ?_, ?_⟩
      fun coherent numbered move => numbered.move coherent move
    · cases flies
    · simp
  have given : (answer.caller, answer.outcome) ∈
      Pipeline.answers ((Actor.start config .empty).effects (turns history)) := by
    rw [← tracked.told]
    exact List.mem_map_of_mem member
  obtain ⟨positive, low⟩ := numbered.told _ given number told
  rw [tracked.admitted.counts, ← tracked.called, List.length_map] at low
  have inside : number - 1 < line.calls.length := by omega
  have called : (Pipeline.calls ((Actor.start config .empty).effects (turns history)))[number - 1]? =
      some line.calls[number - 1].request := by
    rw [← tracked.called, List.getElem?_map, List.getElem?_eq_getElem inside]
    rfl
  obtain ⟨before, starting, later, split, count, starts, hint⟩ :=
    coherent.call_starts tracked.admitted called
  have reached : (Actor.start config .empty).Admits before :=
    (Actor.admits_append.mp (split ▸ tracked.admitted)).1
  exact ⟨before, starting, later, _, split, List.getElem?_eq_getElem inside, count, starts,
    hint.trans reached.hint_eq⟩

/-- Once a source file was shown, a compile is tried before the schedule is idle again. -/
theorem Run.tries_shown (made : bus.editor.Made)
    (run : Run (Timeline.start space compiler bus config) history line)
    (going : line.actor.stopped = false) (idle : line.actor.schedule.phase = .idle)
    {before rest : List Turn} {taking : Turn} {path : Path}
    (split : turns history = before ++ taking :: rest)
    (took : taking.wake = .event (.activeFileChanged path))
    (source : path.isSource config.extensions = true) :
    ∃ between starting later, rest = between ++ starting :: later ∧
      let earlier := before ++ taking :: between
      let effects := ((Actor.start config .empty).after earlier).output starting
      reads effects = [starting.files] ∧ Pipeline.calls effects =
        if starting.files = [] then [] else [⟨starting.files, hint config earlier⟩] := by
  have tracked := run.tracked made
  have coherent := Actor.Coherent.start config .empty
  have admitted := tracked.admitted
  have ended : line.actor = (Actor.start config .empty).after (before ++ taking :: rest) :=
    split ▸ tracked.actor
  rw [split] at admitted
  obtain ⟨early, late⟩ := List.forall_mem_append.mp (coherent.unhalted admitted (ended ▸ going))
  obtain ⟨on, others⟩ := List.forall_mem_cons.mp late
  have settled : ¬ line.actor.Owes := by
    have last : line.actor.Coherent := ended ▸ coherent.after admitted
    rintro (debouncing | pending)
    · simp [idle] at debouncing
    · simp [last.pending pending] at idle
  obtain ⟨reached, awaited, onwards⟩ := Actor.admits_append.mp admitted
  have live := (Actor.Live.start config .empty).after reached early
  rw [ended, Actor.after_append, Actor.after_cons] at settled
  obtain ⟨between, starting, later, rfl, tried⟩ :=
    (live.next awaited on).pays onwards others (live.owes_shown awaited took source) settled
  obtain ⟨unstarted, due, _⟩ := Actor.admits_append.mp onwards
  have through : (Actor.start config .empty).Admits (before ++ taking :: between) :=
    Actor.admits_append.mpr ⟨reached, awaited, unstarted⟩
  rw [← Actor.after_cons, ← Actor.after_append] at tried due
  have called := tried.calls_eq ((coherent.after through).turn due).calls_eq
  rw [through.hint_eq] at called
  exact ⟨between, starting, later, rfl, tried.1, called⟩

end

/-- A source file that was published before a command to compile was sent need not be what the
compile for it starts from, even if no other was published and the actor takes it in the end: the
actor may take the command first. -/
theorem hint_not_of_published_event :
    ¬ ∀ (space : Workspace Watcher) (compiler : Compiler) (bus : EventBus)
      (config : PipelineConfig) (history front mid back : List Incident) (line : Timeline)
      (path : Path) (caller : Nat), bus.editor.Made →
      Run (Timeline.start space compiler bus config) history line →
      history = front ++ .published (.activeFileChanged path) ::
        (mid ++ .sent (.compileNow caller) :: back) →
      path.isSource config.extensions = true →
      (∀ other, .published (.activeFileChanged other) ∈ mid ++ back →
        other.isSource config.extensions = false) →
      Takes (arrived front).length (turns history) → line.actor.stopped = false →
      ∀ answer ∈ line.answers, answer.caller = caller →
        ∀ number, answer.outcome.compileId? = some number →
          ∃ call, line.calls[number - 1]? = some call ∧ call.request.entry = some path := by
  intro claim
  let path : Path := ⟨[97, 46, 108, 111, 111, 109]⟩
  let files : List (Path × String) := [(path, "room")]
  let bus : EventBus := ⟨⟨4, 0, [], [], 0⟩, ⟨4, 0, [], [], 0⟩, 4, 1⟩
  let first : Timeline :=
    Timeline.start { map := .ofFiles files } (fun _ _ => ⟨0, .error .encode⟩) bus {}
  have made : bus.editor.Made := .empty (by decide +kernel)
  obtain ⟨line, run, answers, calls, going⟩ : ∃ line, Run first
      [.published (.activeFileChanged path), .sent (.compileNow 0),
        .handled ⟨0, files, .command (.compileNow 0)⟩,
        .handled ⟨0, files, .event (.activeFileChanged path)⟩,
        .handled ⟨0, files, .finished (.error .encode)⟩] line ∧
      line.answers = [⟨0, 0, .failed 1 CompileFailure.encode.message⟩] ∧
      line.calls = [⟨0, ⟨files, none⟩⟩] ∧ line.actor.stopped = false := by
    have published : Run first _ _ := .step .start (.publish (.activeFileChanged path))
    have sent : Run first _ _ := .step published (.send (.compileNow 0))
    have asked : Run first _ _ := .step sent (.handle rfl (.command rfl rfl))
    have shown : Run first _ _ := .step asked (.handle rfl (.event rfl rfl))
    have ended : Run first _ _ := .step shown (.handle rfl (.finished rfl (Nat.le_refl 0)))
    refine ⟨_, ended, ?_, ?_, ?_⟩
    · rfl
    · rfl
    · decide +kernel
  obtain ⟨call, called, entry⟩ := claim _ _ _ _ _ [] [] _ line path 0 made run rfl rfl
    (by simp) ⟨[_], _, [_], rfl, rfl, _, rfl⟩ going _ (answers ▸ List.mem_singleton_self _) rfl 1 rfl
  rw [calls] at called
  cases called
  cases entry

/-- What decides is whether the actor has taken the event when a compile starts. Let a source file
be published as the last one, before a command to compile is sent. If the actor has taken the event
before the compile starts that answers the command or any other, it starts from that file, and so
does every compile that starts later; if not, it starts from the file that was shown last before, or
the configured one. Once the event is taken, a compile from that file is tried before the schedule is
idle again. -/
theorem hint_of_taken_event {space : Workspace Watcher} {compiler : Compiler} {bus : EventBus}
    {config : PipelineConfig} {history front mid back : List Incident} {line : Timeline}
    {path : Path} {caller : Nat} (made : bus.editor.Made)
    (run : Run (Timeline.start space compiler bus config) history line)
    (published : history = front ++ .published (.activeFileChanged path) ::
      (mid ++ .sent (.compileNow caller) :: back))
    (source : path.isSource config.extensions = true)
    (last : ∀ other, .published (.activeFileChanged other) ∈ mid ++ back →
      other.isSource config.extensions = false)
    (going : line.actor.stopped = false) :
    let first := Actor.start config .empty
    let place := (arrived front).length
    (∀ answer ∈ line.answers, ∀ number, answer.outcome.compileId? = some number →
      ∃ before starting later call, turns history = before ++ starting :: later ∧
        line.calls[number - 1]? = some call ∧
        (Pipeline.calls (first.effects before)).length = number - 1 ∧
        Pipeline.calls ((first.after before).output starting) = [call.request] ∧
        (Takes place before → call.request.entry = some path) ∧
        (¬ Takes place before → call.request.entry = hint config before)) ∧
    (∀ before starting later, turns history = before ++ starting :: later → Takes place before →
      ∀ request ∈ Pipeline.calls ((first.after before).output starting),
        request.entry = some path) ∧
    ∀ before taking later, turns history = before ++ taking :: later →
      Taking place before taking → line.actor.schedule.phase = .idle →
        ∃ between starting rest, later = between ++ starting :: rest ∧
          let effects := (first.after (before ++ taking :: between)).output starting
          reads effects = [starting.files] ∧ Pipeline.calls effects =
            if starting.files = [] then [] else [⟨starting.files, some path⟩] := by
  intro first place
  have tracked := run.tracked made
  have coherent : first.Coherent := .start config .empty
  have delivered := tracked.delivered
  rw [published] at delivered
  have later : ∀ other, .published (.activeFileChanged other) ∈
      mid ++ .sent (.compileNow caller) :: back → other.isSource config.extensions = false := by
    intro other member
    refine last other ?_
    simpa using member
  have hinted : ∀ before rest, turns history = before ++ rest → Takes place before →
      hint config before = some path := by
    intro before rest split takes
    have shown := (delivered.front (published ▸ split)).shown_last source later takes
    simp [hint, shown]
  refine ⟨?_, ?_, ?_⟩
  · intro answer member number told
    obtain ⟨before, starting, rest, call, split, called, count, starts, entry⟩ :=
      run.answer_starts made member told
    exact ⟨before, starting, rest, call, split, called, count, starts,
      fun takes => entry.trans (hinted before _ split takes), fun _ => entry⟩
  · intro before starting rest split takes request member
    have admitted := tracked.admitted
    rw [split] at admitted
    obtain ⟨reached, awaited, _⟩ := Actor.admits_append.mp admitted
    rcases ((coherent.after reached).turn awaited).calls_eq with uncalled | called
    · rw [uncalled] at member
      cases member
    · rw [called] at member
      rw [List.mem_singleton.mp member]
      exact reached.hint_eq.trans (hinted before _ split takes)
  · intro before taking rest split takes idle
    have took := delivered.taken (published ▸ split) takes
    obtain ⟨between, starting, later, rfl, reads, calls⟩ :=
      run.tries_shown made going idle split took source
    have entry := hinted (before ++ taking :: between) (starting :: later) (by simp [split])
      ⟨before, taking, between, rfl, takes⟩
    rw [entry] at calls
    exact ⟨between, starting, later, rfl, reads, calls⟩

/-- The event is taken first, then the command to compile. -/
theorem hint_of_taken_event_asked :
    let path : Path := ⟨[97, 46, 108, 111, 111, 109]⟩
    let files : List (Path × String) := [(path, "room")]
    let bus : EventBus := ⟨⟨4, 0, [], [], 0⟩, ⟨4, 0, [], [], 0⟩, 4, 1⟩
    let first : Timeline :=
      Timeline.start { map := .ofFiles files } (fun _ _ => ⟨0, .error .encode⟩) bus {}
    ∃ history line, bus.editor.Made ∧ Run first history line ∧
      history = [.published (.activeFileChanged path), .sent (.compileNow 0),
        .handled ⟨0, files, .event (.activeFileChanged path)⟩,
        .handled ⟨0, files, .command (.compileNow 0)⟩,
        .handled ⟨0, files, .finished (.error .encode)⟩] ∧
      path.isSource ({} : PipelineConfig).extensions = true ∧ line.actor.stopped = false ∧
      line.answers = [⟨0, 0, .failed 1 CompileFailure.encode.message⟩] ∧
      ∃ call, line.calls[0]? = some call ∧ call.request.entry = some path := by
  intro path files bus first
  have made : bus.editor.Made := .empty (by decide +kernel)
  have source : path.isSource ({} : PipelineConfig).extensions = true := rfl
  let turns : List Incident := [.handled ⟨0, files, .event (.activeFileChanged path)⟩,
    .handled ⟨0, files, .command (.compileNow 0)⟩, .handled ⟨0, files, .finished (.error .encode)⟩]
  have published : .published (.activeFileChanged path) :: .sent (.compileNow 0) :: turns =
    [] ++ .published (.activeFileChanged path) :: ([] ++ .sent (.compileNow 0) :: turns) := rfl
  obtain ⟨line, run, answers, going⟩ : ∃ line, Run first
      [.published (.activeFileChanged path), .sent (.compileNow 0),
        .handled ⟨0, files, .event (.activeFileChanged path)⟩,
        .handled ⟨0, files, .command (.compileNow 0)⟩,
        .handled ⟨0, files, .finished (.error .encode)⟩] line ∧
      line.answers = [⟨0, 0, .failed 1 CompileFailure.encode.message⟩] ∧
      line.actor.stopped = false := by
    have published : Run first _ _ := .step .start (.publish (.activeFileChanged path))
    have sent : Run first _ _ := .step published (.send (.compileNow 0))
    have shown : Run first _ _ := .step sent (.handle rfl (.event rfl rfl))
    have asked : Run first _ _ := .step shown (.handle rfl (.command rfl rfl))
    have ended : Run first _ _ := .step asked (.handle rfl (.finished rfl (Nat.le_refl 0)))
    refine ⟨_, ended, ?_, ?_⟩
    · rfl
    · decide +kernel
  refine ⟨_, line, made, run, rfl, source, going, answers, ?_⟩
  obtain ⟨before, starting, later, call, split, called, _, starts, taken, _⟩ :=
    (hint_of_taken_event made run published source (by simp [turns]) going).1 _
      (answers ▸ List.mem_singleton_self _) 1 rfl
  refine ⟨call, called, taken ?_⟩
  cases before with
  | nil =>
    obtain ⟨rfl, _⟩ := List.cons.inj split
    cases starts
  | cons taking rest =>
    obtain ⟨rfl, _⟩ := List.cons.inj split
    exact ⟨[], _, rest, rfl, rfl, _, rfl⟩

end Timeline

end LiveCompile.Pipeline
