import LiveCompile.Proofs.PipelineRequests

/-! How a request to compile is answered. A caller who asks while no compile runs is served
by the compile that starts at once, a caller who asks during a compile by the one that
follows it; where there is nothing to compile the answer is that the compile was skipped. -/

namespace LiveCompile.Pipeline.Actor

section
variable {config : PipelineConfig} {cache : Cache} {turns before later : List Turn}
variable {asking : Turn} {caller : Nat}

/-- The outcomes of a run count the compiles that started, but for the one that runs. -/
theorem Admits.outcomes_count (admitted : (start config cache).Admits turns) :
    ((start config cache).outcomes turns).length + ((start config cache).after turns).aloft =
      ((start config cache).after turns).lastCompileId := by
  have ended := (Coherent.start config cache).ended admitted
  simp only [aloft, start, Option.isSome_none, Bool.false_eq_true, if_false, Nat.zero_add,
    Nat.add_zero] at ended ⊢
  omega

theorem Admits.unasked (admitted : (start config cache).Admits turns)
    (unasked : caller ∉ requests turns) :
    replies caller ((start config cache).effects turns) = [] ∧
      ((start config cache).after turns).waiters.count caller = 0 ∧
      ((start config cache).after turns).queued.count caller = 0 := by
  have conserved := (Coherent.start config cache).conserved admitted caller
  have absent : (requests turns).count caller = 0 := List.count_eq_zero.mpr unasked
  simp only [start, List.count_nil, absent] at conserved
  rw [← List.length_eq_zero_iff]
  simp only [start]
  omega

private theorem asked_once (distinct : (requests (before ++ asking :: later)).Nodup)
    (asked : asking.wake.caller? = some caller) :
    caller ∉ requests before ∧ caller ∉ requests later := by
  simp only [requests_append, requests_cons, asked, Option.toList_some, List.singleton_append,
    List.nodup_append, List.nodup_cons] at distinct
  obtain ⟨_, ⟨last, _⟩, apart⟩ := distinct
  exact ⟨fun member => apart caller member caller List.mem_cons_self rfl, last⟩

/-- What a caller is told in a run is told when the caller asks or due afterwards. -/
theorem Admits.replies_asked (admitted : (start config cache).Admits (before ++ asking :: later))
    (asked : asking.wake.caller? = some caller)
    (distinct : (requests (before ++ asking :: later)).Nodup) :
    let actor := (start config cache).after before
    replies caller ((start config cache).effects (before ++ asking :: later)) =
      replies caller (actor.output asking) ++
        due ((actor.next asking).waiters.count caller) ((actor.next asking).queued.count caller)
          (endings later) ((actor.next asking).outcomes later) := by
  intro actor
  obtain ⟨reached, awaited, admitted⟩ := admits_append.mp admitted
  obtain ⟨first, last⟩ := asked_once distinct asked
  have coherent : actor.Coherent := (Coherent.start config cache).after reached
  have told := (coherent.next awaited).replies_due admitted last
  simp [effects_append, effects, (reached.unasked first).1, told, actor]

/-- During a compile a caller who waits for the next one goes on waiting. -/
theorem Coherent.meanwhile {actor : Actor} (coherent : actor.Coherent)
    (admitted : actor.Admits turns) (unended : endings turns = []) {flight : Flight}
    (flying : actor.flight = some flight) :
    (actor.after turns).flight = some flight ∧ actor.queued ⊆ (actor.after turns).queued := by
  induction turns generalizing actor with
  | nil => exact ⟨flying, List.Subset.refl _⟩
  | cons turn rest ih =>
    obtain ⟨on, goes⟩ := List.filter_eq_nil_iff.mp unended |> List.forall_mem_cons.mp
    obtain ⟨flies, stays⟩ := (coherent.turn admitted.1).flies (by simpa using on) flying
    obtain ⟨flown, stayed⟩ := ih (coherent.next admitted.1) admitted.2
      (List.filter_eq_nil_iff.mpr goes) flies
    exact ⟨flown, List.Subset.trans stays stayed⟩

end

/-- What callers are told who ask while a compile runs, once it has ended: that there is
nothing to compile, or the outcome of the next one once that has ended. -/
def promised (first : Actor) (turns : List Turn) (compileId : Nat) : List Outcome :=
  match (endings turns)[compileId - 1]? with
  | none => []
  | some ending =>
    if ending.files = [] then [.skipped] else (first.outcomes turns)[compileId]?.toList

/-- A compile is started at once for a caller who asks while none runs. The caller is told
its outcome, or in the same turn that there is nothing to compile. -/
structure ServedAtOnce (first : Actor) (before : List Turn) (asking : Turn) (later : List Turn)
    (caller : Nat) : Prop where
  tried : reads ((first.after before).output asking) = [asking.files]
  skipped : asking.files = [] →
    answers ((first.after before).output asking) = [(caller, .skipped)] ∧
      replies caller (first.effects (before ++ asking :: later)) = [.skipped]
  started : asking.files ≠ [] →
    calls ((first.after before).output asking) =
        [⟨asking.files, (first.after before).entryHint⟩] ∧
      ((first.after before).next asking).flight =
        some ⟨(first.after before).lastCompileId + 1, asking.now⟩ ∧
      replies caller (first.effects (before ++ asking :: later)) =
        (first.outcomes (before ++ asking :: later))[(first.after before).lastCompileId]?.toList

/-- A caller who asks while a compile runs is told what all are who ask during it. In the
turn in which the compile ends, the next one starts, or the caller is told that there is
nothing to compile. -/
structure ServedNext (first : Actor) (before : List Turn) (asking : Turn) (later : List Turn)
    (caller : Nat) (flight : Flight) : Prop where
  silent : (first.after before).output asking = []
  told : replies caller (first.effects (before ++ asking :: later)) =
    promised first (before ++ asking :: later) flight.compileId
  ends : ∀ during ending rest, later = during ++ ending :: rest → endings during = [] →
    ending.wake.ends = true →
    let actor := first.after (before ++ asking :: during)
    actor.flight = some flight ∧
      if ending.files = [] then (caller, .skipped) ∈ answers (actor.output ending)
      else calls (actor.output ending) = [⟨ending.files, actor.entryHint⟩] ∧
        (actor.next ending).flight = some ⟨flight.compileId + 1, ending.now⟩

section
variable {config : PipelineConfig} {cache : Cache} {before later : List Turn}
variable {asking : Turn} {caller : Nat}

private theorem outcomes_asking {actor : Actor}
    (asks : asking.wake = .command (.compileNow caller)) :
    actor.outcomes (asking :: later) = (actor.next asking).outcomes later := by
  simp [outcomes, outcome?, asks]

theorem Admits.served_at_once (admitted : (start config cache).Admits (before ++ asking :: later))
    (distinct : (requests (before ++ asking :: later)).Nodup)
    (asks : asking.wake = .command (.compileNow caller))
    (free : ((start config cache).after before).flight = none) :
    ServedAtOnce (start config cache) before asking later caller := by
  have asked : asking.wake.caller? = some caller := by
    rw [asks]
    rfl
  have replied := admitted.replies_asked asked distinct
  obtain ⟨reached, awaited, admitted⟩ := admits_append.mp admitted
  have coherent := (Coherent.start config cache).after reached
  have tried := (asks ▸ coherent.turn awaited).of_asked_free free
  have unqueued := coherent.queued_of_free free
  refine ⟨?_, ?_, ?_⟩
  · by_cases empty : asking.files = []
    · simp [(tried.skipped empty).2]
    · simp [(tried.started empty).2.2.2]
  · intro empty
    obtain ⟨gone, told⟩ := tried.skipped empty
    have unwaited := coherent.waiters_of_free free
    simp only [replied, told, gone, unwaited, unqueued]
    simp [replies, due_none]
  · intro filled
    obtain ⟨flying, waiters, queued, told⟩ := tried.started filled
    have counted := reached.outcomes_count
    have matched := outcomes_length admitted
    simp only [aloft, free, Option.isSome_none, Bool.false_eq_true, if_false,
      Nat.add_zero] at counted
    refine ⟨by simp [told], flying, ?_⟩
    rw [replied, told, waiters, queued, unqueued, outcomes_append, outcomes_asking asks, ← counted,
      List.getElem?_append_right (Nat.le_refl _), Nat.sub_self, ← List.head?_eq_getElem?]
    simp [replies, due_waiting _ matched]

theorem Coherent.serves {actor : Actor} (coherent : actor.Coherent) {ending : Turn}
    (awaited : actor.awaits ending.wake = true) (ends : ending.wake.ends = true)
    {flight : Flight} (flying : actor.flight = some flight) (waiting : caller ∈ actor.queued) :
    if ending.files = [] then (caller, .skipped) ∈ answers (actor.output ending)
    else calls (actor.output ending) = [⟨ending.files, actor.entryHint⟩] ∧
      (actor.next ending).flight = some ⟨flight.compileId + 1, ending.now⟩ := by
  obtain ⟨result, finished⟩ : ∃ result, ending.wake = .finished result := by
    cases wake : ending.wake <;> simp_all [Wake.ends]
  obtain ⟨effects, told, tried⟩ := (finished ▸ coherent.turn awaited).of_finished flying
  have tried := tried (List.ne_nil_of_mem waiting)
  by_cases empty : ending.files = []
  · rw [if_pos empty, told, (tried.skipped empty).2]
    simp [waiting]
  · obtain ⟨starts, _, _, begun⟩ := tried.started empty
    have number : flight.compileId = actor.lastCompileId := coherent.numbered flight flying
    rw [if_neg empty, told, begun, starts, number]
    simp [landed, entryHint]

private theorem due_queued {ended : List Turn} {told : List Outcome}
    (matched : told.length = ended.length) :
    due 0 1 ended told =
      match ended[0]? with
      | none => []
      | some ending => if ending.files = [] then [.skipped] else told[1]?.toList := by
  cases ended with
  | nil => simp [due]
  | cons ending rest =>
    cases told with
    | nil => cases matched
    | cons outcome later => simp [List.head?_eq_getElem?]

theorem Admits.served_next (admitted : (start config cache).Admits (before ++ asking :: later))
    (distinct : (requests (before ++ asking :: later)).Nodup)
    (asks : asking.wake = .command (.compileNow caller)) {flight : Flight}
    (flying : ((start config cache).after before).flight = some flight) :
    ServedNext (start config cache) before asking later caller flight := by
  have asked : asking.wake.caller? = some caller := by
    rw [asks]
    rfl
  have replied := admitted.replies_asked asked distinct
  obtain ⟨reached, awaited, admitted⟩ := admits_append.mp admitted
  have coherent := (Coherent.start config cache).after reached
  obtain ⟨silent, gone⟩ := (asks ▸ coherent.turn awaited).of_asked_busy (by simp [flying])
  have last := coherent.numbered flight flying
  have on : (((start config cache).after before).next asking).flight = some flight := by
    rw [gone]
    exact flying
  refine ⟨silent, ?_, ?_⟩
  · have matched := outcomes_length admitted
    have earlier := outcomes_length reached
    have counted := reached.outcomes_count
    simp only [aloft, flying, Option.isSome_some, if_true, ← last] at counted
    have ended : endings (asking :: later) = endings later := by simp [endings, asks, Wake.ends]
    obtain ⟨_, unwaited, unqueued⟩ := reached.unasked (asked_once distinct asked).1
    rw [replied, silent, gone]
    simp only [replies_nil, List.nil_append, unwaited, List.count_append, unqueued,
      List.count_singleton_self, Nat.zero_add]
    rw [← gone, due_queued matched, promised, endings_append, ended, outcomes_append,
      outcomes_asking asks, List.getElem?_append_right (by omega),
      List.getElem?_append_right (by omega)]
    have first : flight.compileId - 1 - (endings before).length = 0 := by omega
    have second : flight.compileId - ((start config cache).outcomes before).length = 1 := by omega
    rw [first, second]
  · rintro during ending rest rfl unended ends actor
    obtain ⟨going, awaiting, _⟩ := admits_append.mp admitted
    have turned := coherent.next awaited
    have reaches : actor = (((start config cache).after before).next asking).after during := by
      simp [actor]
    obtain ⟨flown, waits⟩ := turned.meanwhile going unended on
    rw [← reaches] at flown waits awaiting
    have landing : actor.Coherent := reaches ▸ turned.after going
    exact ⟨flown, landing.serves awaiting ends flown (waits (by simp [gone]))⟩

end

/-- Every request to compile, which has a number of its own, is answered once. Where no
compile runs one is tried at once, and the caller is told its outcome or that there is
nothing to compile. Where one runs, all who ask meanwhile are told the same: the outcome of
the next compile, which starts in the turn in which the running one ends, or that there is
nothing to compile then. Outcomes are numbered by their compiles, and once no compile runs
everyone who asked was told once. -/
theorem requests_answered_once (config : PipelineConfig) (cache : Cache) (turns : List Turn)
    (admitted : (start config cache).Admits turns) (distinct : (requests turns).Nodup) :
    let first := start config cache
    (∀ place outcome, (first.outcomes turns)[place]? = some outcome →
        outcome.compileId? = some (place + 1)) ∧
      (∀ before asking later caller, turns = before ++ asking :: later →
        asking.wake = .command (.compileNow caller) →
        match (first.after before).flight with
        | none => ServedAtOnce first before asking later caller
        | some flight => ServedNext first before asking later caller flight) ∧
      ((first.after turns).flight = none → ∀ caller ∈ requests turns,
        (replies caller (first.effects turns)).length = 1) := by
  intro first
  have coherent : first.Coherent := .start config cache
  refine ⟨?_, ?_, ?_⟩
  · intro place outcome seen
    have fresh : 0 + first.aloft = first.lastCompileId := rfl
    simpa using coherent.outcomes_numbered admitted fresh seen
  · rintro before asking later caller rfl asks
    split
    · exact admitted.served_at_once distinct asks ‹_›
    · exact admitted.served_next distinct asks ‹_›
  · intro free caller asked
    have ended := coherent.after admitted
    have conserved := coherent.conserved admitted caller
    have once : (requests turns).count caller = 1 := by rw [distinct.count, if_pos asked]
    have initial : first.waiters = [] ∧ first.queued = [] := ⟨rfl, rfl⟩
    simpa [ended.waiters_of_free free, ended.queued_of_free free, initial, once] using conserved

/-- A caller who asks during a compile that fails, and is told of the next one. -/
theorem requests_answered_once_queued :
    let files : List (Path × String) := [(⟨[97]⟩, "x")]
    let asking : Turn := ⟨1, files, .command (.compileNow 1)⟩
    let before : List Turn := [⟨0, files, .command (.compileNow 0)⟩]
    let later : List Turn :=
      [⟨2, files, .finished (.error .encode)⟩, ⟨3, files, .finished (.error .encode)⟩]
    let first := start {} .empty
    first.Admits (before ++ asking :: later) ∧ (requests (before ++ asking :: later)).Nodup ∧
      ServedNext first before asking later 1 ⟨1, 0⟩ ∧
      (replies 1 (first.effects (before ++ asking :: later))).length = 1 := by
  intro files asking before later first
  have admitted : first.Admits (before ++ asking :: later) := ⟨rfl, rfl, rfl, rfl, trivial⟩
  have distinct : (requests (before ++ asking :: later)).Nodup := by decide
  obtain ⟨_, served, told⟩ := requests_answered_once {} .empty _ admitted distinct
  exact ⟨admitted, distinct, served before asking later 1 rfl rfl,
    told rfl 1 (by decide)⟩

end LiveCompile.Pipeline.Actor
