import LiveCompile.Proofs.PipelineLifecycle

/-! What callers who ask for a compile are told in a run. No request is lost or doubled, the
outcomes of compiles come in the order of their numbers, and who waits for a compile is told
its outcome when it ends. -/

namespace LiveCompile.Pipeline

def replies (caller : Nat) (effects : List Effect) : List Outcome :=
  (answers effects).filterMap fun answer => if answer.1 = caller then some answer.2 else none

section
variable {caller : Nat} {effects : List Effect}

@[simp] theorem replies_nil : replies caller [] = [] := rfl

@[simp] theorem replies_append (before after : List Effect) :
    replies caller (before ++ after) = replies caller before ++ replies caller after := by
  simp [replies]

theorem replies_eq_nil (unanswered : answers effects = []) : replies caller effects = [] := by
  simp [replies, unanswered]

private theorem replies_told {callers : List Nat} {outcome : Outcome}
    (told : answers effects = callers.map (·, outcome)) :
    replies caller effects = List.replicate (callers.count caller) outcome := by
  rw [replies, told]
  clear told
  induction callers with
  | nil => rfl
  | cons first rest ih =>
    by_cases same : first = caller
    · rw [List.map_cons, List.filterMap_cons_some (b := outcome) (by simp [same]), ih, same,
        List.count_cons_self, List.replicate_succ]
    · rw [List.map_cons, List.filterMap_cons_none (by simp [same]), ih, List.count_cons_of_ne same]

end

namespace Actor

/-- The outcome of the compile that ends, if one does. -/
def outcome? (now : Nat) (actor : Actor) : Wake → Option Outcome
  | .finished result => actor.flight.map fun flight => (actor.verdict now flight result).outcome
  | _ => none

def outcomes (actor : Actor) : List Turn → List Outcome
  | [] => []
  | turn :: rest => (actor.outcome? turn.now turn.wake).toList ++ (actor.next turn).outcomes rest

section
variable {now : Nat} {files : List (Path × String)} {wake : Wake}
variable {actor next : Actor} {effects : List Effect}

private theorem outcome_iff_ends (awaited : actor.awaits wake = true) :
    (actor.outcome? now wake).isSome = wake.ends := by
  cases wake <;> simp_all [outcome?, Wake.ends, awaits]

private theorem outcome_none (unended : wake.ends = false) : actor.outcome? now wake = none := by
  cases wake <;> simp_all [outcome?, Wake.ends]

theorem Attempt.replied {callers : List Nat} (caller : Nat)
    (tried : Attempt now files callers actor next effects) :
    next.queued = actor.queued ∧
      if files = [] then
        replies caller effects = List.replicate (callers.count caller) .skipped ∧
          next.waiters = actor.waiters ∧ next.flight = actor.flight
      else replies caller effects = [] ∧ next.waiters = callers ∧ next.flight.isSome := by
  cases tried with
  | skip empty => simpa [empty] using replies_told (by simp)
  | start filled => simp [filled, replies_eq_nil]

/-- What a turn does to a caller who does not ask in it. Nothing changes until a compile
ends. Then those who wait for it are told, and those who wait for another one are told that
there is none or wait for the compile that starts. -/
theorem Move.replied (move : Move now files actor wake next effects) (coherent : actor.Coherent)
    {caller : Nat} (unasked : wake.caller? ≠ some caller) :
    match actor.outcome? now wake with
    | none =>
      replies caller effects = [] ∧ next.waiters.count caller = actor.waiters.count caller ∧
        next.queued.count caller = actor.queued.count caller
    | some outcome =>
      next.queued.count caller = 0 ∧
      if files = [] then
        replies caller effects = List.replicate (actor.waiters.count caller) outcome ++
          List.replicate (actor.queued.count caller) .skipped ∧ next.waiters.count caller = 0
      else
        replies caller effects = List.replicate (actor.waiters.count caller) outcome ∧
          next.waiters.count caller = actor.queued.count caller := by
  cases move with
  | pass ignored _ _ reports =>
    simp [outcome_none (quiet_of_ignores ignored).1, replies_eq_nil (reports_silent reports).2.2.2]
  | arm noted | defer noted => simp [outcome_none (quiet_of_notes noted).1]
  | halt halted | rest halted => simp [outcome_none (quiet_of_halts halted).1]
  | @queue other =>
    have different : other ≠ caller := fun same => unasked (congrArg some same)
    simp [outcome?, different]
  | @attempt _ callers _ _ demanded free tried =>
    obtain ⟨unended, rfl⟩ := callers_of_demands demanded
    have absent : wake.caller?.toList.count caller = 0 := by
      rw [List.count_eq_zero, Option.mem_toList]
      exact unasked
    obtain ⟨queued, tried⟩ := tried.replied caller
    simp only [outcome_none unended, queued]
    split at tried <;> simp [tried, absent, coherent.waiters_of_free free]
  | @settle result flight flying unqueued =>
    have told : replies caller _ = _ :=
      replies_told (answers_farewell actor (actor.verdict now flight result))
    simp [outcome?, flying, told, landed, unqueued]
  | @serve result flight _ effects flying waiting tried =>
    have told : replies caller _ = _ :=
      replies_told (answers_farewell actor (actor.verdict now flight result))
    obtain ⟨queued, tried⟩ := tried.replied caller
    simp only [outcome?, flying, Option.map_some, replies_append, told, queued]
    split at tried <;> simp_all [landed]

/-- Requests are neither lost nor doubled: each is answered or waits. -/
theorem Move.conserved (move : Move now files actor wake next effects)
    (coherent : actor.Coherent) (caller : Nat) :
    (replies caller effects).length + next.waiters.count caller + next.queued.count caller =
      actor.waiters.count caller + actor.queued.count caller + wake.caller?.toList.count caller := by
  by_cases unasked : wake.caller? ≠ some caller
  · have absent : wake.caller?.toList.count caller = 0 := by
      rw [List.count_eq_zero, Option.mem_toList]
      exact unasked
    have replied := move.replied coherent unasked
    split at replied
    · simp [replied, absent]
    · obtain ⟨queued, replied⟩ := replied
      split at replied <;> simp [replied, queued, absent]
  · have asked : wake.caller? = some caller := Classical.not_not.mp unasked
    cases move with
    | pass ignored => simp [(quiet_of_ignores ignored).2] at asked
    | arm noted | defer noted => simp [(quiet_of_notes noted).2] at asked
    | halt halted | rest halted => simp [(quiet_of_halts halted).2] at asked
    | queue => simp [Option.some.inj asked, Wake.caller?]; omega
    | attempt demanded free tried =>
      obtain ⟨_, rfl⟩ := callers_of_demands demanded
      obtain ⟨queued, tried⟩ := tried.replied caller
      have waiters := coherent.waiters_of_free free
      split at tried <;> simp [tried, queued, waiters, asked, coherent.queued_of_free free]
    | settle | serve => cases asked

def aloft (actor : Actor) : Nat := if actor.flight.isSome then 1 else 0

theorem Move.ended (move : Move now files actor wake next effects) :
    next.lastCompileId + actor.aloft =
      actor.lastCompileId + next.aloft + (actor.outcome? now wake).toList.length := by
  cases move with
  | pass ignored => simp [outcome_none (quiet_of_ignores ignored).1, aloft]
  | arm noted | defer noted => simp [outcome_none (quiet_of_notes noted).1, aloft]
  | halt halted | rest halted => simp [outcome_none (quiet_of_halts halted).1, aloft]
  | queue => simp [outcome?, aloft]
  | attempt demanded free tried =>
    cases tried <;> simp [outcome_none (callers_of_demands demanded).1, aloft, free]
  | settle flying => simp [outcome?, aloft, flying, landed]
  | serve flying _ tried => cases tried <;> simp [outcome?, aloft, flying, landed]

end

section
variable {actor : Actor} {turns front back : List Turn} {caller : Nat}

theorem outcomes_append :
    actor.outcomes (front ++ back) = actor.outcomes front ++ (actor.after front).outcomes back := by
  induction front generalizing actor with
  | nil => rfl
  | cons turn rest ih => simp [outcomes, ih]

theorem outcomes_length (admitted : actor.Admits turns) :
    (actor.outcomes turns).length = (endings turns).length := by
  induction turns generalizing actor with
  | nil => rfl
  | cons turn rest ih =>
    have ends : (actor.outcome? turn.now turn.wake).isSome = _ := outcome_iff_ends admitted.1
    simp only [outcomes, List.length_append, ih admitted.2, endings, List.filter_cons]
    cases outcome : actor.outcome? turn.now turn.wake <;>
      simp_all [Nat.add_comm]

theorem Coherent.ended (coherent : actor.Coherent) (admitted : actor.Admits turns) :
    (actor.after turns).lastCompileId + actor.aloft =
      actor.lastCompileId + (actor.after turns).aloft + (actor.outcomes turns).length := by
  induction turns generalizing actor with
  | nil => simp [outcomes]
  | cons turn rest ih =>
    have ended := (coherent.turn admitted.1).ended
    have later := ih (coherent.next admitted.1) admitted.2
    simp only [outcomes, List.length_append, after_cons]
    omega

private theorem flown {now : Nat} {wake : Wake} {outcome : Outcome}
    (ended : actor.outcome? now wake = some outcome) : actor.aloft = 1 := by
  cases wake with
  | finished result =>
    obtain ⟨flight, flying, _⟩ := Option.map_eq_some_iff.mp ended
    simp [aloft, flying]
  | _ => cases ended

theorem Coherent.outcome_numbered (coherent : actor.Coherent) {now : Nat} {wake : Wake}
    {outcome : Outcome} (ended : actor.outcome? now wake = some outcome) :
    outcome.compileId? = some actor.lastCompileId := by
  cases wake with
  | finished result =>
    obtain ⟨flight, flying, rfl⟩ := Option.map_eq_some_iff.mp ended
    have numbered : (actor.verdict now flight result).outcome.compileId? = some flight.compileId :=
      (verdict_tells now flight result actor).2.2.2.1
    rw [numbered, coherent.numbered flight flying]
  | _ => cases ended

/-- The outcomes of a run are numbered from the first compile that had not ended. -/
theorem Coherent.outcomes_numbered (coherent : actor.Coherent) (admitted : actor.Admits turns)
    {count : Nat} (ended : count + actor.aloft = actor.lastCompileId) {place : Nat}
    {outcome : Outcome} (seen : (actor.outcomes turns)[place]? = some outcome) :
    outcome.compileId? = some (count + place + 1) := by
  induction turns generalizing actor count place with
  | nil => cases seen
  | cons turn rest ih =>
    have turned := (coherent.turn admitted.1).ended
    cases told : actor.outcome? turn.now turn.wake with
    | none =>
      simp only [told, Option.toList_none, List.length_nil] at turned
      have kept : count + (actor.next turn).aloft = (actor.next turn).lastCompileId := by omega
      exact ih (coherent.next admitted.1) admitted.2 kept (by simpa [outcomes, told] using seen)
    | some first =>
      simp only [told, Option.toList_some, List.length_singleton] at turned
      have passed : count + 1 + (actor.next turn).aloft = (actor.next turn).lastCompileId := by
        omega
      cases place with
      | zero =>
        obtain rfl : first = outcome := by simpa [outcomes, told] using seen
        rw [coherent.outcome_numbered told, ← ended, flown told]
      | succ place =>
        rw [ih (coherent.next admitted.1) admitted.2 passed (by simpa [outcomes, told] using seen)]
        congr 1
        omega

theorem Coherent.conserved (coherent : actor.Coherent) (admitted : actor.Admits turns)
    (caller : Nat) :
    (replies caller (actor.effects turns)).length + (actor.after turns).waiters.count caller +
        (actor.after turns).queued.count caller =
      actor.waiters.count caller + actor.queued.count caller + (requests turns).count caller := by
  induction turns generalizing actor with
  | nil => simp [effects, requests]
  | cons turn rest ih =>
    have turned := (coherent.turn admitted.1).conserved coherent caller
    have later := ih (coherent.next admitted.1) admitted.2
    simp only [effects, replies_append, List.length_append, after_cons, requests_cons,
      List.count_append]
    omega

end

/-- What a caller is told who waits for the compile that ends next and for the one after it,
so often each. -/
def due (waiting queued : Nat) : List Turn → List Outcome → List Outcome
  | ending :: _, outcome :: later =>
    List.replicate waiting outcome ++
      if ending.files = [] then List.replicate queued .skipped
      else later.head?.toList.flatMap (List.replicate queued ·)
  | _, _ => []

section
variable {actor : Actor} {turns : List Turn} {caller : Nat}

@[simp] theorem due_cons {waiting queued : Nat} {ending : Turn} {ended : List Turn}
    {outcome : Outcome} {told : List Outcome} :
    due waiting queued (ending :: ended) (outcome :: told) =
      List.replicate waiting outcome ++
        if ending.files = [] then List.replicate queued .skipped
        else told.head?.toList.flatMap (List.replicate queued ·) := rfl

theorem due_none (ended : List Turn) (told : List Outcome) : due 0 0 ended told = [] := by
  unfold due
  split
  · split <;> simp
  · rfl

theorem due_waiting (waiting : Nat) {ended : List Turn} {told : List Outcome}
    (matched : told.length = ended.length) :
    due waiting 0 ended told = told.head?.toList.flatMap (List.replicate waiting ·) := by
  cases ended with
  | nil => simp [due, List.length_eq_zero_iff.mp matched]
  | cons ending rest =>
    cases told with
    | nil => cases matched
    | cons outcome later => simp

theorem Coherent.replies_due (coherent : actor.Coherent) (admitted : actor.Admits turns)
    (unasked : caller ∉ requests turns) :
    replies caller (actor.effects turns) =
      due (actor.waiters.count caller) (actor.queued.count caller) (endings turns)
        (actor.outcomes turns) := by
  induction turns generalizing actor with
  | nil => rfl
  | cons turn rest ih =>
    rw [requests_cons, List.mem_append, Option.mem_toList, not_or] at unasked
    obtain ⟨other, later⟩ := unasked
    have ends : (actor.outcome? turn.now turn.wake).isSome = _ := outcome_iff_ends admitted.1
    have replied := (coherent.turn admitted.1).replied coherent other
    rw [effects, replies_append, ih (coherent.next admitted.1) admitted.2 later]
    cases told : actor.outcome? turn.now turn.wake with
    | none =>
      rw [told] at ends replied
      obtain ⟨silent, waiters, queued⟩ := replied
      simp [silent, waiters, queued, endings, outcomes, told, ← ends]
    | some outcome =>
      rw [told] at ends replied
      obtain ⟨queued, replied⟩ := replied
      have ending : endings (turn :: rest) = turn :: endings rest := by simp [endings, ← ends]
      have matched := outcomes_length admitted.2
      by_cases empty : turn.files = []
      · rw [if_pos empty] at replied
        simp [replied, queued, due_none, ending, outcomes, told, empty]
      · rw [if_neg empty] at replied
        simp [replied, queued, due_waiting _ matched, ending, outcomes, told, empty]

end

end Actor

end LiveCompile.Pipeline
