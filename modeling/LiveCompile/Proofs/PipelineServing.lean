import LiveCompile.Proofs.PipelineChannels
import LiveCompile.Proofs.PipelineRequests

/-! How a pipeline among its channels serves callers. Who asks is in the inbox, waits for the
running compile or for the one after it, or was told an outcome: of a compile that was called with
the buffers as they are, or that there are none. -/

namespace LiveCompile.Pipeline

def Command.caller? : Command → Option Nat
  | .compileNow caller => some caller
  | _ => none

theorem Wake.caller?_command (command : Command) :
    Wake.caller? (.command command) = command.caller? := by
  cases command <;> rfl

private theorem replies_length (caller : Nat) (effects : List Effect) :
    (replies caller effects).length = ((answers effects).map Prod.fst).count caller := by
  unfold replies
  induction answers effects with
  | nil => rfl
  | cons answer rest ih =>
    by_cases own : answer.1 = caller
    · simp [own, ih]
    · simp [own, ih]

namespace Actor

section
variable {now : Nat} {files : List (Path × String)} {wake : Wake} {callers : List Nat}
variable {actor next : Actor} {effects : List Effect} {answer : Nat × Outcome}

theorem Attempt.answered (tried : Attempt now files callers actor next effects)
    (member : answer ∈ answers effects) : answer.2 = .skipped ∧ files = [] := by
  cases tried with
  | skip empty =>
    obtain ⟨caller, _, rfl⟩ : ∃ caller ∈ callers, (caller, Outcome.skipped) = answer := by
      simpa using member
    exact ⟨rfl, empty⟩
  | start => simp at member

theorem Attempt.called (tried : Attempt now files callers actor next effects) :
    (calls effects).map (·.files) = if files = [] then [] else [files] := by
  cases tried with
  | skip empty => simp [empty]
  | start filled => simp [filled]

private theorem verdict_numbered (flight : Flight) (result : CompileResult) :
    (actor.verdict now flight result).outcome.compileId? = some flight.compileId := by
  cases result <;> rfl

theorem Move.answered (move : Move now files actor wake next effects) (coherent : actor.Coherent)
    (member : answer ∈ answers effects) :
    (answer.2 = .skipped ∧ files = []) ∨
      (answer.1 ∈ actor.waiters ∧ answer.2.compileId? = some actor.lastCompileId) := by
  have farewell : ∀ {flight : Flight} {result : CompileResult}, actor.flight = some flight →
      answer ∈ answers (actor.farewell (actor.verdict now flight result)) →
      answer.1 ∈ actor.waiters ∧ answer.2.compileId? = some actor.lastCompileId := by
    intro flight result flying member
    obtain ⟨caller, waiting, rfl⟩ : ∃ caller ∈ actor.waiters,
        (caller, (actor.verdict now flight result).outcome) = answer := by simpa using member
    exact ⟨waiting, by rw [verdict_numbered, coherent.numbered flight flying]⟩
  cases move with
  | pass _ _ _ reports => simp [(reports_silent reports).2.2.2] at member
  | arm | defer | queue | halt | rest => cases member
  | attempt _ _ tried => exact .inl (tried.answered member)
  | settle flying => exact .inr (farewell flying member)
  | serve flying _ tried =>
    rcases List.mem_append.mp (answers_append .. ▸ member) with ending | begins
    · exact .inr (farewell flying ending)
    · exact .inl (tried.answered begins)

theorem Move.called (move : Move now files actor wake next effects) :
    calls effects = [] ∨ files ≠ [] ∧ (calls effects).map (·.files) = [files] := by
  have tries : ∀ {start : Actor} {callers : List Nat} {effects : List Effect},
      Attempt now files callers start next effects →
      calls effects = [] ∨ files ≠ [] ∧ (calls effects).map (·.files) = [files] := by
    intro start callers effects tried
    have called := tried.called
    by_cases empty : files = []
    · exact .inl (List.map_eq_nil_iff.mp (by rwa [if_pos empty] at called))
    · exact .inr ⟨empty, by rwa [if_neg empty] at called⟩
  cases move with
  | pass _ _ _ reports => exact .inl (reports_silent reports).2.2.1
  | arm | defer | queue | halt | rest => exact .inl rfl
  | attempt _ _ tried => exact tries tried
  | settle => exact .inl (calls_farewell ..)
  | serve _ _ tried => simpa using tries tried

theorem Move.called_once (move : Move now files actor wake next effects)
    (calls : calls effects ≠ []) : (Pipeline.calls effects).length = 1 := by
  obtain ⟨_, one⟩ := move.called.resolve_left calls
  simpa using congrArg List.length one

theorem Attempt.waits (tried : Attempt now files callers actor next effects) :
    calls effects ≠ [] ∨ next.waiters = actor.waiters := by
  cases tried with
  | skip => exact .inr rfl
  | start => exact .inl (by simp)

theorem Move.waits_for (move : Move now files actor wake next effects) (waiting : next.waiters ≠ []) :
    calls effects ≠ [] ∨ next.waiters = actor.waiters := by
  cases move with
  | pass | arm | defer | queue | halt | rest => exact .inr rfl
  | attempt _ _ tried => exact tried.waits
  | settle => exact absurd rfl waiting
  | serve _ _ tried =>
    rcases tried.waits with called | same
    · exact .inl (by simpa using called)
    · exact absurd same waiting

theorem Attempt.flying (tried : Attempt now files callers actor next effects)
    (free : actor.flight = none) : next.flight.isSome ↔ calls effects ≠ [] := by
  cases tried <;> simp [free]

theorem Move.flying (move : Move now files actor wake next effects) :
    next.flight.isSome ↔ calls effects ≠ [] ∨ actor.flight.isSome ∧ wake.ends = false := by
  cases move with
  | pass ignored _ _ reports =>
    simp [(quiet_of_ignores ignored).1, (reports_silent reports).2.2.1]
  | arm noted free => simp [free]
  | defer noted => simp [(quiet_of_notes noted).1]
  | queue => simp [Wake.ends]
  | halt halted | rest halted => simp [(quiet_of_halts halted).1]
  | attempt demanded free tried => simpa [free] using tried.flying free
  | settle => simp [landed, Wake.ends]
  | serve _ _ tried => simpa [Wake.ends] using tried.flying rfl

theorem Move.stays_open (move : Move now files actor wake next effects) (sent : wake ≠ .closed) :
    next.inboxOpen = actor.inboxOpen := by
  have kept : ∀ {inboxOpen}, actor.halts wake inboxOpen → inboxOpen = actor.inboxOpen := by
    intro inboxOpen halted
    cases wake with
    | closed => exact absurd rfl sent
    | command command => cases command <;> first | exact halted | cases halted
    | _ => cases halted
  cases move with
  | pass | arm | defer | queue | settle => rfl
  | halt halted | rest halted => exact kept halted
  | attempt _ _ tried | serve _ _ tried => exact tried.keeps.2.2.2.1

end

end Actor

namespace Timeline

/-- Those who asked and are not yet answered. -/
def asking (line : Timeline) : List Nat :=
  line.inbox.filterMap Command.caller? ++ line.actor.waiters ++ line.actor.queued

def sources (line : Timeline) : List (List (Path × String)) := line.calls.map (·.request.files)

/-- What a turn of the actor does to those around it. -/
structure Served (line : Timeline) (wake : Wake) (after : Timeline) (effects : List Effect) :
    Prop where
  move : ∃ now, Actor.Move now line.files line.actor wake after.actor effects
  sources : after.sources = line.sources ++ (Pipeline.calls effects).map (·.files)
  told : after.told = line.told ++ Pipeline.answers effects
  arrival : after.arrival.isSome = after.actor.flight.isSome
  inbox : line.inbox.filterMap Command.caller? =
    wake.caller?.toList ++ after.inbox.filterMap Command.caller?
  space : after.space = line.space
  held : after.held = line.held
  sent : line.held = true → wake ≠ .closed

private theorem foldl_perform (effects : List Effect) (line : Timeline) :
    (effects.foldl perform line).inbox = line.inbox ∧
      (effects.foldl perform line).space = line.space ∧
      (effects.foldl perform line).held = line.held ∧
      ((effects.foldl perform line).arrival.isSome ↔
        Pipeline.calls effects ≠ [] ∨ line.arrival.isSome) := by
  induction effects generalizing line with
  | nil => simp
  | cons effect rest ih =>
    rw [List.foldl_cons]
    obtain ⟨inbox, space, held, arrival⟩ := ih (line.perform effect)
    cases effect <;> exact ⟨inbox, space, held, by simpa [perform] using arrival⟩

private theorem settleReceiver_frame (line : Timeline) :
    line.settleReceiver.inbox = line.inbox ∧ line.settleReceiver.space = line.space ∧
      line.settleReceiver.held = line.held := by
  unfold settleReceiver
  split <;> exact ⟨rfl, rfl, rfl⟩

private theorem sources_eq (line : Timeline) :
    line.sources = (line.calls.map (·.request)).map (·.files) := by
  simp [sources]

section
variable {line taken : Timeline} {wake : Wake}

theorem Ready.frame (ready : line.Ready wake taken) :
    taken.space = line.space ∧ taken.held = line.held ∧
      line.inbox.filterMap Command.caller? =
        wake.caller?.toList ++ taken.inbox.filterMap Command.caller? ∧
      (wake.ends = false → taken.arrival = line.arrival) ∧
      (line.held = true → wake ≠ .closed) := by
  cases ready with
  | @command command inbox opened there =>
    refine ⟨rfl, rfl, ?_, fun _ => rfl, fun _ => Wake.noConfusion⟩
    rw [there, Wake.caller?_command]
    cases asks : command.caller? <;> simp [asks]
  | closed opened empty unheld =>
    exact ⟨rfl, rfl, rfl, fun _ => rfl, fun held => by simp [unheld] at held⟩
  | finished => exact ⟨rfl, rfl, rfl, nofun, fun _ => Wake.noConfusion⟩
  | event | lagged | busClosed | deadline =>
    exact ⟨rfl, rfl, rfl, fun _ => rfl, fun _ => Wake.noConfusion⟩

theorem Ready.served (ready : line.Ready wake taken) (running : line.actor.running = true)
    (coherent : line.actor.Coherent) (arrives : line.arrival.isSome = line.actor.flight.isSome) :
    ∃ effects, Served line wake (taken.handle wake) effects := by
  have found := ready.finds
  obtain ⟨space, held, inbox, arrival, sent⟩ := ready.frame
  have awaited : line.actor.awaits wake = true := ready.awaits running (by simp [arrives])
  have files : taken.files = line.files := congrArg (·.map.getAll) space
  have move : Actor.Move taken.now line.files line.actor wake
      (line.actor.step taken.now line.files wake).1 (line.actor.step taken.now line.files wake).2 :=
    coherent.move awaited
  have handled : taken.handle wake =
      ((line.actor.step taken.now line.files wake).2.foldl perform
        { taken with actor := (line.actor.step taken.now line.files wake).1 }).settleReceiver := by
    rw [← files, ← found.actor]
    rfl
  have done := performed move.unedited
    { taken with actor := (line.actor.step taken.now line.files wake).1 }
  obtain ⟨inbox', space', held', arrival'⟩ := foldl_perform
    (line.actor.step taken.now line.files wake).2
    { taken with actor := (line.actor.step taken.now line.files wake).1 }
  generalize line.actor.step taken.now line.files wake = turn at *
  obtain ⟨next, effects⟩ := turn
  generalize effects.foldl perform _ = after at handled done inbox' space' held' arrival'
  have rest := settled after
  obtain ⟨inbox'', space'', held''⟩ := settleReceiver_frame after
  rw [← handled] at rest inbox'' space'' held''
  have actor : (taken.handle wake).actor = next := rest.actor.trans done.actor
  refine ⟨effects, ⟨taken.now, actor ▸ move⟩, ?_, ?_, ?_, ?_, ?_, ?_, sent⟩
  · rw [sources_eq, rest.calls, done.called, found.calls, List.map_append, sources_eq]
  · have before : taken.told = line.told := congrArg (List.map _) found.answers
    have same : (taken.handle wake).told = after.told := congrArg (List.map _) rest.answers
    rw [same, ← before]
    exact done.told
  · rw [rest.arrival, actor, Bool.eq_iff_iff, arrival', move.flying, ← arrives]
    cases ends : wake.ends with
    | false => simp [arrival ends]
    | true =>
      have gone : ¬ taken.arrival.isSome := fun there =>
        Bool.false_ne_true ((found.arrival there).2.symm.trans ends)
      simp [gone]
  · rw [inbox'', inbox', inbox]
  · rw [space'', space', space]
  · rw [held'', held', held]

/-- Requests are neither lost nor doubled: who is told did ask, and asks no more. -/
theorem Served.conserved {after : Timeline} {effects : List Effect}
    (served : Served line wake after effects) (coherent : line.actor.Coherent) (caller : Nat) :
    after.asking.count caller + (after.told.map Prod.fst).count caller =
      line.asking.count caller + (line.told.map Prod.fst).count caller := by
  obtain ⟨now, move⟩ := served.move
  have conserved := move.conserved coherent caller
  rw [replies_length] at conserved
  simp only [asking, served.told, served.inbox, List.map_append, List.count_append]
  omega

theorem Served.asked {after : Timeline} {effects : List Effect}
    (served : Served line wake after effects) (coherent : line.actor.Coherent) {caller : Nat}
    (member : caller ∈ after.asking ∨ caller ∈ (Pipeline.answers effects).map Prod.fst) :
    caller ∈ line.asking := by
  have conserved := served.conserved coherent caller
  rw [served.told, List.map_append, List.count_append] at conserved
  rw [← List.count_pos_iff] at member ⊢
  rw [← List.count_pos_iff] at member
  omega

end

end Timeline

end LiveCompile.Pipeline
