import LiveCompile.Proofs.PipelineCoherence

/-! The course of the events that a pipeline publishes. Every compile has one event when it
starts and one when it ends, and the events of two compiles never mix. What callers are
told about a compile is what its last event says. -/

namespace LiveCompile

/-- How many files a compile starts with, if the event tells of the start of one. -/
def Event.inputFileCount? : Event → Option Nat
  | .compilerStarted _ _ count => some count
  | _ => none

namespace Pipeline

/-- The event belongs at a place of the course started 1, ended 1, started 2, ended 2, … -/
def Follows (place : Nat) (event : Event) : Prop :=
  event.compileId? = some (place / 2 + 1) ∧
    if place % 2 = 0 then event.inputFileCount?.isSome = true else event.isTerminal = true

/-- The outcome says of a compile what the event says of it. -/
structure Tells (compileId : Nat) (outcome : Outcome) (event : Event) : Prop where
  completed : (∃ output, outcome = .completed compileId output) ↔
    ∃ duration hashes counts, event = .compilerCompleted compileId duration hashes counts
  failed : ∀ text, outcome = .failed compileId text ↔ event = .compilerError compileId text

namespace Actor

theorem verdict_tells (now : Nat) (flight : Flight) (result : CompileResult) (actor : Actor) :
    let verdict := actor.verdict now flight result
    verdict.event.isTerminal = true ∧ verdict.event.compileId? = some flight.compileId ∧
      verdict.event.inputFileCount? = none ∧
      verdict.outcome.compileId? = some flight.compileId ∧
      Tells flight.compileId verdict.outcome verdict.event := by
  cases result with
  | ok output =>
    refine ⟨rfl, rfl, rfl, rfl, ?_, ?_⟩ <;> simp [verdict, conclude]
  | error failure =>
    refine ⟨rfl, rfl, rfl, rfl, ?_, ?_⟩ <;> simp [verdict, conclude]

/-- The events so far follow each other up to the compile that started last, starts carry
the number of files of the calls, and callers were told what the events say. -/
structure Course (actor : Actor) (effects : List Effect) : Prop where
  length : (events effects).length + (if actor.flight.isSome then 1 else 0) =
    2 * actor.lastCompileId
  follows : ∀ place event, (events effects)[place]? = some event → Follows place event
  counts : (events effects).filterMap Event.inputFileCount? =
    (calls effects).map CompileRequest.inputFileCount
  told : ∀ caller outcome compileId, (caller, outcome) ∈ answers effects →
    outcome.compileId? = some compileId →
    ∃ event, (events effects)[2 * compileId - 1]? = some event ∧ Tells compileId outcome event

variable {now : Nat} {files : List (Path × String)} {wake : Wake}
variable {actor next : Actor} {before effects : List Effect}

theorem Course.start (config : PipelineConfig) (cache : Cache) :
    Course (start config cache) [] := by
  constructor <;> simp [Actor.start]

theorem Course.quiet (course : Course actor before) (flight : next.flight = actor.flight)
    (last : next.lastCompileId = actor.lastCompileId) (unpublished : events effects = [])
    (uncalled : calls effects = [])
    (skipped : ∀ caller outcome, (caller, outcome) ∈ answers effects → outcome.compileId? = none) :
    Course next (before ++ effects) := by
  constructor
  · simpa [unpublished, flight, last] using course.length
  · simpa [unpublished] using course.follows
  · simpa [unpublished, uncalled] using course.counts
  · intro caller outcome compileId member numbered
    rw [answers_append, List.mem_append] at member
    rcases member with member | member
    · simpa [unpublished] using course.told caller outcome compileId member numbered
    · rw [skipped caller outcome member] at numbered
      cases numbered

theorem Course.same (course : Course actor effects) (flight : next.flight = actor.flight)
    (last : next.lastCompileId = actor.lastCompileId) : Course next effects := by
  have kept := course.quiet flight last events_nil calls_nil (by simp)
  simpa using kept

private theorem follows_snoc {published : List Event} {event : Event}
    (follows : ∀ place event, published[place]? = some event → Follows place event)
    (last : Follows published.length event) :
    ∀ place other, (published ++ [event])[place]? = some other → Follows place other := by
  intro place other seen
  rcases Nat.lt_trichotomy place published.length with inside | rfl | beyond
  · rw [List.getElem?_append_left inside] at seen
    exact follows place other seen
  · simp only [List.getElem?_concat_length, Option.some.injEq] at seen
    exact seen ▸ last
  · rw [List.getElem?_eq_none (by simp; omega)] at seen
    cases seen

private theorem kept_append {α : Type} {front back : List α} {place : Nat} {item : α}
    (seen : front[place]? = some item) : (front ++ back)[place]? = some item := by
  obtain ⟨inside, _⟩ := List.getElem?_eq_some_iff.mp seen
  rw [List.getElem?_append_left inside, seen]

theorem Course.attempt {callers : List Nat} (course : Course actor before)
    (free : actor.flight = none) (tried : Attempt now files callers actor next effects) :
    Course next (before ++ effects) := by
  cases tried with
  | skip =>
    refine course.quiet rfl rfl (by simp) (by simp) ?_
    intro caller outcome member
    obtain ⟨_, _, _, rfl⟩ : ∃ other ∈ callers, other = caller ∧ Outcome.skipped = outcome := by
      simpa using member
    rfl
  | start =>
    have length := course.length
    simp only [free, Option.isSome_none, Bool.false_eq_true, if_false] at length
    constructor
    · simp; omega
    · simp only [events_append, events_cons, events_nil, Effect.event?, Option.toList_none,
        Option.toList_some, List.nil_append, List.append_nil]
      refine follows_snoc course.follows ⟨?_, ?_⟩
      · simp only [Event.compileId?]
        congr 1
        omega
      · rw [if_pos (by omega)]
        rfl
    · simp [course.counts, Event.inputFileCount?, CompileRequest.inputFileCount]
    · intro caller outcome compileId member numbered
      obtain ⟨event, seen, tells⟩ :=
        course.told caller outcome compileId (by simpa using member) numbered
      refine ⟨event, ?_, tells⟩
      rw [events_append]
      exact kept_append seen

theorem Course.land (course : Course actor before) (coherent : actor.Coherent) {flight : Flight}
    (flying : actor.flight = some flight) (now : Nat) (result : CompileResult) :
    Course (actor.landed (actor.verdict now flight result))
      (before ++ actor.farewell (actor.verdict now flight result)) := by
  obtain ⟨terminal, numbered, unstarted, outcome, tells⟩ := verdict_tells now flight result actor
  have length := course.length
  have last := coherent.numbered flight flying
  simp only [flying, Option.isSome_some, if_true] at length
  constructor
  · simp [landed]; omega
  · simp only [events_append, events_farewell]
    refine follows_snoc course.follows ⟨?_, ?_⟩
    · rw [numbered]
      congr 1
      omega
    · rw [if_neg (by omega)]
      exact terminal
  · simp [course.counts, unstarted]
  · intro caller other compileId member named
    simp only [answers_append, answers_farewell, List.mem_append] at member
    simp only [events_append, events_farewell]
    rcases member with member | member
    · obtain ⟨event, seen, tells⟩ := course.told caller other compileId member named
      exact ⟨event, kept_append seen, tells⟩
    · obtain ⟨_, _, same⟩ := List.mem_map.mp member
      cases same
      obtain rfl : flight.compileId = compileId := Option.some.inj (outcome.symm.trans named)
      refine ⟨_, ?_, tells⟩
      have place : 2 * flight.compileId - 1 = (events before).length := by omega
      rw [place, List.getElem?_concat_length]

theorem Course.move (course : Course actor before) (coherent : actor.Coherent)
    (move : Move now files actor wake next effects) : Course next (before ++ effects) := by
  cases move with
  | pass _ _ _ reports =>
    obtain ⟨_, unpublished, uncalled, unanswered⟩ := reports_silent reports
    exact course.quiet rfl rfl unpublished uncalled (by simp [unanswered])
  | arm | defer | queue | halt | rest => exact course.quiet rfl rfl rfl rfl (by simp)
  | attempt _ free tried => exact course.attempt free tried
  | @settle result _ flying =>
    exact (course.land coherent flying now result).same rfl rfl
  | @serve result _ _ _ flying _ tried =>
    rw [← List.append_assoc]
    refine Course.attempt ((course.land coherent flying now result).same ?_ ?_) ?_ tried <;> rfl

/-- The events of a run are a prefix of started 1, ended 1, started 2, ended 2, …, and the
last start lacks its end exactly while a compile runs. The start of a compile tells the
number of files of its call. Whoever was told of a compile was told what its end says, and
the end of the running compile is published and told to all callers that wait for it. -/
theorem events_in_turn (config : PipelineConfig) (cache : Cache) (turns : List Turn)
    (admitted : (start config cache).Admits turns) :
    let actor := (start config cache).after turns
    let effects := (start config cache).effects turns
    (∀ place event, (events effects)[place]? = some event → Follows place event) ∧
      (events effects).length + (if actor.flight.isSome then 1 else 0) =
        2 * (calls effects).length ∧
      (events effects).filterMap Event.inputFileCount? =
        (calls effects).map CompileRequest.inputFileCount ∧
      (∀ caller outcome compileId, (caller, outcome) ∈ answers effects →
        outcome.compileId? = some compileId →
        ∃ event, (events effects)[2 * compileId - 1]? = some event ∧
          Tells compileId outcome event) ∧
      ∀ now files result, actor.awaits (.finished result) = true →
        ∃ event outcome rest,
          actor.output ⟨now, files, .finished result⟩ =
            .publish event :: actor.waiters.map (.answer · outcome) ++ rest ∧
          event.isTerminal = true ∧ event.compileId? = some (calls effects).length ∧
          Tells (calls effects).length outcome event := by
  intro actor effects
  have coherent : actor.Coherent := (Coherent.start config cache).after admitted
  have course : Course actor effects :=
    (Coherent.start config cache).track Course admitted (.start config cache)
      fun coherent course move => course.move coherent move
  refine ⟨course.follows, ?_, course.counts, course.told, ?_⟩
  · rw [← admitted.counts]
    exact course.length
  · intro now files result awaited
    obtain ⟨flight, flying⟩ : ∃ flight, actor.flight = some flight := by
      simpa [awaits, Option.isSome_iff_exists] using (Bool.and_eq_true_iff.mp awaited).2
    have move : Move now files actor (.finished result) _ _ := coherent.move_finish flying result
    obtain ⟨rest, told, _⟩ := move.of_finished flying
    obtain ⟨terminal, numbered, _, _, tells⟩ := verdict_tells now flight result actor
    have last : flight.compileId = (calls effects).length := by
      rw [coherent.numbered flight flying]
      exact admitted.counts
    rw [last] at numbered tells
    exact ⟨_, _, rest, told, terminal, numbered, tells⟩

/-- A failed compile and the one after it, which a caller waits for. -/
theorem events_in_turn_failed :
    let files : List (Path × String) := [(⟨[97]⟩, "x")]
    let turns : List Turn := [⟨0, files, .command (.compileNow 0)⟩,
      ⟨1, files, .command (.compileNow 1)⟩, ⟨2, files, .finished (.error .encode)⟩]
    let effects := (start {} .empty).effects turns
    (start {} .empty).Admits turns ∧
      (0, Outcome.failed 1 CompileFailure.encode.message) ∈ answers effects ∧
      (∃ event, (events effects)[1]? = some event ∧
        Tells 1 (.failed 1 CompileFailure.encode.message) event) := by
  intro files turns effects
  have admitted : (start {} .empty).Admits turns := ⟨rfl, rfl, rfl, trivial⟩
  have told : (0, Outcome.failed 1 CompileFailure.encode.message) ∈ answers effects :=
    List.mem_cons_self
  exact ⟨admitted, told, (events_in_turn {} .empty turns admitted).2.2.2.1 0 _ 1 told rfl⟩

end Actor

end Pipeline

end LiveCompile
