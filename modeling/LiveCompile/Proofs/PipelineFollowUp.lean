import LiveCompile.Proofs.PipelineUpdates

/-! How often a pipeline tries to compile. Changes and callers that come during a compile lead
to one more try together, and so do changes that come while none runs: an actor owes one try
or none, and a run that nobody adds to pays what is owed and comes to rest. -/

namespace LiveCompile.Pipeline

/-- Whether a compile is asked for: a buffer changed, the editor shows a source file, or a
caller wants one. -/
def Wake.asks (config : PipelineConfig) : Wake → Bool
  | .command (.bufferChanged _) | .command (.compileNow _) => true
  | .event (.activeFileChanged path) => path.isSource config.extensions
  | _ => false

/-- Wakes that come of themselves, without anyone outside. -/
def Wake.own : Wake → Bool
  | .deadline | .finished _ => true
  | _ => false

/-- No one asks for a compile or for a stop. -/
def Calm (config : PipelineConfig) (turns : List Turn) : Prop :=
  ∀ turn ∈ turns, turn.wake.asks config = false ∧ turn.wake.halts = false

theorem calm_cons {config : PipelineConfig} {turn : Turn} {rest : List Turn} :
    Calm config (turn :: rest) ↔
      (turn.wake.asks config = false ∧ turn.wake.halts = false) ∧ Calm config rest :=
  List.forall_mem_cons

private theorem calm_of_own {wake : Wake} (own : wake.own = true) (config : PipelineConfig) :
    wake.asks config = false ∧ wake.halts = false := by
  cases wake <;> simp_all [Wake.own, Wake.asks, Wake.halts]

/-- No compile is tried. -/
def Untried (effects : List Effect) : Prop := reads effects = [] ∧ calls effects = []

/-- One compile is tried: the buffers are read once, and the compiler is called if there are
any. -/
def Tried (files : List (Path × String)) (effects : List Effect) : Prop :=
  reads effects = [files] ∧
    (calls effects).map CompileRequest.files = if files = [] then [] else [files]

theorem Untried.append {before effects : List Effect} (untried : Untried before)
    (later : Untried effects) : Untried (before ++ effects) := by
  simp [Untried, untried.1, untried.2, later.1, later.2]

theorem untried_reports {effects : List Effect}
    (reports : ∀ effect ∈ effects, effect.isReport = true) : Untried effects :=
  ⟨(reports_silent reports).1, (reports_silent reports).2.2.1⟩

namespace Actor

@[simp] theorem reads_farewell (actor : Actor) (verdict : Verdict) :
    reads (actor.farewell verdict) = [] := by simp [farewell]

theorem untried_farewell (actor : Actor) (verdict : Verdict) :
    Untried (actor.farewell verdict) := ⟨reads_farewell .., calls_farewell ..⟩

/-- No wake comes of itself. -/
def Rests (actor : Actor) : Prop := ∀ wake, wake.own = true → actor.awaits wake = false

/-- Nothing runs, is due or is owed. -/
def Idle (actor : Actor) : Prop :=
  actor.schedule = ⟨.idle, false⟩ ∧ actor.deadline = none ∧ actor.flight = none ∧
    actor.queued = []

/-- An actor that was not asked to stop: whenever callers wait for the next compile, one is
owed. -/
structure Live (config : PipelineConfig) (actor : Actor) : Prop where
  coherent : actor.Coherent
  configured : actor.config = config
  going : actor.stopped = false
  inboxOpen : actor.inboxOpen = true
  backed : actor.queued ≠ [] → actor.schedule.pending = true

theorem Live.start (config : PipelineConfig) (cache : Cache) :
    (start config cache).Live config :=
  ⟨.start config cache, rfl, rfl, rfl, by simp [Actor.start]⟩

section
variable {config : PipelineConfig} {now : Nat} {files : List (Path × String)} {wake : Wake}
variable {actor next : Actor} {effects : List Effect}

theorem Attempt.tries {callers : List Nat}
    (tried : Attempt now files callers actor next effects) : Tried files effects := by
  cases tried with
  | skip empty => simp [Tried, empty]
  | start filled => simp [Tried, filled]

theorem Attempt.pays {callers : List Nat}
    (tried : Attempt now files callers actor next effects) : ¬ next.Owes := by
  cases tried <;> simp [Owes]

theorem Move.live (move : Move now files actor wake next effects) (live : actor.Live config)
    (unhalted : wake.halts = false) : next.Live config := by
  refine ⟨move.coherent live.coherent, ?_, move.going (not_halts unhalted) live.going, ?_, ?_⟩
  · cases move with
    | attempt _ _ tried | serve _ _ tried => exact tried.keeps.2.1.trans live.configured
    | _ => exact live.configured
  · cases move with
    | halt halted | rest halted => exact absurd halted (not_halts unhalted _)
    | attempt _ _ tried | serve _ _ tried => exact tried.keeps.2.2.2.1.trans live.inboxOpen
    | _ => exact live.inboxOpen
  · cases move with
    | pass => exact live.backed
    | arm _ free => exact fun waiting => absurd (live.coherent.queued_of_free free) waiting
    | defer | queue => exact fun _ => rfl
    | halt halted | rest halted => exact absurd halted (not_halts unhalted _)
    | attempt _ free tried =>
      intro waiting
      exact absurd (tried.keeps.1.trans (live.coherent.queued_of_free free)) waiting
    | settle _ unqueued => exact fun waiting => absurd unqueued waiting
    | serve _ _ tried => exact fun waiting => absurd tried.keeps.1 waiting

private theorem unasked_of_ignores (ignored : actor.ignores wake = true)
    (going : actor.stopped = false) : wake.asks actor.config = false ∧ wake.own = false := by
  cases wake with
  | command command => cases command <;> simp_all [ignores, Wake.asks, Wake.own]
  | event event => cases event <;> simp_all [ignores, Wake.asks, Wake.own]
  | _ => simp_all [ignores, Wake.asks, Wake.own]

private theorem asks_of_notes {file : Option Path} (noted : actor.notes wake file) :
    wake.asks actor.config = true ∧ wake.own = false := by
  cases wake with
  | command command => cases command <;> simp_all [notes, Wake.asks, Wake.own]
  | event event => cases event <;> simp_all [notes, Wake.asks, Wake.own]
  | _ => cases noted

/-- What is owed grows with every wake that asks, until a compile is tried. -/
theorem Move.owed (move : Move now files actor wake next effects) (live : actor.Live config)
    (unhalted : wake.halts = false) (untried : Untried effects) :
    next.Owes ↔ actor.Owes ∨ wake.asks config = true := by
  cases move with
  | pass ignored => simp [Owes, ← live.configured, (unasked_of_ignores ignored live.going).1]
  | arm noted | defer noted => simp [Owes, ← live.configured, (asks_of_notes noted).1]
  | queue => simp [Owes, Wake.asks]
  | halt halted | rest halted => exact absurd halted (not_halts unhalted _)
  | attempt _ _ tried => exact absurd untried.1 (by simp [tried.tries.1])
  | settle flying =>
    have compiling := live.coherent.flying.mp (by simp [flying])
    cases pending : actor.schedule.pending <;> simp [Owes, Wake.asks, compiling, pending]
  | serve _ _ tried => exact absurd untried.1 (by simp [tried.tries.1])

theorem Move.tries (move : Move now files actor wake next effects) :
    Untried effects ∨ Tried files effects := by
  cases move with
  | pass _ _ _ reports => exact .inl (untried_reports reports)
  | arm | defer | queue | halt | rest => exact .inl ⟨rfl, rfl⟩
  | attempt _ _ tried => exact .inr tried.tries
  | settle => exact .inl (untried_farewell ..)
  | serve _ _ tried => exact .inr (by simpa [Tried] using tried.tries)

/-- A turn in which no one asks tries a compile only if one is owed, and nothing is owed then.
It is the end of a compile that callers wait for, or the end of the quiet period. -/
theorem Move.calm (move : Move now files actor wake next effects) (live : actor.Live config)
    (awaited : actor.awaits wake = true) (unasked : wake.asks config = false)
    (unhalted : wake.halts = false) :
    Untried effects ∧ (next.Owes ↔ actor.Owes) ∨
      Tried files effects ∧ actor.Owes ∧ ¬ next.Owes ∧
        (wake = .deadline ∨ wake.ends = true ∧ actor.queued ≠ []) := by
  rcases move.tries with untried | tries
  · have owed := move.owed live unhalted untried
    exact .inl ⟨untried, by simpa [unasked] using owed⟩
  · refine .inr ⟨tries, ?_⟩
    have read : reads effects ≠ [] := by simp [tries.1]
    cases move with
    | pass _ _ _ reports => exact absurd (untried_reports reports).1 read
    | arm | defer | queue | halt | rest => exact absurd rfl read
    | attempt demanded free tried =>
      obtain rfl : wake = .deadline := by
        cases wake with
        | command command => cases command <;> simp_all [demands, Wake.asks]
        | deadline => rfl
        | _ => cases demanded
      have armed : actor.deadline.isSome := (Bool.and_eq_true_iff.mp awaited).2
      exact ⟨.inl (live.coherent.armed.mp armed), tried.pays, .inl rfl⟩
    | settle => exact absurd (untried_farewell ..).1 read
    | serve flying waiting tried =>
      exact ⟨.inr (live.backed waiting), tried.pays, .inr ⟨rfl, waiting⟩⟩

theorem Move.unqueued (move : Move now files actor wake next effects)
    (unasked : wake.asks config = false) (unqueued : actor.queued = []) : next.queued = [] := by
  cases move with
  | queue => cases unasked
  | attempt _ _ tried => exact tried.keeps.1.trans unqueued
  | serve _ waiting => exact absurd unqueued waiting
  | _ => exact unqueued

theorem Move.queues (move : Move now files actor wake next effects) (busy : actor.flight.isSome)
    (unended : wake.ends = false) :
    Untried effects ∧ next.flight = actor.flight ∧
      next.queued = actor.queued ++ wake.caller?.toList := by
  cases move with
  | pass ignored _ _ reports => simp [quiet_of_ignores ignored, untried_reports reports]
  | arm _ free | attempt _ free => simp [free] at busy
  | defer noted => simp [quiet_of_notes noted, Untried]
  | queue => simp [Wake.caller?, Untried]
  | halt halted | rest halted => simp [quiet_of_halts halted, Untried]
  | settle | serve => cases unended

end

section
variable {config : PipelineConfig} {actor : Actor} {turns : List Turn} {turn : Turn}

theorem Live.next (live : actor.Live config) (awaited : actor.awaits turn.wake = true)
    (unhalted : turn.wake.halts = false) : (actor.next turn).Live config :=
  (live.coherent.turn awaited).live live unhalted

theorem Live.after (live : actor.Live config) (admitted : actor.Admits turns)
    (unhalted : ∀ turn ∈ turns, turn.wake.halts = false) : (actor.after turns).Live config := by
  induction turns generalizing actor with
  | nil => exact live
  | cons turn rest ih =>
    obtain ⟨on, goes⟩ := List.forall_mem_cons.mp unhalted
    exact ih (live.next admitted.1 on) admitted.2 goes

theorem Rests.idle (rests : actor.Rests) (live : actor.Live config) : actor.Idle := by
  have running : actor.running = true := by simp [running, live.inboxOpen]
  have free : actor.flight = none := by
    have landed := rests (.finished (.error .encode)) rfl
    simpa [awaits, running] using landed
  have unarmed : actor.deadline = none := by
    have quiet := rests .deadline rfl
    simpa [awaits, running] using quiet
  refine ⟨?_, unarmed, free, live.coherent.queued_of_free free⟩
  have resting : actor.schedule.phase = .idle := by
    cases phase : actor.schedule.phase with
    | idle => rfl
    | debouncing =>
      have armed := live.coherent.armed.mpr phase
      simp [unarmed] at armed
    | compiling => exact absurd phase (live.coherent.phase_of_free free)
  calc
    actor.schedule = ⟨actor.schedule.phase, actor.schedule.pending⟩ := rfl
    _ = ⟨.idle, false⟩ := by rw [resting, live.coherent.pending_of_free free]

theorem Idle.rests (idle : actor.Idle) : actor.Rests := by
  obtain ⟨_, unarmed, free, _⟩ := idle
  intro wake own
  cases wake with
  | deadline => simp [awaits, unarmed]
  | finished result => simp [awaits, free]
  | _ => cases own

theorem Idle.owes (idle : actor.Idle) : ¬ actor.Owes := by simp [Owes, idle.1]

theorem Live.owed (live : actor.Live config) (admitted : actor.Admits turns)
    (unhalted : ∀ turn ∈ turns, turn.wake.halts = false) (untried : Untried (actor.effects turns)) :
    (actor.after turns).Owes ↔ actor.Owes ∨ ∃ turn ∈ turns, turn.wake.asks config = true := by
  induction turns generalizing actor with
  | nil => simp
  | cons turn rest ih =>
    obtain ⟨on, goes⟩ := List.forall_mem_cons.mp unhalted
    simp only [Untried, effects, reads_append, calls_append, List.append_eq_nil_iff] at untried
    obtain ⟨⟨unread, unreads⟩, uncalled, uncalls⟩ := untried
    have owed := (live.coherent.turn admitted.1).owed live on ⟨unread, uncalled⟩
    rw [after_cons, ih (live.next admitted.1 on) admitted.2 goes ⟨unreads, uncalls⟩, owed, or_assoc]
    simp

theorem Live.untried (live : actor.Live config) (admitted : actor.Admits turns)
    (calm : Calm config turns) (settled : ¬ actor.Owes) :
    Untried (actor.effects turns) ∧ ¬ (actor.after turns).Owes := by
  induction turns generalizing actor with
  | nil => exact ⟨⟨rfl, rfl⟩, settled⟩
  | cons turn rest ih =>
    obtain ⟨⟨unasked, unhalted⟩, calm⟩ := calm_cons.mp calm
    have later := ih (live.next admitted.1 unhalted) admitted.2 calm
    rcases (live.coherent.turn admitted.1).calm live admitted.1 unasked unhalted with
      ⟨untried, owed⟩ | ⟨_, owes, _⟩
    · obtain ⟨untrieds, paid⟩ := later fun owes => settled (owed.mp owes)
      exact ⟨untried.append untrieds, paid⟩
    · exact absurd owes settled

end

/-- Of some turns exactly one tries a compile. -/
structure TriedOnce (actor : Actor) (front : List Turn) (turn : Turn) (back : List Turn) :
    Prop where
  before : Untried (actor.effects front)
  tried : Tried turn.files ((actor.after front).output turn)
  afterwards : Untried (((actor.after front).next turn).effects back)

section
variable {config : PipelineConfig} {actor : Actor} {turns front back : List Turn} {turn : Turn}

theorem TriedOnce.cons {first : Turn} (tried : TriedOnce (actor.next first) front turn back)
    (untried : Untried (actor.output first)) : TriedOnce actor (first :: front) turn back :=
  ⟨untried.append tried.before, tried.tried, tried.afterwards⟩

/-- A run that nobody adds to pays what is owed in one turn: at the end of the quiet period,
or where a compile ends that callers wait for. -/
theorem Live.tried (live : actor.Live config) (admitted : actor.Admits turns)
    (calm : Calm config turns) (owes : actor.Owes) (paid : ¬ (actor.after turns).Owes) :
    ∃ front turn back, turns = front ++ turn :: back ∧ TriedOnce actor front turn back ∧
      (actor.queued = [] → turn.wake = .deadline) := by
  induction turns generalizing actor with
  | nil => exact absurd owes paid
  | cons turn rest ih =>
    obtain ⟨⟨unasked, unhalted⟩, calm⟩ := calm_cons.mp calm
    have move := live.coherent.turn admitted.1
    have goes := live.next admitted.1 unhalted
    rcases move.calm live admitted.1 unasked unhalted with
      ⟨untried, owed⟩ | ⟨tried, _, settled, due⟩
    · obtain ⟨front, trying, back, rfl, once, timed⟩ := ih goes admitted.2 calm (owed.mpr owes) paid
      refine ⟨turn :: front, trying, back, rfl, once.cons untried, ?_⟩
      exact fun unqueued => timed (move.unqueued unasked unqueued)
    · have untried := (goes.untried admitted.2 calm settled).1
      refine ⟨[], turn, rest, rfl, ⟨⟨rfl, rfl⟩, tried, untried⟩, ?_⟩
      intro unqueued
      exact due.resolve_right fun waiting => waiting.2 unqueued

theorem Live.during (live : actor.Live config) (admitted : actor.Admits turns)
    (unhalted : ∀ turn ∈ turns, turn.wake.halts = false) (busy : actor.flight.isSome)
    (unended : endings turns = []) :
    Untried (actor.effects turns) ∧ (actor.after turns).queued = actor.queued ++ requests turns := by
  induction turns generalizing actor with
  | nil => simp [Untried, effects, requests]
  | cons turn rest ih =>
    obtain ⟨on, goes⟩ := List.forall_mem_cons.mp unhalted
    obtain ⟨ongoing, unendeds⟩ := List.forall_mem_cons.mp (List.filter_eq_nil_iff.mp unended)
    obtain ⟨untried, flies, queued⟩ :=
      (live.coherent.turn admitted.1).queues busy (by simpa using ongoing)
    obtain ⟨untrieds, queues⟩ := ih (live.next admitted.1 on) admitted.2 goes
      (by rw [flies]; exact busy) (List.filter_eq_nil_iff.mpr unendeds)
    refine ⟨untried.append untrieds, ?_⟩
    rw [after_cons, queues, queued, requests_cons, List.append_assoc]

end

/-- What becomes of the inputs that came during a compile, in the turn in which it ends and
those after it: if there were none, no compile is tried. If callers were among them, one is
tried in that very turn, else one at the end of a quiet period. Then nothing is left. -/
structure FollowedUp (config : PipelineConfig) (actor : Actor) (during : List Turn)
    (ending : Turn) (later : List Turn) : Prop where
  unasked : (∀ turn ∈ during, turn.wake.asks config = false) →
    Untried (actor.effects (ending :: later))
  served : requests during ≠ [] → TriedOnce actor [] ending later
  timed : (∃ turn ∈ during, turn.wake.asks config = true) → requests during = [] →
    ∃ front turn back, later = front ++ turn :: back ∧ turn.wake = .deadline ∧
      TriedOnce actor (ending :: front) turn back
  idle : (actor.after (ending :: later)).Idle

section
variable {config : PipelineConfig} {now : Nat} {files : List (Path × String)} {wake : Wake}
variable {actor next : Actor} {effects : List Effect}

theorem Move.begins (move : Move now files actor wake next effects) (coherent : actor.Coherent)
    (called : calls effects ≠ []) :
    next.flight.isSome ∧ ¬ next.Owes ∧ next.queued = [] := by
  cases move with
  | pass _ _ _ reports => exact absurd (untried_reports reports).2 called
  | arm | defer | queue | halt | rest => exact absurd rfl called
  | attempt _ free tried =>
    refine ⟨?_, tried.pays, tried.keeps.1.trans (coherent.queued_of_free free)⟩
    cases tried with
    | skip => simp at called
    | start => rfl
  | settle => exact absurd (untried_farewell ..).2 called
  | serve _ _ tried =>
    refine ⟨?_, tried.pays, tried.keeps.1⟩
    cases tried with
    | skip => simp at called
    | start => rfl

theorem Move.served (move : Move now files actor wake next effects) (ends : wake.ends = true)
    (waiting : actor.queued ≠ []) : Tried files effects ∧ ¬ next.Owes := by
  cases move with
  | pass ignored => simp [(quiet_of_ignores ignored).1] at ends
  | arm noted | defer noted => simp [(quiet_of_notes noted).1] at ends
  | queue => cases ends
  | halt halted | rest halted => simp [(quiet_of_halts halted).1] at ends
  | attempt demanded => simp [(callers_of_demands demanded).1] at ends
  | settle _ unqueued => exact absurd unqueued waiting
  | serve _ _ tried => exact ⟨by simpa [Tried] using tried.tries, tried.pays⟩

private theorem own_of_ends (ends : wake.ends = true) : wake.own = true := by
  cases wake <;> simp_all [Wake.ends, Wake.own]

end

section
variable {config : PipelineConfig} {actor : Actor} {during later : List Turn}
variable {starting ending : Turn}

theorem Live.followed_up (live : actor.Live config)
    (admitted : actor.Admits (starting :: during ++ ending :: later))
    (unhalted : ∀ turn ∈ starting :: during, turn.wake.halts = false)
    (called : calls (actor.output starting) ≠ []) (unended : endings during = [])
    (ends : ending.wake.ends = true) (calm : Calm config later)
    (rests : (actor.after (starting :: during ++ ending :: later)).Rests) :
    FollowedUp config (actor.after (starting :: during)) during ending later := by
  obtain ⟨⟨awaited, going⟩, awaits⟩ := admits_append.mp admitted
  obtain ⟨on, goes⟩ := List.forall_mem_cons.mp unhalted
  obtain ⟨busy, settled, unqueued⟩ := (live.coherent.turn awaited).begins live.coherent called
  have begun := live.next awaited on
  have landing := begun.after going goes
  obtain ⟨untried, queued⟩ := begun.during going goes busy unended
  have owed := begun.owed going goes untried
  rw [unqueued, List.nil_append] at queued
  rw [after_append] at rests
  have calms : Calm config (ending :: later) :=
    calm_cons.mpr ⟨calm_of_own (own_of_ends ends) config, calm⟩
  have idle := rests.idle (landing.after awaits fun turn member => (calms turn member).2)
  refine ⟨?_, ?_, ?_, idle⟩
  · intro unasked
    refine (landing.untried awaits calms ?_).1
    rw [owed]
    rintro (owes | ⟨turn, member, asks⟩)
    · exact settled owes
    · simp [unasked turn member] at asks
  · intro requested
    obtain ⟨tried, paid⟩ := (landing.coherent.turn awaits.1).served ends (by rwa [queued])
    have goes := landing.next awaits.1 (calm_cons.mp calms).1.2
    exact ⟨⟨rfl, rfl⟩, tried, (goes.untried awaits.2 calm paid).1⟩
  · intro asked unrequested
    obtain ⟨front, turn, back, split, once, timed⟩ :=
      landing.tried awaits calms (owed.mpr (.inr asked)) idle.owes
    have deadline := timed (queued.trans unrequested)
    cases front with
    | nil =>
      obtain ⟨rfl, _⟩ := List.cons.inj split
      simp [deadline, Wake.ends] at ends
    | cons first front =>
      obtain ⟨rfl, rfl⟩ := List.cons.inj split
      exact ⟨front, turn, back, rfl, deadline, once⟩

end

instance (actor : Actor) : Decidable actor.Owes := inferInstanceAs (Decidable (_ ∨ _))

/-- How many wakes of its own an actor has before it, at most, if nobody asks for more: the end
of the running compile, and the end of a quiet period and of a compile after it. -/
def rank (actor : Actor) : Nat :=
  (if actor.flight.isSome then 1 else 0) + if actor.Owes then 2 else 0

private theorem rank_le (actor : Actor) : actor.rank ≤ 3 := by
  unfold rank
  split <;> split <;> decide

section
variable {config : PipelineConfig} {now : Nat} {files : List (Path × String)} {wake : Wake}
variable {actor next : Actor} {effects : List Effect}

theorem Move.lands (move : Move now files actor wake next effects) (live : actor.Live config)
    (untried : Untried effects) :
    next.flight = actor.flight ∧ wake.own = false ∨
      actor.flight.isSome ∧ next.flight = none ∧ wake.ends = true := by
  cases move with
  | pass ignored => exact .inl ⟨rfl, (unasked_of_ignores ignored live.going).2⟩
  | arm noted | defer noted => exact .inl ⟨rfl, (asks_of_notes noted).2⟩
  | queue => exact .inl ⟨rfl, rfl⟩
  | halt halted | rest halted =>
    refine .inl ⟨rfl, ?_⟩
    cases wake <;> first | rfl | cases halted
  | attempt _ _ tried => exact absurd untried.1 (by simp [tried.tries.1])
  | settle flying => exact .inr ⟨by simp [flying], rfl, rfl⟩
  | serve _ _ tried => exact absurd untried.1 (by simp [tried.tries.1])

/-- A wake of the actor's own brings it nearer to rest, and others do not take it away from
rest unless they ask. -/
theorem Move.sinks (move : Move now files actor wake next effects) (live : actor.Live config)
    (awaited : actor.awaits wake = true) (unasked : wake.asks config = false)
    (unhalted : wake.halts = false) :
    next.rank + (if wake.own then 1 else 0) ≤ actor.rank := by
  have once : (if wake.own then 1 else 0) ≤ 1 := by split <;> decide
  rcases move.calm live awaited unasked unhalted with ⟨untried, owed⟩ | ⟨_, owes, paid, _⟩
  · rcases move.lands live untried with ⟨flies, foreign⟩ | ⟨flying, landed, _⟩
    · simp [rank, flies, foreign, owed]
    · simp only [rank, flying, landed, owed, Option.isSome_none, Bool.false_eq_true, if_false,
        if_true]
      omega
  · simp only [rank, owes, paid, if_false, if_true]
    have aloft : (if next.flight.isSome then 1 else 0) ≤ 1 := by split <;> decide
    omega

end

section
variable {config : PipelineConfig} {actor : Actor} {turns : List Turn}

theorem Live.grounded (live : actor.Live config) (admitted : actor.Admits turns)
    (unhalted : ∀ turn ∈ turns, turn.wake.halts = false) (untried : Untried (actor.effects turns))
    (free : actor.flight = none) : (actor.after turns).flight = none := by
  induction turns generalizing actor with
  | nil => exact free
  | cons turn rest ih =>
    obtain ⟨on, goes⟩ := List.forall_mem_cons.mp unhalted
    simp only [Untried, effects, reads_append, calls_append, List.append_eq_nil_iff] at untried
    obtain ⟨⟨unread, unreads⟩, uncalled, uncalls⟩ := untried
    have lands := (live.coherent.turn admitted.1).lands live ⟨unread, uncalled⟩
    refine ih (live.next admitted.1 on) admitted.2 goes ⟨unreads, uncalls⟩ ?_
    rcases lands with ⟨flies, _⟩ | ⟨_, landed, _⟩
    · exact flies.trans free
    · exact landed

theorem Live.own_le (live : actor.Live config) (admitted : actor.Admits turns)
    (calm : Calm config turns) :
    (turns.filter (·.wake.own)).length + (actor.after turns).rank ≤ actor.rank := by
  induction turns generalizing actor with
  | nil => simp
  | cons turn rest ih =>
    obtain ⟨⟨unasked, unhalted⟩, calm⟩ := calm_cons.mp calm
    have sinks := (live.coherent.turn admitted.1).sinks live admitted.1 unasked unhalted
    have later := ih (live.next admitted.1 unhalted) admitted.2 calm
    rw [List.filter_cons, after_cons]
    split at sinks <;> simp_all <;> omega

/-- As long as an actor does not rest a wake of its own can come, so it comes to rest. -/
theorem Live.comes_to_rest (live : actor.Live config) (now : Nat) (files : List (Path × String)) :
    ∃ turns, actor.Admits turns ∧ Calm config turns ∧ (actor.after turns).Rests := by
  -- the induction is on how far the actor is from rest
  generalize far : actor.rank = steps
  induction steps using Nat.strongRecOn generalizing actor with
  | ind steps ih =>
    by_cases rests : actor.Rests
    · exact ⟨[], trivial, by simp [Calm], rests⟩
    · obtain ⟨wake, comes⟩ := Classical.not_forall.mp rests
      obtain ⟨own, awaited⟩ := Classical.not_imp.mp comes
      rw [Bool.not_eq_false] at awaited
      obtain ⟨unasked, unhalted⟩ := calm_of_own own config
      let turn : Turn := ⟨now, files, wake⟩
      have move : Move now files actor wake (actor.next turn) (actor.output turn) :=
        live.coherent.move awaited
      have sinks := move.sinks live awaited unasked unhalted
      rw [own, if_pos rfl] at sinks
      obtain ⟨turns, admitted, calm, rests⟩ := ih _ (by omega) (move.live live unhalted) rfl
      exact ⟨turn :: turns, ⟨awaited, admitted⟩, calm_cons.mpr ⟨⟨unasked, unhalted⟩, calm⟩, rests⟩

/-- Any inputs that come while no compile runs lead to one try at the end of a quiet period. -/
theorem Live.coalesced {triggers later : List Turn} (live : actor.Live config)
    (admitted : actor.Admits (triggers ++ later))
    (unhalted : ∀ turn ∈ triggers, turn.wake.halts = false) (free : actor.flight = none)
    (untried : Untried (actor.effects triggers))
    (asked : ∃ turn ∈ triggers, turn.wake.asks config = true) (calm : Calm config later)
    (rests : (actor.after (triggers ++ later)).Rests) :
    ∃ front turn back, later = front ++ turn :: back ∧ turn.wake = .deadline ∧
      TriedOnce (actor.after triggers) front turn back ∧
      (actor.after (triggers ++ later)).Idle := by
  obtain ⟨going, awaits⟩ := admits_append.mp admitted
  have armed := live.after going unhalted
  have owes := (live.owed going unhalted untried).mpr (.inr asked)
  have unqueued := armed.coherent.queued_of_free (live.grounded going unhalted untried free)
  rw [after_append] at rests ⊢
  have idle := rests.idle (armed.after awaits fun turn member => (calm turn member).2)
  obtain ⟨front, turn, back, split, once, timed⟩ := armed.tried awaits calm owes idle.owes
  exact ⟨front, turn, back, split, timed unqueued, once, idle⟩

end

/-- Take a run without a stop that goes on until no wake comes of itself. The inputs that come
during a compile lead to exactly one more try, in the turn in which it ends if a caller was
among them and at the end of a quiet period otherwise; without any there is none. Inputs
that come while no compile runs lead to one try at the end of a quiet period. Nothing is left
in either case. And every run can go on so, with at most three wakes of its own. -/
theorem one_follow_up (config : PipelineConfig) (cache : Cache) (turns : List Turn)
    (admitted : (start config cache).Admits turns)
    (unhalted : ∀ turn ∈ turns, turn.wake.halts = false) :
    let first := start config cache
    (∀ before starting during ending later,
      turns = before ++ (starting :: during ++ ending :: later) →
      calls ((first.after before).output starting) ≠ [] → endings during = [] →
      ending.wake.ends = true → Calm config later → (first.after turns).Rests →
      FollowedUp config (first.after (before ++ starting :: during)) during ending later) ∧
    (∀ before triggers later, turns = before ++ (triggers ++ later) →
      (first.after before).schedule.phase ≠ .compiling →
      Untried ((first.after before).effects triggers) →
      (∃ turn ∈ triggers, turn.wake.asks config = true) → Calm config later →
      (first.after turns).Rests →
      ∃ front turn back, later = front ++ turn :: back ∧ turn.wake = .deadline ∧
        TriedOnce (first.after (before ++ triggers)) front turn back ∧ (first.after turns).Idle) ∧
    ∀ later, (first.after turns).Admits later → Calm config later →
      (later.filter (·.wake.own)).length ≤ 3 ∧
      ∃ more, (first.after turns).Admits (later ++ more) ∧ Calm config (later ++ more) ∧
        (first.after (turns ++ (later ++ more))).Rests := by
  intro first
  have live : first.Live config := .start config cache
  refine ⟨?_, ?_, ?_⟩
  · rintro before starting during ending later rfl called unended ends calm rests
    obtain ⟨reached, going⟩ := admits_append.mp admitted
    obtain ⟨on, goes⟩ := List.forall_mem_append.mp unhalted
    rw [after_append] at rests ⊢
    exact (live.after reached on).followed_up going (List.forall_mem_append.mp goes).1 called
      unended ends calm rests
  · rintro before triggers later rfl free untried asked calm rests
    obtain ⟨reached, going⟩ := admits_append.mp admitted
    obtain ⟨on, goes⟩ := List.forall_mem_append.mp unhalted
    have lives := live.after reached on
    have grounded : (first.after before).flight = none := by
      simpa using mt lives.coherent.flying.mp free
    simp only [after_append] at rests ⊢
    simpa using lives.coalesced going (List.forall_mem_append.mp goes).1 grounded untried asked
      calm (by simpa using rests)
  · intro later going calm
    have reached := live.after admitted unhalted
    have few := reached.own_le going calm
    have bound := rank_le (first.after turns)
    have gone := reached.after going fun turn member => (calm turn member).2
    obtain ⟨more, goes, calms, rests⟩ := gone.comes_to_rest 0 []
    refine ⟨by omega, more, admits_append.mpr ⟨going, goes⟩, ?_, by simpa using rests⟩
    exact List.forall_mem_append.mpr ⟨calm, calms⟩

/-- Two changes during a compile, which lead to one try at the end of a quiet period. There are
no buffers any more by then. -/
theorem one_follow_up_changed :
    let files : List (Path × String) := [(⟨[97]⟩, "x")]
    let starting : Turn := ⟨0, files, .command (.compileNow 0)⟩
    let change (now : Nat) : Turn := ⟨now, files, .command (.bufferChanged ⟨[97]⟩)⟩
    let ending : Turn := ⟨3, files, .finished (.error .encode)⟩
    let during : List Turn := [change 1, change 2]
    let later : List Turn := [⟨153, [], .deadline⟩]
    let turns : List Turn := starting :: during ++ ending :: later
    let first := start {} .empty
    first.Admits turns ∧ (∀ turn ∈ turns, turn.wake.halts = false) ∧ Calm {} later ∧
      (first.after turns).Rests ∧ FollowedUp {} (first.after (starting :: during)) during ending later ∧
      ∃ front turn back, later = front ++ turn :: back ∧ turn.wake = .deadline ∧
        TriedOnce (first.after (starting :: during)) (ending :: front) turn back := by
  intro files starting change ending during later turns first
  have admitted : first.Admits turns := ⟨rfl, rfl, rfl, rfl, rfl, trivial⟩
  have unhalted : ∀ turn ∈ turns, turn.wake.halts = false := by
    simp [turns, starting, during, later, change, ending, Wake.halts]
  have calm : Calm {} later := by simp [Calm, later, Wake.asks, Wake.halts]
  have rests : (first.after turns).Rests := Idle.rests ⟨rfl, rfl, rfl, rfl⟩
  have followed : FollowedUp {} (first.after (starting :: during)) during ending later :=
    (one_follow_up {} .empty turns admitted unhalted).1 [] starting during ending later rfl
      (List.cons_ne_nil _ _) rfl rfl calm rests
  exact ⟨admitted, unhalted, calm, rests, followed,
    followed.timed ⟨change 1, List.mem_cons_self, rfl⟩ rfl⟩

end Actor

end LiveCompile.Pipeline
