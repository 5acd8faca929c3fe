import LiveCompile.Proofs.PipelineChannels
import LiveCompile.Session

/-! Runs of a session. The reader of the lines, the pipeline, the observer of the bus and the clock
get on in any order, so a line may be read before the pipeline has handled what is ready, and after
it. The session that runs by itself is one of these runs. -/

namespace LiveCompile

/-- The octets that an input adds. -/
def SessionInput.typed : SessionInput → List UInt8
  | .octets typed => typed
  | .wait _ => []

namespace Session

open Pipeline

/-- What may happen in a session, with the octets that come and the lines that are read. Nothing is
assumed of the clock, nor of those who use the bus. -/
inductive Step (session : Session) : List UInt8 → List (List UInt8) → Session → Prop where
  | type (octets : List UInt8) (opened : session.inputOpen = true) :
      Step session octets [] { session with unread := session.unread ++ octets }
  | endInput : Step session [] [] { session with inputOpen := false }
  | read {line : List UInt8} {next : Session} (reading : session.state = .reading)
      (there : session.nextLine? = some (line, next)) : Step session [] [line] (next.readLine line)
  | close (reading : session.state = .reading) (shut : session.inputOpen = false)
      (done : session.nextLine? = none) : Step session [] [] (session.close .ended)
  | resume : Step session [] [] session.resume
  | release : Step session [] [] { session with line := session.line.release }
  | handle {wake : Wake} {taken : Timeline} (running : session.line.actor.running = true)
      (ready : session.line.Ready wake taken) :
      Step session [] [] { session with line := taken.handle wake }
  | attend (bus : EventBus) (observer : Option Receiver) (seen : List (Nat × Reception Event)) :
      Step session [] [] { session with line := { session.line with bus, observer, seen } }
  | wait (now : Nat) : Step session [] [] { session with line := { session.line with now } }

inductive Run (first : Session) : List UInt8 → List (List UInt8) → Session → Prop where
  | start : Run first [] [] first
  | step {given typed : List UInt8} {lines read : List (List UInt8)} {session next : Session}
      (run : Run first given lines session) (step : Step session typed read next) :
      Run first (given ++ typed) (lines ++ read) next

theorem Run.trans {first middle last : Session} {given typed : List UInt8}
    {lines read : List (List UInt8)} (front : Run first given lines middle)
    (back : Run middle typed read last) : Run first (given ++ typed) (lines ++ read) last := by
  induction back with
  | start => simpa using front
  | step _ step ih => simpa using ih.step step

/-! The lines of the input -/

/-- The lines of some octets. What is left after the last newline is a line too. -/
def linesOf : List UInt8 → List (List UInt8)
  | [] => []
  | octet :: rest =>
    if octet = newline then [] :: linesOf rest
    else
      match linesOf rest with
      | [] => [[octet]]
      | line :: lines => (octet :: line) :: lines

section
variable {octets line rest : List UInt8}

private theorem linesOf_split (split : splitLine? octets = some (line, rest)) :
    linesOf octets = line :: linesOf rest := by
  induction octets generalizing line with
  | nil => cases split
  | cons octet later ih =>
    unfold splitLine? at split
    rw [linesOf]
    split at split
    case isTrue ends =>
      cases split
      rw [if_pos ends]
    case isFalse goes =>
      obtain ⟨⟨before, _⟩, found, same⟩ := Option.map_eq_some_iff.mp split
      cases same
      rw [if_neg goes, ih found]

private theorem linesOf_last (unsplit : splitLine? octets = none) (filled : octets ≠ []) :
    linesOf octets = [octets] := by
  induction octets with
  | nil => exact absurd rfl filled
  | cons octet later ih =>
    unfold splitLine? at unsplit
    rw [linesOf]
    split at unsplit
    case isTrue => cases unsplit
    case isFalse goes =>
      rw [if_neg goes]
      cases later with
      | nil => rfl
      | cons next last => rw [ih (Option.map_eq_none_iff.mp unsplit) (List.cons_ne_nil _ _)]

theorem splitLine?_append (split : splitLine? octets = some (line, rest)) (more : List UInt8) :
    splitLine? (octets ++ more) = some (line, rest ++ more) := by
  induction octets generalizing line with
  | nil => cases split
  | cons octet later ih =>
    unfold splitLine? at split
    rw [List.cons_append]
    unfold splitLine?
    split at split
    case isTrue ends =>
      cases split
      rw [if_pos ends]
    case isFalse goes =>
      obtain ⟨⟨before, _⟩, found, same⟩ := Option.map_eq_some_iff.mp split
      cases same
      rw [if_neg goes, ih found]
      rfl

end

private theorem linesOf_next {session next : Session} {line more : List UInt8}
    (there : session.nextLine? = some (line, next)) (ahead : session.inputOpen = true ∨ more = []) :
    linesOf (session.unread ++ more) = line :: linesOf (next.unread ++ more) := by
  unfold nextLine? at there
  split at there
  case h_1 split =>
    cases there
    exact linesOf_split (splitLine?_append split more)
  case h_2 unsplit =>
    split at there
    case isTrue => cases there
    case isFalse finished =>
      cases there
      simp only [Bool.or_eq_true, List.isEmpty_iff, not_or] at finished
      obtain rfl : more = [] := ahead.resolve_left finished.1
      simpa [linesOf] using linesOf_last unsplit finished.2

private theorem readLine_reads (session : Session) (line : List UInt8) :
    (session.readLine line).inputOpen = session.inputOpen ∧
      (session.readLine line).unread = session.unread := by
  unfold readLine
  split
  · exact ⟨rfl, rfl⟩
  · split
    · exact ⟨rfl, rfl⟩
    · next command _ => cases command <;> exact ⟨rfl, rfl⟩

private theorem resume_reads (session : Session) :
    session.resume.inputOpen = session.inputOpen ∧ session.resume.unread = session.unread := by
  unfold resume
  split
  · split <;> exact ⟨rfl, rfl⟩
  · exact ⟨rfl, rfl⟩

private theorem inputOpen_nextLine? {session next : Session} {line : List UInt8}
    (there : session.nextLine? = some (line, next)) : next.inputOpen = session.inputOpen := by
  unfold nextLine? at there
  split at there
  · cases there
    rfl
  · split at there
    · cases there
    · cases there
      rfl

/-- What is read and what is still to be read are the lines of what came, and of what may come if
the input is open. -/
theorem Run.lines_read {first session : Session} {given : List UInt8}
    {lines : List (List UInt8)} (run : Run first given lines session) (fresh : first.unread = [])
    {more : List UInt8} (ahead : session.inputOpen = true ∨ more = []) :
    linesOf (given ++ more) = lines ++ linesOf (session.unread ++ more) := by
  -- for all that may still come, as a line may be cut where the octets that came so far end
  induction run generalizing more with
  | start => rw [fresh]; rfl
  | @step given typed lines read session next _ step ih =>
    cases step with
    | type _ opened =>
      rw [List.append_assoc, ih (.inl opened), List.append_nil, List.append_assoc]
    | endInput =>
      obtain rfl : more = [] := ahead.resolve_left Bool.false_ne_true
      simpa using ih (.inr rfl)
    | read reading there =>
      obtain ⟨input, left⟩ := readLine_reads _ _
      have ahead := (input.trans (inputOpen_nextLine? there)) ▸ ahead
      rw [List.append_nil, ih ahead, linesOf_next there ahead, left]
      simp
    | resume =>
      obtain ⟨input, left⟩ := session.resume_reads
      rw [input] at ahead
      simpa [left] using ih ahead
    | close | release | handle | attend | wait => simpa [Session.close] using ih ahead

/-! What a session does by itself -/

/-- A session goes on by itself, without more input. -/
structure Goes (session next : Session) : Prop where
  input : next.inputOpen = session.inputOpen
  run : ∃ lines, Run session [] lines next

section
variable {session next last : Session}

theorem Goes.refl (session : Session) : Goes session session := ⟨rfl, [], .start⟩

theorem Goes.trans (front : Goes session next) (back : Goes next last) : Goes session last := by
  obtain ⟨opened, lines, run⟩ := front
  obtain ⟨stays, read, onwards⟩ := back
  exact ⟨stays.trans opened, lines ++ read, run.trans onwards⟩

theorem Goes.of_step {read : List (List UInt8)} (input : next.inputOpen = session.inputOpen)
    (step : Step session [] read next) : Goes session next := by
  have run : Run session ([] ++ []) ([] ++ read) next := Run.start.step step
  exact ⟨input, read, run⟩

private theorem goes_run (session : Session) (steps : Nat) :
    Goes session { session with line := session.line.run steps } := by
  induction steps generalizing session with
  | zero => exact .refl session
  | succ steps ih =>
    unfold Timeline.run
    cases found : session.line.ready? with
    | none => exact .refl session
    | some next =>
      obtain ⟨wake, taken⟩ := next
      obtain ⟨running, ready⟩ := Timeline.ready_of_ready? found
      have handled : Goes session { session with line := taken.handle wake } :=
        .of_step rfl (.handle running ready)
      exact handled.trans (ih _)

private theorem goes_observe (session : Session) :
    Goes session { session with line := session.line.observe } := by
  unfold Timeline.observe
  cases watching : session.line.observer with
  | none => exact .refl session
  | some observer =>
    simp only [← watching]
    exact .of_step rfl (.attend _ _ _)

private theorem goes_settleLine (session : Session) :
    Goes session { session with line := session.line.settle } :=
  (goes_run session _).trans (goes_observe _)

private theorem goes_readLines (lines : Nat) (session : Session) :
    Goes session (readLines lines session) := by
  induction lines generalizing session with
  | zero => exact .refl session
  | succ lines ih =>
    unfold readLines
    split
    · next reading =>
      split
      · next line next there =>
        have input := (readLine_reads next line).1.trans (inputOpen_nextLine? there)
        exact .trans (.of_step input (.read reading there)) (ih _)
      · next none =>
        split
        · exact .refl session
        · next shut => exact .of_step rfl (.close reading (by simpa using shut) none)
    · exact .refl session

private theorem goes_resume (session : Session) : Goes session session.resume :=
  .of_step session.resume_reads.1 .resume

private theorem goes_turns (turns : Nat) (session : Session) :
    Goes session (session.run turns) := by
  induction turns generalizing session with
  | zero => exact .refl session
  | succ turns ih =>
    have settled := (goes_readLines (session.unread.length + 2) session).trans (goes_settleLine _)
    unfold run
    dsimp only
    split
    · exact settled
    · exact (settled.trans (goes_resume _)).trans (ih _)

private theorem goes_settle (session : Session) :
    Goes session session.settle := goes_turns _ session

private theorem goes_wait (session : Session) (now : Nat) :
    Goes session { session with line := { session.line with now } } := .of_step rfl (.wait now)

private theorem goes_runTo (jumps limit : Nat) (session : Session) :
    Goes session (runTo jumps limit session) := by
  induction jumps generalizing session with
  | zero => exact goes_wait session limit
  | succ jumps ih =>
    unfold runTo
    split
    · exact goes_wait session _
    · next line jumped =>
      obtain ⟨now, rfl⟩ : ∃ now, line = { session.line with now } := by
        unfold Timeline.jump? at jumped
        split at jumped
        · cases jumped
        · split at jumped
          · exact ⟨_, (Option.some.inj jumped).symm⟩
          · cases jumped
      exact ((goes_wait session now).trans (goes_settle _)).trans (ih _)

private theorem goes_runOut (jumps : Nat) (session : Session) :
    Goes session (runOut jumps session) := by
  induction jumps generalizing session with
  | zero => exact .refl session
  | succ jumps ih =>
    unfold runOut
    split
    · exact .refl session
    · exact .refl session
    · split
      · exact .refl session
      · exact ((goes_wait session _).trans (goes_settle _)).trans (ih _)

private theorem goes_runUntil (finished : Timeline → Bool) (jumps : Nat) (session : Session) :
    Goes session { session with line := Timeline.runUntil finished jumps session.line } := by
  induction jumps generalizing session with
  | zero => exact .refl session
  | succ jumps ih =>
    unfold Timeline.runUntil
    split
    · exact .refl session
    · split
      · exact .refl session
      · exact ((goes_wait session _).trans (goes_settleLine _)).trans (ih _)

private theorem goes_shutdown (session : Session) :
    Goes session { session with line := session.line.shutdown } := by
  have released : Goes session { session with line := session.line.release } :=
    .of_step rfl .release
  exact (released.trans (goes_settleLine _)).trans (goes_runUntil _ _ _)

end

section
variable {first session : Session} {given : List UInt8} {lines : List (List UInt8)}

private theorem run_feed (run : Run first given lines session) (opened : session.inputOpen = true)
    (input : SessionInput) :
    (session.feed input).inputOpen = true ∧
      ∃ read, Run first (given ++ input.typed) read (session.feed input) := by
  obtain ⟨kept, read, settled⟩ := goes_settle session
  have onwards : Run first given (lines ++ read) session.settle := by
    simpa using run.trans settled
  cases input with
  | octets octets =>
    exact ⟨kept.trans opened, _, onwards.step (.type octets (kept.trans opened))⟩
  | wait time =>
    obtain ⟨stays, more, waited⟩ := goes_runTo session.settle.workload
      (session.settle.line.now + time) session.settle
    have reached : Run first (given ++ []) (lines ++ read ++ more) (session.feed (.wait time)) :=
      onwards.trans waited
    exact ⟨(stays.trans kept).trans opened, _, reached⟩

private theorem run_fed (run : Run first given lines session) (opened : session.inputOpen = true)
    (inputs : List SessionInput) :
    ∃ read, Run first (given ++ inputs.flatMap (·.typed)) read (inputs.foldl feed session) := by
  induction inputs generalizing session given lines with
  | nil => exact ⟨lines, by simpa using run⟩
  | cons input rest ih =>
    obtain ⟨stays, more, onwards⟩ := run_feed run opened input
    obtain ⟨read, fed⟩ := ih onwards stays
    exact ⟨read, by simpa using fed⟩

private theorem run_finish (run : Run first given lines session) :
    ∃ read, Run first given read session.finish := by
  obtain ⟨_, more, settled⟩ := goes_settle session
  obtain ⟨_, last, finished⟩ := ((goes_settle { session.settle with inputOpen := false }).trans
    (goes_runOut _ _)).trans (goes_shutdown _)
  have ended : Run first (given ++ [] ++ []) (lines ++ more ++ [])
      { session.settle with inputOpen := false } := (run.trans settled).step .endInput
  have reached : Run first (given ++ [] ++ [] ++ []) (lines ++ more ++ [] ++ last) session.finish :=
    ended.trans finished
  exact ⟨_, by simpa using reached⟩

end

/-- What a session does with its inputs by itself is a run on the octets that come. -/
theorem run_complete {session : Session} (opened : session.inputOpen = true)
    (inputs : List SessionInput) :
    ∃ lines, Run session (inputs.flatMap (·.typed)) lines (session.complete inputs) := by
  obtain ⟨_, fed⟩ := run_fed .start opened inputs
  exact run_finish fed

end Session

end LiveCompile
