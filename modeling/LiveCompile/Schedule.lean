/-! The schedule of a pipeline: nothing is due, a compile is due when the quiet period
ends, or a compile runs. A change during a compile only notes that another one is owed, so
any number of them leads to one compile more. -/

namespace LiveCompile

inductive Phase where
  | idle
  | debouncing
  | compiling
  deriving DecidableEq, Repr, Inhabited

def Phase.text : Phase → String
  | idle => "idle"
  | debouncing => "debouncing"
  | compiling => "compiling"

/-- What a trigger asks for: start the quiet period anew, or wait for the running compile. -/
inductive Trigger where
  | debounce
  | deferred
  deriving DecidableEq, Repr

def Trigger.text : Trigger → String
  | debounce => "debounce"
  | deferred => "deferred"

structure Schedule where
  phase : Phase := .idle
  pending : Bool := false
  deriving DecidableEq, Repr, Inhabited

namespace Schedule

/-- Notes a change. -/
def trigger (schedule : Schedule) : Trigger × Schedule :=
  match schedule.phase with
  | .compiling => (.deferred, { schedule with pending := true })
  | _ => (.debounce, { schedule with phase := .debouncing })

/-- Starts a compile, unless one runs. -/
def begin (schedule : Schedule) : Bool × Schedule :=
  match schedule.phase with
  | .compiling => (false, schedule)
  | _ => (true, { schedule with phase := .compiling })

/-- Gives up a compile that had nothing to compile. -/
def skip (schedule : Schedule) : Schedule :=
  match schedule.phase with
  | .debouncing => { schedule with phase := .idle }
  | _ => schedule

/-- Ends a compile; true if another one is owed, which is then due. -/
def finish (schedule : Schedule) : Bool × Schedule :=
  match schedule.phase, schedule.pending with
  | .compiling, true => (true, ⟨.debouncing, false⟩)
  | .compiling, false => (false, ⟨.idle, false⟩)
  | _, _ => (false, schedule)

/-- Drops what has not started. A running compile goes on but owes nothing. -/
def cancel (schedule : Schedule) : Schedule :=
  match schedule.phase with
  | .debouncing => ⟨.idle, false⟩
  | phase => ⟨phase, false⟩

section
variable {schedule : Schedule}

theorem trigger_free (free : schedule.phase ≠ .compiling) (settled : schedule.pending = false) :
    schedule.trigger = (.debounce, ⟨.debouncing, false⟩) := by
  obtain ⟨phase, pending⟩ := schedule
  cases phase with
  | idle | debouncing => simp_all [trigger]
  | compiling => exact absurd rfl free

theorem begin_free (free : schedule.phase ≠ .compiling) (settled : schedule.pending = false) :
    schedule.begin = (true, ⟨.compiling, false⟩) := by
  obtain ⟨phase, pending⟩ := schedule
  cases phase with
  | idle | debouncing => simp_all [begin]
  | compiling => exact absurd rfl free

theorem begin_iff : schedule.begin.1 = true ↔ schedule.phase ≠ .compiling := by
  unfold begin
  split <;> simp_all

theorem skip_free (free : schedule.phase ≠ .compiling) (settled : schedule.pending = false) :
    schedule.skip = ⟨.idle, false⟩ := by
  obtain ⟨phase, pending⟩ := schedule
  cases phase with
  | idle | debouncing => simp_all [skip]
  | compiling => exact absurd rfl free

theorem finish_compiling (compiling : schedule.phase = .compiling) :
    schedule.finish =
      (schedule.pending, ⟨if schedule.pending then .debouncing else .idle, false⟩) := by
  obtain ⟨phase, pending⟩ := schedule
  cases compiling
  cases pending <;> rfl

@[simp] theorem cancel_pending : schedule.cancel.pending = false := by
  unfold cancel
  split <;> rfl

@[simp] theorem cancel_compiling :
    schedule.cancel.phase = .compiling ↔ schedule.phase = .compiling := by
  unfold cancel
  split <;> simp_all

@[simp] theorem cancel_debouncing : schedule.cancel.phase ≠ .debouncing := by
  unfold cancel
  split <;> simp_all

end

end Schedule

end LiveCompile
