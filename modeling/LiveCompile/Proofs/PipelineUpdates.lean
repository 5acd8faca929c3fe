import LiveCompile.Buffer.Map
import LiveCompile.Proofs.PipelineCoherence

/-! Changes of the buffers are not lost on the way to the compiler. A writer changes the
buffers and passes the change on later; the actor takes its commands in order, and its
other wakes come in any order in which they are awaited. As long as the buffers have not
been read since a change, something is left that leads to another read. -/

namespace LiveCompile.Pipeline

/-- What happens to the buffers: a change by the editor, a replacement that no one is told
about, a read for a compile, and the call of the compiler. -/
inductive Happening where
  | changed
  | replaced
  | read (files : List (Path × String))
  | called (request : CompileRequest)

namespace Happening

def ofOperation (map : BufferMap) (operation : BufferMap.Operation) : List Happening :=
  if operation.replaces then [.replaced]
  else if (map.apply operation).map.getAll = map.getAll then []
  else [.changed]

def ofEffect? : Effect → Option Happening
  | .read files => some (.read files)
  | .call _ request => some (.called request)
  | _ => none

def request? : Happening → Option CompileRequest
  | .called request => some request
  | _ => none

end Happening

def happenings (effects : List Effect) : List Happening := effects.filterMap Happening.ofEffect?

@[simp] theorem happenings_nil : happenings [] = [] := rfl

@[simp] theorem happenings_cons (effect : Effect) (rest : List Effect) :
    happenings (effect :: rest) = (Happening.ofEffect? effect).toList ++ happenings rest := by
  cases effect <;> rfl

@[simp] theorem happenings_append (before after : List Effect) :
    happenings (before ++ after) = happenings before ++ happenings after := List.filterMap_append

@[simp] theorem happenings_told {callers : List Nat} {outcome : Outcome} :
    happenings (callers.map (.answer · outcome)) = [] := by
  simp [happenings, Happening.ofEffect?]

private theorem happenings_reports {effects : List Effect}
    (reports : ∀ effect ∈ effects, effect.isReport = true) : happenings effects = [] := by
  rw [happenings, List.filterMap_eq_nil_iff]
  intro effect member
  have report := reports effect member
  cases effect <;> first | rfl | cases report

/-- The request of the compile that started last. -/
def latest? (history : List Happening) : Option CompileRequest :=
  (history.filterMap Happening.request?).getLast?

/-- Every change is followed by a read. -/
def Covered (history : List Happening) : Prop :=
  ∀ front back, history = front ++ .changed :: back → ∃ files, .read files ∈ back

/-- What was read since the last change is what there is, and if there is anything the
compile that started last has it. -/
def Current (history : List Happening) (files : List (Path × String)) : Prop :=
  ∀ front seen back, history = front ++ .read seen :: back →
    .changed ∉ back → .replaced ∉ back →
    seen = files ∧ (files = [] ∨ ∃ request, latest? history = some request ∧ request.files = files)

/-- A try of a compile reads the buffers and calls the compiler if there are any. -/
inductive Scan (files : List (Path × String)) : List Happening → Prop where
  | skipped (empty : files = []) : Scan files [.read files]
  | called {request : CompileRequest} (same : request.files = files) :
      Scan files [.read files, .called request]

section
variable {history recent : List Happening} {files : List (Path × String)}

private theorem split_append {α : Type} {first rest front back : List α} {item : α}
    (split : first ++ rest = front ++ item :: back) :
    (∃ inner, first = front ++ item :: inner ∧ back = inner ++ rest) ∨
      ∃ inner, rest = inner ++ item :: back := by
  rcases List.append_eq_append_iff.mp split with ⟨inner, _, rest⟩ | ⟨inner, first, rest⟩
  · exact .inr ⟨inner, rest⟩
  · cases inner with
    | nil => exact .inr ⟨[], rest.symm⟩
    | cons head inner =>
      obtain ⟨rfl, rfl⟩ := List.cons.inj rest
      exact .inl ⟨inner, first, rfl⟩

theorem Scan.unchanged (scan : Scan files recent) : .changed ∉ recent := by
  cases scan <;> simp

theorem Covered.append (covered : Covered history) (unchanged : .changed ∉ recent) :
    Covered (history ++ recent) := by
  intro front back split
  rcases split_append split with ⟨inner, before, rfl⟩ | ⟨inner, rfl⟩
  · obtain ⟨files, member⟩ := covered front inner before
    exact ⟨files, List.mem_append_left recent member⟩
  · simp at unchanged

theorem Scan.covers (scan : Scan files recent) : Covered (history ++ recent) := by
  intro front back split
  rcases split_append split with ⟨inner, _, rfl⟩ | ⟨inner, rfl⟩
  · refine ⟨files, List.mem_append_right inner ?_⟩
    cases scan <;> exact List.mem_cons_self
  · exact absurd scan.unchanged (by simp)

private theorem current_disturbed {happening : Happening}
    (disturbs : happening = .changed ∨ happening = .replaced) :
    Current (history ++ [happening]) files := by
  intro front seen back split unchanged unreplaced
  rcases split_append split with ⟨inner, _, rfl⟩ | ⟨inner, last⟩
  · rcases disturbs with rfl | rfl
    · exact absurd (by simp) unchanged
    · exact absurd (by simp) unreplaced
  · rcases disturbs with rfl | rfl <;> cases inner <;> simp at last

theorem Scan.read_eq (scan : Scan files recent) {seen : List (Path × String)}
    (member : .read seen ∈ recent) : seen = files := by
  cases scan <;> simpa using member

private theorem latest_called {request : CompileRequest} :
    latest? (history ++ [.read files, .called request]) = some request := by
  have called : (history ++ [Happening.read files, .called request]).filterMap Happening.request? =
      history.filterMap Happening.request? ++ [request] := List.filterMap_append
  rw [latest?, called, List.getLast?_concat]

theorem Scan.current (scan : Scan files recent) (current : Current history files) :
    Current (history ++ recent) files := by
  intro front seen back split unchanged unreplaced
  have same : seen = files := by
    rcases split_append split with ⟨inner, before, rfl⟩ | ⟨inner, rfl⟩
    · rw [List.mem_append, not_or] at unchanged unreplaced
      exact (current front seen inner before unchanged.1 unreplaced.1).1
    · exact scan.read_eq (by simp)
  refine ⟨same, ?_⟩
  cases scan with
  | skipped empty => exact .inl empty
  | called same => exact .inr ⟨_, latest_called, same⟩

end

namespace Actor

/-- A compile is due or noted, so the buffers will be read again. -/
def Owes (actor : Actor) : Prop :=
  actor.schedule.phase = .debouncing ∨ actor.schedule.pending = true

section
variable {now : Nat} {files : List (Path × String)} {wake : Wake}
variable {actor next : Actor} {effects : List Effect}

theorem Attempt.scan {callers : List Nat}
    (tried : Attempt now files callers actor next effects) : Scan files (happenings effects) := by
  cases tried with
  | skip empty => simpa [Happening.ofEffect?] using Scan.skipped empty
  | start => exact .called rfl

@[simp] theorem happenings_farewell (verdict : Verdict) :
    happenings (actor.farewell verdict) = [] := by simp [farewell, Happening.ofEffect?]

/-- Without a read, what leads to another one is still there after a turn, and a change that
is told of leads to one. -/
theorem Move.owes (move : Move now files actor wake next effects) (coherent : actor.Coherent)
    (unhalted : ∀ inboxOpen, ¬ actor.halts wake inboxOpen) (going : actor.stopped = false) :
    Scan files (happenings effects) ∨ happenings effects = [] ∧
      (actor.Owes ∨ (∃ path, wake = .command (.bufferChanged path)) → next.Owes) := by
  cases move with
  | pass ignored _ _ reports =>
    refine .inr ⟨happenings_reports reports, ?_⟩
    rintro (owes | ⟨path, rfl⟩)
    · exact owes
    · simp [ignores, going] at ignored
  | arm => exact .inr ⟨rfl, fun _ => .inl rfl⟩
  | defer | queue => exact .inr ⟨rfl, fun _ => .inr rfl⟩
  | halt halted | rest halted => exact absurd halted (unhalted _)
  | attempt _ _ tried => exact .inl tried.scan
  | settle flying unqueued =>
    refine .inr ⟨happenings_farewell _, ?_⟩
    have compiling := coherent.flying.mp (by simp [flying])
    rintro ((debouncing | pending) | ⟨path, told⟩)
    · simp [compiling] at debouncing
    · simp [Owes, pending]
    · cases told
  | serve _ _ tried => exact .inl (by simpa using tried.scan)

theorem Move.going (move : Move now files actor wake next effects)
    (unhalted : ∀ inboxOpen, ¬ actor.halts wake inboxOpen) (going : actor.stopped = false) :
    next.stopped = false := by
  cases move with
  | pass | arm | defer | queue | settle => exact going
  | halt halted | rest halted => exact absurd halted (unhalted _)
  | attempt _ _ tried | serve _ _ tried => cases tried <;> exact going

end

end Actor

def Wake.taken : Wake → List Command
  | .command taken => [taken]
  | _ => []

/-- A pipeline with the writers around it: the buffers, the changes that are stored but not
passed on yet, and the commands that the actor has not taken yet. -/
structure System where
  map : BufferMap
  actor : Actor
  unsent : List Path := []
  inbox : List Command := []

namespace System

def start (map : BufferMap) (config : PipelineConfig) (cache : Cache) : System :=
  { map, actor := .start config cache }

/-- The buffers after an operation of a writer, which has to pass a change on. -/
def operate (system : System) (operation : BufferMap.Operation) : System :=
  let effect := system.map.apply operation
  { system with map := effect.map, unsent := system.unsent ++ effect.notified.toList }

/-- A step of a pipeline that is not asked to stop, and what happens in it to the buffers. -/
inductive Step (system : System) : List Happening → System → Prop where
  | operate (operation : BufferMap.Operation) :
      Step system (Happening.ofOperation system.map operation) (system.operate operation)
  /-- a writer passes a change on -/
  | pass {front path back} (stored : system.unsent = front ++ path :: back) :
      Step system []
        { system with unsent := front ++ back, inbox := system.inbox ++ [.bufferChanged path] }
  | send {command} (going : command ≠ .stop) :
      Step system [] { system with inbox := system.inbox ++ [command] }
  /-- the actor handles a wake with the buffers as they are -/
  | act (now : Nat) (wake : Wake) {rest} (awaited : system.actor.awaits wake = true)
      (going : wake ≠ .closed) (taken : system.inbox = wake.taken ++ rest) :
      Step system (happenings (system.actor.output ⟨now, system.map.getAll, wake⟩))
        { system with
          inbox := rest
          actor := system.actor.next ⟨now, system.map.getAll, wake⟩ }

inductive Run (first : System) : List Happening → System → Prop where
  | start : Run first [] first
  | step {history recent : List Happening} {system next : System} (run : Run first history system)
      (step : Step system recent next) : Run first (history ++ recent) next

/-- Something is left that leads to a read of the buffers. -/
def Owes (system : System) : Prop :=
  system.unsent ≠ [] ∨ (∃ path, .bufferChanged path ∈ system.inbox) ∨ system.actor.Owes

/-- What holds while a pipeline runs: as long as a change is not followed by a read, another
read is owed. -/
structure Sound (history : List Happening) (system : System) : Prop where
  coherent : system.actor.Coherent
  going : system.actor.stopped = false
  unstopped : .stop ∉ system.inbox
  covered : Covered history ∨ system.Owes
  current : Current history system.map.getAll

theorem Sound.start (map : BufferMap) (config : PipelineConfig) (cache : Cache) :
    Sound [] (start map config cache) := by
  refine ⟨.start config cache, rfl, by simp [System.start], .inl ?_, ?_⟩
  · intro front back split
    simp at split
  · intro front seen back split
    simp at split

section
variable {history recent : List Happening} {system next : System}

theorem Sound.operate (sound : Sound history system) (operation : BufferMap.Operation) :
    Sound (history ++ Happening.ofOperation system.map operation) (system.operate operation) := by
  have owes : system.Owes → (system.operate operation).Owes :=
    Or.imp_left fun unsent empty => unsent (List.append_eq_nil_iff.mp empty).1
  refine ⟨sound.coherent, sound.going, sound.unstopped, ?_, ?_⟩ <;>
    simp only [Happening.ofOperation] <;> split
  · exact sound.covered.imp (·.append (by simp)) owes
  case isFalse kept =>
    split
    · exact sound.covered.imp (·.append (by simp)) owes
    case isFalse different =>
      have notified : (system.map.apply operation).notified ≠ none := fun unnotified =>
        different (BufferMap.getAll_unnotified unnotified (by simpa using kept))
      exact .inr (.inl (by simp [System.operate, notified]))
  · exact current_disturbed (.inr rfl)
  · split
    case isTrue same => simpa [System.operate, same] using sound.current
    · exact current_disturbed (.inl rfl)

/-- A turn of the actor reads the buffers or keeps what leads to a read. -/
theorem Sound.act (sound : Sound history system) {now : Nat} {wake : Wake}
    {rest : List Command} (awaited : system.actor.awaits wake = true) (going : wake ≠ .closed)
    (taken : system.inbox = wake.taken ++ rest) :
    Sound (history ++ happenings (system.actor.output ⟨now, system.map.getAll, wake⟩))
      { system with
        inbox := rest
        actor := system.actor.next ⟨now, system.map.getAll, wake⟩ } := by
  have unhalted : ∀ inboxOpen, ¬ system.actor.halts wake inboxOpen := by
    intro inboxOpen halted
    cases wake with
    | command command =>
      cases command with
      | stop => exact sound.unstopped (by simp [taken, Wake.taken])
      | _ => cases halted
    | closed => exact going rfl
    | _ => cases halted
  have move : Actor.Move now system.map.getAll system.actor wake
      (system.actor.next ⟨now, system.map.getAll, wake⟩)
      (system.actor.output ⟨now, system.map.getAll, wake⟩) := sound.coherent.move awaited
  have unstopped : .stop ∉ rest := fun member =>
    sound.unstopped (taken ▸ List.mem_append_right _ member)
  have coherent := move.coherent sound.coherent
  have goes := move.going unhalted sound.going
  rcases move.owes sound.coherent unhalted sound.going with scan | ⟨quiet, onward⟩
  · exact ⟨coherent, goes, unstopped, .inl scan.covers, scan.current sound.current⟩
  · rw [quiet, List.append_nil]
    refine ⟨coherent, goes, unstopped, sound.covered.imp_right ?_, sound.current⟩
    rintro (unsent | ⟨path, member⟩ | owes)
    · exact .inl unsent
    · rw [taken, List.mem_append] at member
      rcases member with now | later
      · refine .inr (.inr (onward (.inr ⟨path, ?_⟩)))
        cases wake <;> simp_all [Wake.taken]
      · exact .inr (.inl ⟨path, later⟩)
    · exact .inr (.inr (onward (.inl owes)))

theorem Sound.step (sound : Sound history system) (step : Step system recent next) :
    Sound (history ++ recent) next := by
  cases step with
  | operate operation => exact sound.operate operation
  | @pass front path back stored =>
    rw [List.append_nil]
    refine ⟨sound.coherent, sound.going, by simpa using sound.unstopped, .inr (.inr (.inl ?_)),
      sound.current⟩
    exact ⟨path, by simp⟩
  | send going =>
    rw [List.append_nil]
    refine ⟨sound.coherent, sound.going, ?_, ?_, sound.current⟩
    · simpa [going.symm] using sound.unstopped
    · refine sound.covered.imp_right (Or.imp_right (Or.imp_left ?_))
      rintro ⟨path, member⟩
      exact ⟨path, List.mem_append_left _ member⟩
  | act now wake awaited going taken => exact sound.act awaited going taken

theorem Run.sound {map : BufferMap} {config : PipelineConfig} {cache : Cache}
    (run : Run (System.start map config cache) history system) : Sound history system := by
  induction run with
  | start => exact .start map config cache
  | step _ step ih => exact ih.step step

end

/-- No change is lost. When the schedule is idle, the inbox is empty and every change is
passed on, the buffers were read for a compile after each change. If they were not replaced
since such a read, there are none, or the compile that started last has them as they are. -/
theorem no_lost_update (map : BufferMap) (config : PipelineConfig) (cache : Cache)
    (history : List Happening) (system : System) (run : Run (start map config cache) history system)
    (idle : system.actor.schedule.phase = .idle) (drained : system.inbox = [])
    (sent : system.unsent = []) :
    (∀ front back, history = front ++ .changed :: back → ∃ files, .read files ∈ back) ∧
      ∀ front files back, history = front ++ .read files :: back →
        .changed ∉ back → .replaced ∉ back →
        system.map.getAll = [] ∨
          ∃ request, latest? history = some request ∧ request.files = system.map.getAll := by
  have sound := run.sound
  have settled : ¬ system.Owes := by
    rintro (unsent | ⟨path, member⟩ | debouncing | pending)
    · exact unsent sent
    · simp [drained] at member
    · simp [idle] at debouncing
    · simp [sound.coherent.pending pending] at idle
  refine ⟨sound.covered.resolve_right settled, ?_⟩
  intro front files back split unchanged unreplaced
  exact (sound.current front files back split unchanged unreplaced).2

/-- A change that is passed on, waits for the quiet period and is compiled. -/
theorem no_lost_update_set :
    let files : List (Path × String) := [(⟨[97]⟩, "x")]
    ∃ history system, Run (start .empty {} .empty) history system ∧
      system.actor.schedule.phase = .idle ∧ system.inbox = [] ∧ system.unsent = [] ∧
      history = [.changed, .read files, .called ⟨files, none⟩] ∧
      (system.map.getAll = [] ∨
        ∃ request, latest? history = some request ∧ request.files = system.map.getAll) := by
  intro files
  have stored : Run (start .empty {} .empty) _ _ := .step .start (.operate (.set ⟨[97]⟩ "x"))
  have passed : Run (start .empty {} .empty) _ _ := .step stored (.pass (List.nil_append _).symm)
  have armed : Run (start .empty {} .empty) _ _ :=
    .step passed (.act 0 (.command (.bufferChanged ⟨[97]⟩)) rfl nofun rfl)
  have started : Run (start .empty {} .empty) _ _ :=
    .step armed (.act 100 .deadline rfl nofun rfl)
  have ended : Run (start .empty {} .empty) _ _ :=
    .step started (.act 200 (.finished (.error .encode)) rfl nofun rfl)
  refine ⟨_, _, ended, rfl, rfl, rfl, rfl, ?_⟩
  exact (no_lost_update .empty {} .empty _ _ ended rfl rfl rfl).2 [.changed] files
    [.called ⟨files, none⟩] rfl (by simp) (by simp)

end System

end LiveCompile.Pipeline
