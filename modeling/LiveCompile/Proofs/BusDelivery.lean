import LiveCompile.Proofs.BusRun
import LiveCompile.Proofs.ChannelReceivers

/-! What a receiver gets of the events that are emitted after it subscribed. Each of them is
received or counted as missed, in order, until the rest is pending; how much of the rest is still
there to be received depends on the room of the bus only. -/

namespace LiveCompile

namespace Receiver

def id : Receiver → Nat
  | .all id | .editor id => id

/-- Whether events of this kind are for the receiver. -/
def carries : Receiver → Event → Bool
  | .all _, _ => true
  | .editor _, event => event.isEditor

end Receiver

/-- Receptions account for events up to a rest: every event is received or one of those that are
missed, in order. -/
inductive Accounts {α : Type} : List (Reception α) → List α → List α → Prop
  | start {rest} : Accounts [] rest rest
  | event {event later events rest} (accounts : Accounts later events rest) :
      Accounts (.event event :: later) (event :: events) rest
  | lagged {missed later events rest} (accounts : Accounts later events rest) :
      Accounts (.lagged missed.length :: later) (missed ++ events) rest
  | empty {later events rest} (accounts : Accounts later events rest) :
      Accounts (.empty :: later) events rest
  | closed {later events rest} (accounts : Accounts later events rest) :
      Accounts (.closed :: later) events rest

namespace Channel

section
variable {α : Type} {channel : Channel α} {receiver room : Nat} {pending : List α}

/-- What a receiver gets next is a matter of what it has pending, of the room and of whether
somebody may still send. -/
def due (room : Nat) (pending : List α) (alive : Bool) : Reception α :=
  if room < pending.length then .lagged (pending.length - room)
  else
    match pending with
    | [] => if alive then .empty else .closed
    | event :: _ => .event event

def left (room : Nat) (pending : List α) : List α :=
  if room < pending.length then pending.drop (pending.length - room) else pending.tail

theorem Pends.receive (pends : channel.Pends receiver room pending) (alive : Bool) :
    (channel.receive receiver alive).1 = due room pending alive ∧
      (channel.receive receiver alive).2.Pends receiver room (left room pending) := by
  by_cases far : room < pending.length
  · simpa [due, left, far] using pends.receive_behind far
  · cases pending with
    | nil =>
      rw [pends.receive_idle]
      simpa [due, left] using pends
    | cons event rest =>
      have near : rest.length < room := Nat.le_of_not_lt far
      simpa only [due, left, if_neg far, List.tail_cons] using pends.receive_next near

private theorem accounts_due {alive : Bool} {later : List (Reception α)} {events rest : List α}
    (accounts : Accounts later (left room pending ++ events) rest) :
    Accounts (due room pending alive :: later) (pending ++ events) rest := by
  unfold due
  unfold left at accounts
  split
  case isTrue far =>
    rw [if_pos far] at accounts
    generalize missed : pending.length - room = count at accounts ⊢
    have split : pending ++ events = pending.take count ++ (pending.drop count ++ events) := by
      rw [← List.append_assoc, List.take_append_drop]
    have all : (pending.take count).length = count := by
      rw [List.length_take]
      omega
    have lagged : Accounts (.lagged (pending.take count).length :: later)
        (pending.take count ++ (pending.drop count ++ events)) rest := .lagged accounts
    rwa [all, ← split] at lagged
  case isFalse near =>
    rw [if_neg near] at accounts
    cases pending with
    | nil =>
      cases alive with
      | true => exact .empty accounts
      | false => exact .closed accounts
    | cons event rest => exact .event accounts

section
variable {alive : Bool} {event : α}

theorem due_lagged {missed : Nat} :
    due room pending alive = .lagged missed ↔
      room < pending.length ∧ pending.length = missed + room := by
  unfold due
  split
  case isTrue far =>
    rw [Reception.lagged.injEq]
    omega
  case isFalse near =>
    have far : ¬(room < pending.length ∧ pending.length = missed + room) := fun both => near both.1
    cases pending with
    | nil => cases alive <;> simp
    | cons => simpa using far

theorem due_empty : due room pending alive = .empty ↔ pending = [] ∧ alive = true := by
  cases pending with
  | nil => cases alive <;> simp [due]
  | cons event rest => simp [due, apply_ite (· = Reception.empty)]

theorem due_closed : due room pending alive = .closed ↔ pending = [] ∧ alive = false := by
  cases pending with
  | nil => cases alive <;> simp [due]
  | cons event rest => simp [due, apply_ite (· = Reception.closed)]

theorem due_event :
    due room pending alive = .event event ↔ pending.length ≤ room ∧ pending.head? = some event := by
  unfold due
  split
  case isTrue far => simp [Nat.not_le_of_lt far]
  case isFalse near =>
    cases pending with
    | nil => cases alive <;> simp
    | cons first rest => simpa using fun _ => Nat.le_of_not_lt near

end

end

end Channel

namespace EventBus

def channel (bus : EventBus) : Receiver → Channel Event
  | .all _ => bus.all
  | .editor _ => bus.editor

namespace Operation

def event? : Operation → Option Event
  | .emit event | .publish event => some event
  | _ => none

/-- The events that are emitted for a receiver. -/
def carried (receiver : Receiver) (operation : Operation) : List Event :=
  (operation.event?.filter receiver.carries).toList

private theorem carried_quiet {receiver : Receiver} {operation : Operation}
    (quiet : operation.event? = none) : operation.carried receiver = [] := by
  rw [carried, quiet]
  rfl

end Operation

def opened? (bus : EventBus) : Operation → Option Receiver
  | .subscribe => some bus.subscribe.1
  | .subscribeEditor => some bus.subscribeEditor.1
  | _ => none

/-- The events that are emitted for a receiver in a run, in order. -/
def carried (receiver : Receiver) (operations : List Operation) : List Event :=
  operations.flatMap (·.carried receiver)

/-- What a receiver gets in a run, in order. -/
def received (bus : EventBus) (receiver : Receiver) (operations : List Operation) :
    List (Reception Event) :=
  ((bus.receptions operations).filter (·.1 = receiver)).map (·.2)

section
variable {bus other : EventBus} {receiver : Receiver} {operation : Operation}
variable {operations : List Operation} {room : Nat} {pending : List Event}

private theorem received_own :
    bus.received receiver (.receive receiver :: operations) =
      (bus.receive receiver).1 :: (bus.receive receiver).2.received receiver operations := by
  simp [received, receptions, reception?, perform]

private theorem received_other (apart : operation ≠ .receive receiver) :
    bus.received receiver (operation :: operations) =
      (bus.perform operation).received receiver operations := by
  cases operation with
  | receive other =>
    have different : other ≠ receiver := fun same => apart (same ▸ rfl)
    simp [received, receptions, reception?, different]
  | _ => rfl

theorem channel_emit (bus : EventBus) (receiver : Receiver) (event : Event) :
    (bus.emit event).2.channel receiver =
      if receiver.carries event then ((bus.channel receiver).send event).2
      else bus.channel receiver := by
  cases receiver <;> cases edits : event.isEditor <;>
    simp [channel, emit, Receiver.carries, edits]

private theorem receive_eq (bus : EventBus) (receiver : Receiver) :
    (bus.receive receiver).1 =
        ((bus.channel receiver).receive receiver.id bus.alive).1 ∧
      (bus.receive receiver).2.channel receiver =
        ((bus.channel receiver).receive receiver.id bus.alive).2 := by
  cases receiver <;> exact ⟨rfl, rfl⟩

/-- A bus keeps for a receiver what it has pending. -/
abbrev Pends (bus : EventBus) (receiver : Receiver) (room : Nat) (pending : List Event) : Prop :=
  (bus.channel receiver).Pends receiver.id room pending

theorem Pends.emit (pends : bus.Pends receiver room pending) (event : Event) :
    (bus.emit event).2.Pends receiver room
      (pending ++ ((some event).filter receiver.carries).toList) := by
  rw [Pends, channel_emit]
  cases carries : receiver.carries event with
  | true => simpa [Option.filter, carries] using Channel.Pends.send pends event
  | false => simpa [Option.filter, carries] using pends

/-- What is not done by the receiver itself adds to what is pending the event that is emitted for
it. -/
theorem Pends.perform (pends : bus.Pends receiver room pending)
    (kept : operation ≠ .dropReceiver receiver) (apart : operation ≠ .receive receiver) :
    (bus.perform operation).Pends receiver room (pending ++ operation.carried receiver) := by
  cases operation with
  | emit event | publish event => exact pends.emit event
  | subscribe | subscribeEditor =>
    rw [Operation.carried_quiet rfl, List.append_nil]
    cases receiver with
    | all id | editor id => first | exact pends | exact pends.subscribe_other
  | clone | dropHandle =>
    rw [Operation.carried_quiet rfl, List.append_nil]
    cases receiver <;> exact pends
  | dropReceiver other =>
    rw [Operation.carried_quiet rfl, List.append_nil]
    cases receiver with
    | all id | editor id =>
      cases other with
      | all number | editor number =>
        first
        | exact pends
        | exact pends.unsubscribe_other (by rintro rfl; exact kept rfl)
  | receive other =>
    rw [Operation.carried_quiet rfl, List.append_nil]
    cases receiver with
    | all id | editor id =>
      cases other with
      | all number | editor number =>
        first
        | exact pends
        | exact pends.receive_other (by rintro rfl; exact apart rfl) bus.alive

theorem Pends.receive (pends : bus.Pends receiver room pending) :
    (bus.receive receiver).1 = Channel.due room pending bus.alive ∧
      (bus.receive receiver).2.Pends receiver room (Channel.left room pending) := by
  obtain ⟨got, left⟩ := receive_eq bus receiver
  rw [got, Pends, left]
  exact Channel.Pends.receive pends bus.alive

/-- The receptions of a run account for what was pending and what is emitted meanwhile. -/
theorem Pends.accounts (pends : bus.Pends receiver room pending)
    (kept : .dropReceiver receiver ∉ operations) :
    ∃ rest, Accounts (bus.received receiver operations) (pending ++ carried receiver operations)
        rest ∧ (bus.after operations).Pends receiver room rest := by
  -- a reception of its own takes from the front of what is pending, all else adds at the end
  induction operations generalizing bus pending with
  | nil => exact ⟨pending, by simpa [carried, received, receptions] using Accounts.start, pends⟩
  | cons operation later ih =>
    rw [List.mem_cons, not_or] at kept
    by_cases own : operation = .receive receiver
    · subst own
      obtain ⟨got, onwards⟩ := pends.receive
      obtain ⟨rest, accounts, reached⟩ := ih onwards kept.2
      refine ⟨rest, ?_, reached⟩
      rw [received_own, got]
      exact Channel.accounts_due accounts
    · obtain ⟨rest, accounts, reached⟩ := ih (pends.perform (Ne.symm kept.1) own) kept.2
      refine ⟨rest, ?_, reached⟩
      rw [received_other own]
      simpa [carried] using accounts

theorem Pends.received_eq (pends : bus.Pends receiver room pending)
    (alike : other.Pends receiver room pending) (kept : .dropReceiver receiver ∉ operations)
    (alive : ∀ front, front <+: operations → (other.after front).alive = (bus.after front).alive) :
    other.received receiver operations = bus.received receiver operations := by
  induction operations generalizing bus other pending with
  | nil => rfl
  | cons operation later ih =>
    rw [List.mem_cons, not_or] at kept
    have now := alive [] (List.nil_prefix)
    have onwards : ∀ front, front <+: later →
        ((other.perform operation).after front).alive = ((bus.perform operation).after front).alive :=
      fun front shorter => alive (operation :: front) (List.cons_prefix_cons.mpr ⟨rfl, shorter⟩)
    by_cases own : operation = .receive receiver
    · subst own
      obtain ⟨got, rest⟩ := pends.receive
      obtain ⟨gotOther, restOther⟩ := alike.receive
      rw [received_own, received_own, got, gotOther, ih rest restOther kept.2 onwards,
        show other.alive = bus.alive from now]
    · rw [received_other own, received_other own]
      exact ih (pends.perform (Ne.symm kept.1) own) (alike.perform (Ne.symm kept.1) own) kept.2
        onwards

end

/-! The room of a bus -/

open private Nat.nextPowerOfTwo.go from Init.Data.Nat.Power2.Basic

private theorem roomy_go {capacity power exponent : Nat} (positive : 0 < power)
    (start : power = 2 ^ exponent) (short : ∀ less < exponent, 2 ^ less < capacity) :
    ∃ least, Nat.nextPowerOfTwo.go capacity power positive = 2 ^ least ∧ capacity ≤ 2 ^ least ∧
      ∀ less < least, 2 ^ less < capacity := by
  fun_induction Nat.nextPowerOfTwo.go capacity power positive generalizing exponent with
  | case1 power positive further ih =>
    have doubled : power * 2 = 2 ^ (exponent + 1) := by rw [start, Nat.pow_succ]
    refine ih doubled fun less below => ?_
    rcases Nat.lt_or_eq_of_le (Nat.le_of_lt_succ below) with shorter | rfl
    · exact short less shorter
    · rwa [← start]
  | case2 power positive enough => exact ⟨exponent, start, start ▸ Nat.le_of_not_lt enough, short⟩

theorem nextPowerOfTwo_least (capacity : Nat) :
    ∃ least, capacity.nextPowerOfTwo = 2 ^ least ∧ capacity ≤ 2 ^ least ∧
      ∀ other, capacity ≤ 2 ^ other → least ≤ other := by
  obtain ⟨least, reached, enough, short⟩ : ∃ least, capacity.nextPowerOfTwo = 2 ^ least ∧
      capacity ≤ 2 ^ least ∧ ∀ less < least, 2 ^ less < capacity :=
    roomy_go Nat.one_pos (Nat.pow_zero 2).symm nofun
  exact ⟨least, reached, enough, fun other fits =>
    Nat.le_of_not_lt fun less => Nat.not_lt_of_le fits (short other less)⟩

/-- Both channels of a bus came about by what can be done to channels of one room. -/
structure Equipped (bus : EventBus) (room : Nat) : Prop where
  made : ∀ receiver, (bus.channel receiver).Made
  room : ∀ receiver, (bus.channel receiver).room = room

section
variable {bus : EventBus} {room capacity : Nat} {operation : Operation} {receiver : Receiver}

theorem equipped_new (created : new? capacity = some bus) :
    bus.Equipped capacity.nextPowerOfTwo := by
  unfold new? at created
  split at created
  · cases created
  · cases created
    constructor <;> rintro (id | id)
    · exact .new capacity
    · exact .new capacity
    · rfl
    · rfl

private theorem channel_perform (bus : EventBus) (operation : Operation) (receiver : Receiver) :
    (bus.perform operation).channel receiver = bus.channel receiver ∨
    (bus.perform operation).channel receiver = (bus.channel receiver).subscribe.2 ∨
    (∃ event, (bus.perform operation).channel receiver = ((bus.channel receiver).send event).2) ∨
    (∃ id, (bus.perform operation).channel receiver = (bus.channel receiver).unsubscribe id) ∨
    (∃ id alive, (bus.perform operation).channel receiver =
      ((bus.channel receiver).receive id alive).2) := by
  cases operation with
  | emit event | publish event =>
    have sent := channel_emit bus receiver event
    split at sent
    · exact .inr (.inr (.inl ⟨event, sent⟩))
    · exact .inl sent
  | subscribe | subscribeEditor =>
    cases receiver <;> first | exact .inl rfl | exact .inr (.inl rfl)
  | clone | dropHandle => cases receiver <;> exact .inl rfl
  | dropReceiver other =>
    cases receiver <;> cases other <;>
      first | exact .inl rfl | exact .inr (.inr (.inr (.inl ⟨_, rfl⟩)))
  | receive other =>
    cases receiver <;> cases other <;>
      first | exact .inl rfl | exact .inr (.inr (.inr (.inr ⟨_, bus.alive, rfl⟩)))

theorem Equipped.perform (equipped : bus.Equipped room) (operation : Operation) :
    (bus.perform operation).Equipped room := by
  constructor <;> intro receiver
  all_goals
    have made := equipped.made receiver
    have sized := equipped.room receiver
    rcases bus.channel_perform operation receiver with
      same | came | ⟨event, sent⟩ | ⟨id, left⟩ | ⟨id, alive, received⟩
  · rwa [same]
  · exact came ▸ .subscribe made
  · exact sent ▸ .send made event
  · exact left ▸ .unsubscribe made id
  · exact received ▸ .receive made id alive
  · rwa [same]
  · rwa [came]
  · rwa [sent, Channel.room_send]
  · rwa [left]
  · rwa [received, Channel.room_receive]

theorem Equipped.after (equipped : bus.Equipped room) (operations : List Operation) :
    (bus.after operations).Equipped room := by
  induction operations generalizing bus with
  | nil => exact equipped
  | cons operation rest ih => exact ih (equipped.perform operation)

theorem Equipped.opened (equipped : bus.Equipped room)
    (opened : bus.opened? operation = some receiver) :
    (bus.perform operation).Pends receiver room [] := by
  cases operation with
  | subscribe =>
    cases opened
    rw [← equipped.room (.all 0)]
    exact .subscribe (equipped.made (.all 0))
  | subscribeEditor =>
    cases opened
    rw [← equipped.room (.editor 0)]
    exact .subscribe (equipped.made (.editor 0))
  | _ => cases opened

theorem Pends.beside {pending : List Event} (pends : bus.Pends receiver room pending)
    (beside : operation = .clone ∨ ∃ other, other ≠ receiver ∧ operation = .dropReceiver other) :
    (bus.perform operation).Pends receiver room pending := by
  have quiet : operation.event? = none := by
    rcases beside with rfl | ⟨other, _, rfl⟩ <;> rfl
  have none : operation.carried receiver = [] := Operation.carried_quiet quiet
  rw [← List.append_nil pending, ← none]
  rcases beside with rfl | ⟨other, apart, rfl⟩
  · exact pends.perform Operation.noConfusion Operation.noConfusion
  · exact pends.perform (fun same => apart (Operation.dropReceiver.inj same)) Operation.noConfusion

end

end EventBus

end LiveCompile
