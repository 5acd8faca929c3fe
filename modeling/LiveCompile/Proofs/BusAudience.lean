import LiveCompile.Proofs.SingleCompile

/-! Who an emission reaches. It reaches every receiver that is live and that the event is for, and
leaves the others as they are. Its answer speaks of the receivers of all events alone, so it counts
too few, or is an error, where somebody receives the editor's events only. -/

namespace LiveCompile

namespace Channel

variable {α : Type} {channel : Channel α}

def receivers (channel : Channel α) : List Nat := channel.cursors.map (·.1)

private theorem receivers_send (event : α) :
    (channel.send event).2.receivers = channel.receivers := by
  unfold send
  split <;> rfl

private theorem receivers_receive (receiver : Nat) (alive : Bool) :
    (channel.receive receiver alive).2.receivers = channel.receivers := by
  rcases channel.receive_moves receiver alive with same | ⟨position, moved⟩
  · rw [same]
  · rw [moved]
    simp [receivers, moveCursor]

private theorem receivers_subscribe :
    channel.subscribe.2.receivers = channel.receivers ++ [channel.subscribe.1] := by
  simp [receivers, subscribe]

private theorem receivers_unsubscribe (receiver : Nat) :
    (channel.unsubscribe receiver).receivers = channel.receivers.filter (· ≠ receiver) := by
  simp [receivers, unsubscribe, List.filter_map, Function.comp_def]

theorem Made.nodup_receivers (made : channel.Made) : channel.receivers.Nodup := by
  induction made with
  | new capacity => exact List.nodup_nil
  | @subscribe channel made nodup =>
    rw [receivers_subscribe, List.nodup_append]
    refine ⟨nodup, List.nodup_singleton _, fun old member last new => ?_⟩
    obtain ⟨cursor, inside, rfl⟩ := List.mem_map.mp member
    rw [List.mem_singleton.mp new]
    exact Nat.ne_of_lt (made.sound.fresh cursor inside)
  | unsubscribe _ receiver nodup =>
    rw [receivers_unsubscribe]
    exact nodup.filter _
  | send _ event nodup => rwa [receivers_send]
  | receive _ receiver alive nodup => rwa [receivers_receive]

private theorem send_answer (event : α) : (channel.send event).1 =
    if channel.receivers = [] then none else some channel.receivers.length := by
  unfold send receivers receiverCount
  cases channel.cursors <;> simp

end Channel

namespace EventBus

/-- A receiver is live after some operations if one of them gave it and it was not dropped since. -/
def Live (bus : EventBus) (operations : List Operation) (receiver : Receiver) : Prop :=
  ∃ before opening later, operations = before ++ opening :: later ∧
    (bus.after before).opened? opening = some receiver ∧ .dropReceiver receiver ∉ later

/-- What a receiver can get at once, but for the gap. -/
def available (bus : EventBus) (receiver : Receiver) : List Event :=
  (bus.drainAll receiver).1.filterMap Pipeline.received?

/-- What `emit` answers when it speaks of these receivers. -/
def answer : List Receiver → Option Nat
  | [] => none
  | receivers => some receivers.length

def receivers (bus : EventBus) : List Receiver :=
  bus.all.receivers.map .all ++ bus.editor.receivers.map .editor

section
variable {bus : EventBus} {operations : List Operation} {operation : Operation}
variable {receiver : Receiver} {room : Nat} {pending : List Event}

private theorem getD_answer (receivers : List Receiver) :
    (answer receivers).getD 0 = receivers.length := by
  cases receivers <;> rfl

/-! Who is live -/

theorem live_nil : ¬ Live bus [] receiver := by
  rintro ⟨before, opening, later, split, -⟩
  cases before <;> cases split

theorem live_concat : Live bus (operations ++ [operation]) receiver ↔
    (bus.after operations).opened? operation = some receiver ∨
      Live bus operations receiver ∧ operation ≠ .dropReceiver receiver := by
  constructor
  · rintro ⟨before, opening, later, split, opened, kept⟩
    rcases List.eq_nil_or_concat later with rfl | ⟨front, last, rfl⟩
    · obtain ⟨rfl, same⟩ := List.append_inj' split rfl
      cases same
      exact .inl opened
    · rw [List.concat_eq_append] at split kept
      rw [← List.cons_append, ← List.append_assoc] at split
      obtain ⟨rfl, same⟩ := List.append_inj' split rfl
      cases same
      rw [List.mem_append, not_or, List.mem_singleton] at kept
      exact .inr ⟨⟨before, opening, front, rfl, opened, kept.1⟩, Ne.symm kept.2⟩
  · rintro (opened | ⟨⟨before, opening, later, rfl, opened, kept⟩, other⟩)
    · exact ⟨operations, operation, [], rfl, opened, List.not_mem_nil⟩
    · refine ⟨before, opening, later ++ [operation], by simp, opened, ?_⟩
      rw [List.mem_append, not_or, List.mem_singleton]
      exact ⟨kept, Ne.symm other⟩

private theorem mem_receivers :
    receiver ∈ bus.receivers ↔ receiver.id ∈ (bus.channel receiver).receivers := by
  cases receiver <;> simp [receivers, channel, Receiver.id]

private theorem mem_receivers_perform : receiver ∈ (bus.perform operation).receivers ↔
    bus.opened? operation = some receiver ∨
      receiver ∈ bus.receivers ∧ operation ≠ .dropReceiver receiver := by
  rw [mem_receivers, mem_receivers]
  cases operation with
  | emit event | publish event =>
    have sent := channel_emit bus receiver event
    simp only [perform, publish, sent, opened?]
    split <;> simp [Channel.receivers_send]
  | clone | dropHandle =>
    cases receiver <;> simp [perform, clone, dropHandle, channel, opened?]
  | subscribe | subscribeEditor =>
    rw [or_comm]
    cases receiver <;>
      simp [perform, EventBus.subscribe, EventBus.subscribeEditor, channel, opened?, Receiver.id,
        Channel.receivers_subscribe, @eq_comm Nat]
  | dropReceiver other =>
    cases receiver <;> cases other <;>
      simp [perform, dropReceiver, channel, opened?, Receiver.id,
        Channel.receivers_unsubscribe, @eq_comm Nat]
  | receive other =>
    cases receiver <;> cases other <;>
      simp [perform, EventBus.receive, channel, opened?, Receiver.id, Channel.receivers_receive]

private theorem mem_receivers_after (none : bus.receivers = []) :
    receiver ∈ (bus.after operations).receivers ↔ Live bus operations receiver := by
  induction operations using List.reverseRecOn with
  | nil => simp [after, none, live_nil]
  | append_singleton operations operation ih =>
    rw [after_append, live_concat, ← ih]
    exact mem_receivers_perform

theorem Equipped.nodup_receivers (equipped : bus.Equipped room) : bus.receivers.Nodup := by
  have all : bus.all.receivers.Nodup := (equipped.made (.all 0)).nodup_receivers
  have editor : bus.editor.receivers.Nodup := (equipped.made (.editor 0)).nodup_receivers
  refine List.nodup_append.mpr ⟨all.map fun _ _ => Receiver.all.inj,
    editor.map fun _ _ => Receiver.editor.inj, fun one first other second => ?_⟩
  obtain ⟨id, -, rfl⟩ := List.mem_map.mp first
  obtain ⟨id, -, rfl⟩ := List.mem_map.mp second
  exact Receiver.noConfusion

/-! What the answer counts -/

private theorem filter_all (bus : EventBus) :
    bus.receivers.filter (!·.isEditor) = bus.all.receivers.map .all := by
  simp [receivers, List.filter_map, Function.comp_def, Receiver.isEditor]

private theorem emit_answer (bus : EventBus) (event : Event) :
    (bus.emit event).1 = answer (bus.receivers.filter (!·.isEditor)) := by
  have sent : (bus.emit event).1 = (bus.all.send event).1 := by
    cases edits : event.isEditor <;> simp [emit, edits]
  rw [sent, Channel.send_answer, filter_all]
  cases bus.all.receivers <;> simp [answer]

theorem answer_filter_iff {there : List Receiver} {few many : Receiver → Bool}
    (fewer : ∀ receiver, few receiver → many receiver) :
    answer (there.filter few) = answer (there.filter many) ↔
      ∀ receiver ∈ there, many receiver → few receiver := by
  have inside : there.filter few = (there.filter many).filter few := by
    rw [List.filter_filter]
    refine List.filter_congr fun receiver _ => ?_
    cases counted : few receiver with
    | false => rfl
    | true => rw [fewer receiver counted, Bool.and_self]
  constructor
  · intro same receiver member counted
    have length : (there.filter few).length = (there.filter many).length := by
      rw [← getD_answer, same, getD_answer]
    rw [inside, List.length_filter_eq_length_iff] at length
    exact length receiver (List.mem_filter.mpr ⟨member, counted⟩)
  · intro all
    rw [inside, List.filter_eq_self.mpr]
    intro receiver member
    obtain ⟨there, counted⟩ := List.mem_filter.mp member
    exact all receiver there counted

theorem counted_iff {there : List Receiver} {event : Event} :
    (∀ receiver ∈ there, receiver.carries event = true → (!receiver.isEditor) = true) ↔
      event.isEditor = false ∨ ∀ receiver ∈ there, receiver.isEditor = false := by
  cases edits : event.isEditor with
  | false =>
    refine iff_of_true (fun receiver _ carries => ?_) (.inl rfl)
    cases receiver with
    | all id => rfl
    | editor id => simp [Receiver.carries, edits] at carries
  | true =>
    have everyone (receiver : Receiver) : receiver.carries event = true := by
      cases receiver <;> simp [Receiver.carries, edits]
    simp [everyone]

private theorem carries_of_counted {event : Event} (counted : (!receiver.isEditor) = true) :
    receiver.carries event = true := by
  cases receiver with
  | all id => rfl
  | editor id => cases counted

/-! What the receivers can get -/

private theorem receivers_new {capacity : Nat} (created : new? capacity = some bus) :
    bus.receivers = [] := by
  unfold new? at created
  split at created <;> cases created
  rfl

theorem Pends.available (pends : bus.Pends receiver room pending) :
    bus.available receiver = pending.drop (pending.length - room) := by
  have sized : (bus.channel receiver).room = room := pends.room
  refine pends.drained ?_
  cases receiver <;> simp only [channel] at sized <;> omega

theorem Live.pends {capacity : Nat} (live : Live bus operations receiver)
    (created : new? capacity = some bus) :
    ∃ pending, (bus.after operations).Pends receiver capacity.nextPowerOfTwo pending := by
  obtain ⟨before, opening, later, rfl, opened, kept⟩ := live
  obtain ⟨pending, -, pends⟩ := (((equipped_new created).after before).opened opened).accounts kept
  rw [after_append]
  exact ⟨pending, pends⟩

theorem Pends.available_emit (pends : bus.Pends receiver room pending) (roomy : 0 < room)
    {event : Event} (carries : receiver.carries event = true) :
    ∃ kept, kept <:+ bus.available receiver ∧
      (bus.emit event).2.available receiver = kept ++ [event] := by
  have sent := (pends.emit event).available
  simp only [Option.filter, carries, if_true, Option.toList_some, List.length_append,
    List.length_singleton] at sent
  refine ⟨pending.drop (pending.length + 1 - room), ?_, ?_⟩
  · rw [pends.available]
    exact List.drop_suffix_drop_left _ (by omega)
  · rw [sent, List.drop_append_of_le_length (by omega)]

theorem Pends.available_emit_other (pends : bus.Pends receiver room pending) {event : Event}
    (apart : receiver.carries event = false) :
    (bus.emit event).2.available receiver = bus.available receiver := by
  have sent := pends.emit event
  simp only [Option.filter, apart, Bool.false_eq_true, if_false, Option.toList_none,
    List.append_nil] at sent
  rw [sent.available, pends.available]

end

/-- An emission after any run of a bus. The event becomes the last that the live receivers it is for
can get, and the others can get what they could. The answer is the number of the live receivers of
all events, and an error if there are none. That is the number of those the event became available
to, and an error just if there are none, if and only if the event is of the compiler or nobody
receives the editor's events only. -/
theorem emission_answered {capacity : Nat} {bus : EventBus} (created : new? capacity = some bus)
    (operations : List Operation) (event : Event) :
    let now := bus.after operations
    let next := (now.emit event).2
    ∃ there : List Receiver, there.Nodup ∧
      (∀ receiver, receiver ∈ there ↔ Live bus operations receiver) ∧
      (∀ receiver ∈ there, receiver.carries event = true →
        ∃ kept, kept <:+ now.available receiver ∧ next.available receiver = kept ++ [event]) ∧
      (∀ receiver ∈ there, receiver.carries event = false →
        next.available receiver = now.available receiver) ∧
      (now.emit event).1 = answer (there.filter (!·.isEditor)) ∧
      now.subscriberCount = (there.filter (!·.isEditor)).length ∧
      ((now.emit event).1 = answer (there.filter (·.carries event)) ↔
        event.isEditor = false ∨ ∀ receiver ∈ there, receiver.isEditor = false) := by
  intro now next
  have live (receiver : Receiver) : receiver ∈ now.receivers ↔ Live bus operations receiver :=
    mem_receivers_after (receivers_new created)
  have roomy : 0 < capacity.nextPowerOfTwo := by
    obtain ⟨exponent, reached, -⟩ := nextPowerOfTwo_least capacity
    rw [reached]
    exact Nat.two_pow_pos exponent
  refine ⟨now.receivers, ((equipped_new created).after operations).nodup_receivers, live, ?_, ?_,
    emit_answer now event, ?_, ?_⟩
  · intro receiver member carries
    obtain ⟨pending, pends⟩ := ((live receiver).mp member).pends created
    exact pends.available_emit roomy carries
  · intro receiver member apart
    obtain ⟨pending, pends⟩ := ((live receiver).mp member).pends created
    exact pends.available_emit_other apart
  · rw [filter_all, List.length_map]
    exact (List.length_map ..).symm
  · rw [emit_answer, answer_filter_iff fun _ => carries_of_counted]
    exact counted_iff

/-- Of two receivers of all events one was dropped. The answer counts the other and leaves out the
receiver of the editor's events. -/
theorem emission_answered_short :
    let shown : Event := .activeFileChanged ⟨[97]⟩
    let bus : EventBus := ⟨⟨4, 0, [], [], 0⟩, ⟨4, 0, [], [], 0⟩, 3, 1⟩
    let operations : List Operation :=
      [.subscribe, .subscribeEditor, .subscribe, .dropReceiver (.all 0)]
    new? 3 = some bus ∧ ((bus.after operations).emit shown).1 = some 1 ∧
      ∃ there : List Receiver, (∀ receiver, receiver ∈ there ↔ Live bus operations receiver) ∧
        answer (there.filter (·.carries shown)) ≠ some 1 := by
  intro shown bus operations
  have created : new? 3 = some bus := by
    have rounded : Nat.nextPowerOfTwo 3 = 4 := by cbv
    have fits : ¬(3 = 0 ∨ maxRoom < 3) := by decide
    rw [new?, if_neg fits, Channel.new, rounded]
  have answered : ((bus.after operations).emit shown).1 = some 1 := by cbv
  have listening : Live bus operations (.editor 0) :=
    ⟨[.subscribe], .subscribeEditor, [.subscribe, .dropReceiver (.all 0)], rfl, rfl, by simp⟩
  obtain ⟨there, -, live, -, -, -, -, right⟩ := emission_answered created operations shown
  refine ⟨created, answered, there, live, fun counted => ?_⟩
  rcases right.mp (answered.trans counted.symm) with compilers | none
  · cases compilers
  · cases none (.editor 0) ((live _).mpr listening)

/-- With nobody but a receiver of the editor's events the answer is an error, and that receiver can
get the event. -/
theorem emission_refused_yet_received :
    ∃ bus, new? 4 = some bus ∧
      let shown : Event := .activeFileChanged ⟨[97, 46, 108, 111, 111, 109]⟩
      let operations : List Operation := [.subscribeEditor]
      Live bus operations (.editor 0) ∧ ((bus.after operations).emit shown).1 = none ∧
        ((bus.after operations).emit shown).2.available (.editor 0) = [shown] := by
  have created : new? 4 = some ⟨.new 4, .new 4, 4, 1⟩ := if_neg (by decide)
  refine ⟨_, created, ⟨[], .subscribeEditor, [], rfl, rfl, List.not_mem_nil⟩, rfl, ?_⟩
  have rounded : Nat.nextPowerOfTwo 4 = 4 := by cbv
  rw [Channel.new, rounded]
  cbv

end EventBus

end LiveCompile
