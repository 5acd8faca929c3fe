import LiveCompile.Bus.Channel

/-! Receivers of a broadcast channel. A receiver follows what is sent since it came: it gets the
event at its place, or is told how many it missed and goes on behind those. -/

namespace LiveCompile

namespace Channel

variable {α : Type} {channel : Channel α} {receiver base place : Nat} {older log : List α}

/-- What holds of every channel: receivers have ids of their own. -/
structure Sound (channel : Channel α) : Prop where
  held_le : channel.held.length ≤ channel.sent
  fresh : ∀ cursor ∈ channel.cursors, cursor.1 < channel.nextReceiver

/-- A channel that came about by what can be done to one. -/
inductive Made : Channel α → Prop
  | new (capacity : Nat) : Made (.new capacity)
  | subscribe {channel : Channel α} (made : Made channel) : Made channel.subscribe.2
  | unsubscribe {channel : Channel α} (made : Made channel) (receiver : Nat) :
    Made (channel.unsubscribe receiver)
  | send {channel : Channel α} (made : Made channel) (event : α) : Made (channel.send event).2
  | receive {channel : Channel α} (made : Made channel) (receiver : Nat) (alive : Bool) :
    Made (channel.receive receiver alive).2

theorem Made.empty {room : Nat} (power : room.nextPowerOfTwo = room) :
    Made (⟨room, 0, [], [], 0⟩ : Channel α) := by
  have made : Made (Channel.new room : Channel α) := .new room
  rwa [Channel.new, power] at made

theorem Sound.moveCursor (sound : channel.Sound) (receiver position : Nat) :
    (channel.moveCursor receiver position).Sound := by
  refine ⟨sound.held_le, fun cursor member => ?_⟩
  obtain ⟨before, inside, rfl⟩ := List.mem_map.mp member
  exact sound.fresh before inside

theorem Made.sound (made : channel.Made) : channel.Sound := by
  induction made with
  | new capacity => exact ⟨Nat.le_refl _, nofun⟩
  | @subscribe channel _ sound =>
    refine ⟨sound.held_le, fun cursor member => ?_⟩
    rcases List.mem_append.mp member with old | last
    · exact Nat.lt_succ_of_lt (sound.fresh cursor old)
    · rw [List.mem_singleton.mp last]
      exact Nat.lt_succ_self _
  | unsubscribe _ receiver sound =>
    exact ⟨sound.held_le, fun cursor member => sound.fresh cursor (List.mem_filter.mp member).1⟩
  | @send channel _ event sound =>
    unfold Channel.send
    split
    · exact sound
    · refine ⟨?_, sound.fresh⟩
      have held_le := sound.held_le
      simp only [List.length_drop, List.length_append, List.length_singleton]
      omega
  | @receive channel _ receiver alive sound =>
    simp only [Channel.receive]
    cases channel.cursor? receiver with
    | none => exact sound
    | some cursor =>
      by_cases behind : cursor < channel.oldest
      · simp only [if_pos behind]
        exact sound.moveCursor _ _
      · simp only [if_neg behind]
        cases channel.held[cursor - channel.oldest]? with
        | none => exact sound
        | some event => exact sound.moveCursor _ _

/-- A receiver follows what is sent to a channel: `log` is what was sent since there were `base`
events, and it is at a place in that. -/
structure Follows (channel : Channel α) (receiver base : Nat) (older log : List α)
    (place : Nat) : Prop where
  sent : channel.sent = base + log.length
  held : channel.held <:+ older ++ log
  cursor : channel.cursor? receiver = some (base + place)

theorem Sound.subscribe (sound : channel.Sound) :
    channel.subscribe.2.Follows channel.subscribe.1 channel.sent channel.held [] 0 := by
  refine ⟨rfl, by simp [Channel.subscribe], ?_⟩
  have absent : channel.cursors.find? (·.1 = channel.nextReceiver) = none := by
    rw [List.find?_eq_none]
    intro cursor member
    have older := sound.fresh cursor member
    simpa using Nat.ne_of_lt older
  have found : (channel.cursors ++ [(channel.nextReceiver, channel.sent)]).find?
      (·.1 = channel.nextReceiver) = some (channel.nextReceiver, channel.sent) := by
    rw [List.find?_append, absent]
    simp
  exact congrArg (Option.map (·.2)) found

theorem Follows.send (follows : channel.Follows receiver base older log place) (event : α) :
    (channel.send event).2.Follows receiver base older (log ++ [event]) place := by
  have listened : channel.cursors.isEmpty = false := by
    have cursor := follows.cursor
    cases cursors : channel.cursors with
    | nil => simp [cursor?, cursors] at cursor
    | cons => rfl
  simp only [Channel.send, listened, Bool.false_eq_true, if_false]
  refine ⟨?_, ?_, follows.cursor⟩
  · simp [follows.sent, Nat.add_assoc]
  · obtain ⟨gone, split⟩ := follows.held
    refine (List.drop_suffix _ _).trans ⟨gone, ?_⟩
    rw [← List.append_assoc, split, List.append_assoc]

private theorem cursor?_moveCursor {before : Nat} (cursor : channel.cursor? receiver = some before)
    (position : Nat) : (channel.moveCursor receiver position).cursor? receiver = some position := by
  obtain ⟨entry, found, _⟩ := Option.map_eq_some_iff.mp cursor
  have own : entry.1 = receiver := by simpa using List.find?_some found
  have same : (fun entry : Nat × Nat => decide (entry.1 = receiver)) ∘
      (fun entry : Nat × Nat => (entry.1, if entry.1 = receiver then position else entry.2)) =
      fun entry => decide (entry.1 = receiver) := rfl
  simp only [cursor?, moveCursor, List.find?_map, same, found, Option.map_some, own, if_true]

theorem Follows.receive (follows : channel.Follows receiver base older log place)
    (bounded : older.length ≤ base) (alive : Bool) :
    match channel.receive receiver alive with
    | (.event event, next) =>
      log[place]? = some event ∧ next.Follows receiver base older log (place + 1)
    | (.lagged missed, next) => next.Follows receiver base older log (place + missed)
    | (.empty, next) => next = channel
    | (.closed, next) => next = channel := by
  obtain ⟨sent, held, cursor⟩ := follows
  obtain ⟨gone, split⟩ := held
  have total : gone.length + channel.held.length = older.length + log.length := by
    simpa using congrArg List.length split
  simp only [Channel.receive, cursor]
  by_cases behind : base + place < channel.oldest
  · simp only [if_pos behind]
    unfold oldest at behind
    refine ⟨sent, ⟨gone, split⟩, ?_⟩
    rw [cursor?_moveCursor cursor]
    unfold oldest
    congr 1
    omega
  · simp only [if_neg behind]
    unfold oldest at behind
    cases found : channel.held[base + place - channel.oldest]? with
    | none => cases alive <;> rfl
    | some event =>
      refine ⟨?_, sent, ⟨gone, split⟩, cursor?_moveCursor cursor _⟩
      have all : (older ++ log)[gone.length + (base + place - channel.oldest)]? = some event := by
        rw [← split, List.getElem?_append_right (Nat.le_add_right ..), Nat.add_sub_cancel_left]
        exact found
      have index : gone.length + (base + place - channel.oldest) = older.length + place := by
        unfold oldest
        omega
      rwa [index, List.getElem?_append_right (Nat.le_add_right ..), Nat.add_sub_cancel_left] at all

section
variable {alive : Bool} {event : α} {missed : Nat} {next : Channel α}
variable (follows : channel.Follows receiver base older log place) (bounded : older.length ≤ base)
include follows bounded

theorem Follows.receive_event (received : channel.receive receiver alive = (.event event, next)) :
    log[place]? = some event ∧ next.Follows receiver base older log (place + 1) := by
  simpa [received] using follows.receive bounded alive

theorem Follows.receive_lagged (received : channel.receive receiver alive = (.lagged missed, next)) :
    next.Follows receiver base older log (place + missed) := by
  simpa [received] using follows.receive bounded alive

theorem Follows.receive_closed (received : channel.receive receiver alive = (.closed, next)) :
    next = channel := by
  simpa [received] using follows.receive bounded alive

end

/-! What is pending -/

theorem receive_moves (channel : Channel α) (receiver : Nat) (alive : Bool) :
    (channel.receive receiver alive).2 = channel ∨
      ∃ position, (channel.receive receiver alive).2 = channel.moveCursor receiver position := by
  simp only [Channel.receive]
  cases channel.cursor? receiver with
  | none => exact .inl rfl
  | some cursor =>
    by_cases behind : cursor < channel.oldest
    · simp only [if_pos behind]
      exact .inr ⟨_, rfl⟩
    · simp only [if_neg behind]
      cases channel.held[cursor - channel.oldest]? with
      | none => exact .inl rfl
      | some event => exact .inr ⟨_, rfl⟩

theorem room_send (channel : Channel α) (event : α) : (channel.send event).2.room = channel.room := by
  unfold Channel.send
  split <;> rfl

theorem room_receive (channel : Channel α) (receiver : Nat) (alive : Bool) :
    (channel.receive receiver alive).2.room = channel.room := by
  rcases channel.receive_moves receiver alive with same | ⟨position, moved⟩
  · rw [same]
  · rw [moved]
    rfl

theorem Made.full (made : channel.Made) : channel.held.length = min channel.sent channel.room := by
  induction made with
  | new capacity => simp [Channel.new]
  | subscribe _ full => exact full
  | unsubscribe _ receiver full => exact full
  | @send channel _ event full =>
    unfold Channel.send
    split
    · exact full
    · simp only [List.length_drop, List.length_append, List.length_singleton]
      omega
  | @receive channel _ receiver alive full =>
    rcases channel.receive_moves receiver alive with same | ⟨position, moved⟩
    · rwa [same]
    · rw [moved]
      exact full

/-- A receiver has some events pending: it has still to get them, or to be told that it missed
them. -/
structure Pends (channel : Channel α) (receiver room : Nat) (pending : List α) : Prop where
  made : channel.Made
  room : channel.room = room
  follows : ∃ base older log place, older.length ≤ base ∧ place ≤ log.length ∧
    channel.Follows receiver base older log place ∧ log.drop place = pending

section
variable {room other : Nat} {pending : List α} {next : Channel α}

theorem Pends.subscribe (made : channel.Made) :
    channel.subscribe.2.Pends channel.subscribe.1 channel.room [] :=
  ⟨.subscribe made, rfl, _, _, [], 0, made.sound.held_le, Nat.le_refl 0, made.sound.subscribe, rfl⟩

theorem Pends.send (pends : channel.Pends receiver room pending) (event : α) :
    (channel.send event).2.Pends receiver room (pending ++ [event]) := by
  obtain ⟨made, sized, base, older, log, place, bounded, inside, follows, rfl⟩ := pends
  refine ⟨.send made event, (channel.room_send event).trans sized, base, older, log ++ [event], place,
    bounded, ?_, follows.send event, List.drop_append_of_le_length inside⟩
  rw [List.length_append]
  exact Nat.le_add_right_of_le inside

theorem Pends.aside (pends : channel.Pends receiver room pending) (made : next.Made)
    (sized : next.room = channel.room) (sent : next.sent = channel.sent)
    (held : next.held = channel.held) (cursor : next.cursor? receiver = channel.cursor? receiver) :
    next.Pends receiver room pending := by
  obtain ⟨base, older, log, place, bounded, inside, follows, rest⟩ := pends.follows
  exact ⟨made, sized.trans pends.room, base, older, log, place, bounded, inside,
    ⟨sent.trans follows.sent, held ▸ follows.held, cursor.trans follows.cursor⟩, rest⟩

theorem Pends.cursor (pends : channel.Pends receiver room pending) :
    (channel.cursor? receiver).isSome := by
  obtain ⟨_, _, _, _, _, _, follows, _⟩ := pends.follows
  simp [follows.cursor]

theorem Pends.subscribe_other (pends : channel.Pends receiver room pending) :
    channel.subscribe.2.Pends receiver room pending := by
  refine pends.aside (.subscribe pends.made) rfl rfl rfl ?_
  obtain ⟨place, found⟩ := Option.isSome_iff_exists.mp pends.cursor
  obtain ⟨entry, first, _⟩ := Option.map_eq_some_iff.mp found
  simp [cursor?, Channel.subscribe, List.find?_append, first]

theorem Pends.unsubscribe_other (pends : channel.Pends receiver room pending)
    (apart : other ≠ receiver) : (channel.unsubscribe other).Pends receiver room pending := by
  refine pends.aside (.unsubscribe pends.made other) rfl rfl rfl ?_
  simp only [cursor?, unsubscribe, List.find?_filter]
  congr 2
  funext entry
  by_cases own : entry.1 = receiver
  · simp [own, apart.symm]
  · simp [own]

private theorem cursor?_moveCursor_other (apart : other ≠ receiver) (position : Nat) :
    (channel.moveCursor other position).cursor? receiver = channel.cursor? receiver := by
  have same : (fun entry : Nat × Nat => decide (entry.1 = receiver)) ∘
      (fun entry : Nat × Nat => (entry.1, if entry.1 = other then position else entry.2)) =
      fun entry => decide (entry.1 = receiver) := rfl
  simp only [cursor?, moveCursor, List.find?_map, same, Option.map_map]
  cases found : channel.cursors.find? (·.1 = receiver) with
  | none => rfl
  | some entry =>
    have own : entry.1 = receiver := by simpa using List.find?_some found
    simp [own, apart.symm]

theorem Pends.receive_other (pends : channel.Pends receiver room pending)
    (apart : other ≠ receiver) (alive : Bool) :
    (channel.receive other alive).2.Pends receiver room pending := by
  have made : (channel.receive other alive).2.Made := .receive pends.made other alive
  rcases channel.receive_moves other alive with same | ⟨position, moved⟩
  · rwa [same]
  · rw [moved] at made ⊢
    exact pends.aside made rfl rfl rfl (cursor?_moveCursor_other apart position)

end

section
variable {room : Nat} {pending : List α} {event : α} {alive : Bool}

/-- Who has more pending than the channel has room for is told of all but the last. -/
theorem Pends.receive_behind (pends : channel.Pends receiver room pending)
    (far : room < pending.length) :
    (channel.receive receiver alive).1 = .lagged (pending.length - room) ∧
      (channel.receive receiver alive).2.Pends receiver room
        (pending.drop (pending.length - room)) := by
  obtain ⟨made, sized, base, older, log, place, bounded, inside, follows, rfl⟩ := pends
  have full := made.full
  have sent := follows.sent
  rw [List.length_drop] at far ⊢
  have missed : channel.oldest - (base + place) = log.length - place - room := by
    unfold oldest
    omega
  have behind : base + place < channel.oldest := by omega
  have received : channel.receive receiver alive =
      (.lagged (log.length - place - room), channel.moveCursor receiver channel.oldest) := by
    simp [Channel.receive, follows.cursor, behind, missed]
  have onwards := follows.receive_lagged bounded received
  have made := made.receive receiver alive
  rw [received] at made ⊢
  refine ⟨rfl, made, sized, base, older, log, _, bounded, ?_, onwards, ?_⟩
  · omega
  · rw [List.drop_drop]

/-- Who has no more pending than the channel has room for gets the next event. -/
theorem Pends.receive_next (pends : channel.Pends receiver room (event :: pending))
    (near : pending.length < room) :
    (channel.receive receiver alive).1 = .event event ∧
      (channel.receive receiver alive).2.Pends receiver room pending := by
  obtain ⟨made, sized, base, older, log, place, bounded, inside, follows, rest⟩ := pends
  have full := made.full
  have sent := follows.sent
  have count := congrArg List.length rest
  rw [List.length_drop, List.length_cons] at count
  have caught : ¬ base + place < channel.oldest := by
    unfold oldest
    omega
  have there : base + place - channel.oldest < channel.held.length := by
    unfold oldest at caught ⊢
    omega
  have received : channel.receive receiver alive =
      (.event channel.held[base + place - channel.oldest],
        channel.moveCursor receiver (base + place + 1)) := by
    simp [Channel.receive, follows.cursor, caught, there]
  obtain ⟨found, onwards⟩ := follows.receive_event bounded received
  have next : log[place]? = some event := by
    rw [← Nat.add_zero place, ← List.getElem?_drop, rest]
    rfl
  have made := made.receive receiver alive
  rw [received] at made ⊢
  refine ⟨congrArg _ (Option.some.inj (found.symm.trans next)), made, sized, base, older, log, _,
    bounded, ?_, onwards, ?_⟩
  · omega
  · rw [← List.drop_drop, rest]
    rfl

theorem Pends.receive_idle (pends : channel.Pends receiver room []) :
    channel.receive receiver alive = (if alive then .empty else .closed, channel) := by
  obtain ⟨made, _, base, older, log, place, bounded, inside, follows, rest⟩ := pends
  have full := made.full
  have sent := follows.sent
  have done : log.length ≤ place := List.drop_eq_nil_iff.mp rest
  have caught : ¬ base + place < channel.oldest := by
    unfold oldest
    omega
  have none : channel.held.length ≤ base + place - channel.oldest := by
    unfold oldest
    omega
  simp [Channel.receive, follows.cursor, caught, none]

end

end Channel

end LiveCompile
