/-! A broadcast channel. It holds the last events that were sent, as many as it has room
for, and each receiver has a cursor: the number of events sent before the one it receives
next. A receiver that has fallen behind what is held is told how many events it missed and
goes on with the oldest one held. -/

namespace LiveCompile

structure Channel (α : Type) where
  room : Nat
  /-- how many events were sent -/
  sent : Nat
  /-- the last events that were sent, oldest first -/
  held : List α
  /-- the live receivers with their cursors -/
  cursors : List (Nat × Nat)
  nextReceiver : Nat
  deriving Repr, Inhabited

/-- What a receiver gets. -/
inductive Reception (α : Type) where
  | event (event : α)
  | empty
  | closed
  | lagged (missed : Nat)
  deriving Repr

namespace Channel

variable {α : Type}

/-- A channel that holds the least power of two of at least `capacity` events. -/
def new (capacity : Nat) : Channel α := ⟨capacity.nextPowerOfTwo, 0, [], [], 0⟩

def receiverCount (channel : Channel α) : Nat := channel.cursors.length

def cursor? (channel : Channel α) (receiver : Nat) : Option Nat :=
  (channel.cursors.find? (·.1 = receiver)).map (·.2)

/-- A new receiver, for the events sent from now on. -/
def subscribe (channel : Channel α) : Nat × Channel α :=
  (channel.nextReceiver, { channel with
    cursors := channel.cursors ++ [(channel.nextReceiver, channel.sent)]
    nextReceiver := channel.nextReceiver + 1 })

def unsubscribe (channel : Channel α) (receiver : Nat) : Channel α :=
  { channel with cursors := channel.cursors.filter (·.1 ≠ receiver) }

/-- Sends an event and counts who can receive it. Without receivers nothing is sent. -/
def send (channel : Channel α) (event : α) : Option Nat × Channel α :=
  if channel.cursors.isEmpty then (none, channel)
  else
    let held := channel.held ++ [event]
    (some channel.receiverCount, { channel with
      sent := channel.sent + 1
      held := held.drop (held.length - channel.room) })

def moveCursor (channel : Channel α) (receiver position : Nat) : Channel α :=
  { channel with cursors := channel.cursors.map fun (other, cursor) =>
      (other, if other = receiver then position else cursor) }

/-- The position of the oldest event that is held. -/
def oldest (channel : Channel α) : Nat := channel.sent - channel.held.length

/-- What a receiver gets next; `alive` tells whether somebody may still send. A receiver
that is not there gets what one without events gets. -/
def receive (channel : Channel α) (receiver : Nat) (alive : Bool) : Reception α × Channel α :=
  let idle : Reception α := if alive then .empty else .closed
  match channel.cursor? receiver with
  | none => (idle, channel)
  | some cursor =>
    if cursor < channel.oldest then
      (.lagged (channel.oldest - cursor), channel.moveCursor receiver channel.oldest)
    else
      match channel.held[cursor - channel.oldest]? with
      | some event => (.event event, channel.moveCursor receiver (cursor + 1))
      | none => (idle, channel)

end Channel

end LiveCompile
