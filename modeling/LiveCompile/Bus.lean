import LiveCompile.Bus.Channel
import LiveCompile.Event

/-! The event bus. Events of the editor also go through a channel of their own, so its
receivers are not held up by events of the compiler. -/

namespace LiveCompile

structure EventBus where
  all : Channel Event
  editor : Channel Event
  capacity : Nat
  /-- how many handles may still publish -/
  handles : Nat
  deriving Inhabited

/-- A receiver of all events or of the editor's events. -/
inductive Receiver where
  | all (id : Nat)
  | editor (id : Nat)
  deriving DecidableEq, Repr

namespace EventBus

def defaultCapacity : Nat := 256

/-- The greatest power of two of events that are within the reach of an address. -/
def maxRoom : Nat := Nat.pow 2 56

/-- A bus with one handle. There is no bus without room or with too much of it. -/
def new? (capacity : Nat) : Option EventBus :=
  if capacity = 0 ∨ maxRoom < capacity then none
  else some ⟨.new capacity, .new capacity, capacity, 1⟩

def alive (bus : EventBus) : Bool := bus.handles > 0

def subscribe (bus : EventBus) : Receiver × EventBus :=
  let (id, channel) := bus.all.subscribe
  (.all id, { bus with all := channel })

def subscribeEditor (bus : EventBus) : Receiver × EventBus :=
  let (id, channel) := bus.editor.subscribe
  (.editor id, { bus with editor := channel })

/-- Publishes an event; gives the number of receivers of all events, or nothing if there
is none. -/
def emit (bus : EventBus) (event : Event) : Option Nat × EventBus :=
  let bus := if event.isEditor then { bus with editor := (bus.editor.send event).2 } else bus
  let (received, channel) := bus.all.send event
  (received, { bus with all := channel })

def publish (bus : EventBus) (event : Event) : EventBus := (bus.emit event).2

def subscriberCount (bus : EventBus) : Nat := bus.all.receiverCount

def receive (bus : EventBus) : Receiver → Reception Event × EventBus
  | .all id =>
    let (reception, channel) := bus.all.receive id bus.alive
    (reception, { bus with all := channel })
  | .editor id =>
    let (reception, channel) := bus.editor.receive id bus.alive
    (reception, { bus with editor := channel })

def dropReceiver (bus : EventBus) : Receiver → EventBus
  | .all id => { bus with all := bus.all.unsubscribe id }
  | .editor id => { bus with editor := bus.editor.unsubscribe id }

def clone (bus : EventBus) : EventBus := { bus with handles := bus.handles + 1 }

def dropHandle (bus : EventBus) : EventBus := { bus with handles := bus.handles - 1 }

/-- Receives until nothing is there. The first argument bounds the number of receptions. -/
def drain (receiver : Receiver) : Nat → EventBus → List (Reception Event) × EventBus
  | 0, bus => ([], bus)
  | steps + 1, bus =>
    match bus.receive receiver with
    | (.empty, bus) => ([], bus)
    | (.closed, bus) => ([], bus)
    | (reception, bus) =>
      let (more, bus) := drain receiver steps bus
      (reception :: more, bus)

/-- Everything a receiver can get at once: what is held, after at most one gap. -/
def drainAll (bus : EventBus) (receiver : Receiver) : List (Reception Event) × EventBus :=
  drain receiver (bus.all.room + bus.editor.room + 1) bus

end EventBus

end LiveCompile
