import LiveCompile.Buffer.Map

/-! Listeners of a buffer map. A change calls every listener that is registered when the
notification starts, in the order of registration. A listener reacts with a program that
may use the map again, so notifications nest. How listeners react is a parameter, for they
may remember earlier calls; by themselves they run the program they were registered with. A
listener is registered as long as its guard is alive; guards are held under a key. -/

namespace LiveCompile

/-- A step of a listener's reaction. -/
inductive Instruction (κ : Type) where
  /-- read the buffer the listener was called for -/
  | read
  | operate (operation : BufferMap.Operation)
  | ask (query : BufferMap.Query)
  /-- hold the guard of a new listener that does nothing -/
  | subscribe (key : κ)
  /-- drop a guard -/
  | unsubscribe (key : κ)
  /-- break off this reaction -/
  | panic
  deriving Repr

structure Listener (κ : Type) where
  id : Nat
  key : κ
  program : List (Instruction κ)
  deriving Repr

/-- What is seen from outside while listeners run. -/
inductive Observation (κ : Type) where
  | called (key : κ) (path : Path)
  | read (key : κ) (content : Option String)
  | changed (key : κ) (answer : Option Bool)
  | answered (key : κ) (query : BufferMap.Query) (map : BufferMap) (subscribers : Nat)
  deriving Repr

/-- A buffer map with its listeners, in the order of registration, the guards that are
alive, and what was observed so far. -/
structure Workspace (κ : Type) where
  map : BufferMap
  listeners : List (Listener κ) := []
  nextId : Nat := 0
  guards : List (κ × Nat) := []
  observations : List (Observation κ) := []

/-- What a listener does when it is called for a path. This may hang on all there is at that
time, and so on earlier calls. -/
abbrev Reaction (κ : Type) := Workspace κ → Listener κ → Path → List (Instruction κ)

/-- Every listener runs the program it was registered with. -/
def Reaction.registered {κ : Type} : Reaction κ := fun _ listener _ => listener.program

namespace Workspace

variable {κ : Type} [DecidableEq κ]

def observe (space : Workspace κ) (observation : Observation κ) : Workspace κ :=
  { space with observations := space.observations ++ [observation] }

def guard? (space : Workspace κ) (key : κ) : Option Nat :=
  (space.guards.find? (·.1 = key)).map (·.2)

/-- Removes the listener of a guard. -/
def deregister (space : Workspace κ) (id : Nat) : Workspace κ :=
  { space with listeners := space.listeners.filter (·.id ≠ id) }

/-- Drops the guard that is held under a key, if there is one. -/
def unsubscribe (space : Workspace κ) (key : κ) : Workspace κ :=
  match space.guard? key with
  | none => space
  | some id => { space.deregister id with guards := space.guards.filter (·.1 ≠ key) }

/-- Registers a listener and holds its guard under a key; a guard that was held there is
dropped afterwards. -/
def subscribe (space : Workspace κ) (key : κ) (program : List (Instruction κ)) : Workspace κ :=
  let registered := { space with
    listeners := space.listeners ++ [⟨space.nextId, key, program⟩]
    nextId := space.nextId + 1
    guards := space.guards.filter (·.1 ≠ key) ++ [(key, space.nextId)] }
  match space.guard? key with
  | none => registered
  | some replaced => registered.deregister replaced

/-- Whether the listener of the guard under a key is registered; nothing without guard. -/
def isActive? (space : Workspace κ) (key : κ) : Option Bool :=
  (space.guard? key).map fun id => space.listeners.any (·.id = id)

/-- Runs an operation on the map; `notify` calls the listeners if there was a change. -/
def operateWith (notify : Path → Workspace κ → Option (Workspace κ)) (space : Workspace κ)
    (operation : BufferMap.Operation) : Option (Option Bool × Workspace κ) :=
  let effect := space.map.apply operation
  let space := { space with map := effect.map }
  match effect.notified with
  | none => some (effect.changed, space)
  | some path => (notify path space).map (effect.changed, ·)

/-- Runs the reaction of a listener to a call. -/
def react (notify : Path → Workspace κ → Option (Workspace κ)) (key : κ) (path : Path) :
    List (Instruction κ) → Workspace κ → Option (Workspace κ)
  | [], space => some space
  | .read :: rest, space =>
    react notify key path rest (space.observe (.read key (space.map.get? path)))
  | .operate operation :: rest, space => do
    let (answer, space) ← space.operateWith notify operation
    react notify key path rest (space.observe (.changed key answer))
  | .ask query :: rest, space =>
    react notify key path rest
      (space.observe (.answered key query space.map space.listeners.length))
  | .subscribe other :: rest, space => react notify key path rest (space.subscribe other [])
  | .unsubscribe other :: rest, space => react notify key path rest (space.unsubscribe other)
  | .panic :: _, space => some space

/-- Calls listeners in turn. -/
def callAll (reaction : Reaction κ) (notify : Path → Workspace κ → Option (Workspace κ))
    (path : Path) : List (Listener κ) → Workspace κ → Option (Workspace κ)
  | [], space => some space
  | listener :: rest, space => do
    let space ← react notify listener.key path (reaction space listener path)
      (space.observe (.called listener.key path))
    callAll reaction notify path rest space

/-- Notifies all listeners of a change; nothing if notifications nest deeper than the
given bound. -/
def notify (reaction : Reaction κ) : Nat → Path → Workspace κ → Option (Workspace κ)
  | 0, _, _ => none
  | depth + 1, path, space => callAll reaction (notify reaction depth) path space.listeners space

/-- How deep notifications may nest. -/
def nesting : Nat := 4096

/-- An operation with its notification. -/
def operate? (space : Workspace κ) (operation : BufferMap.Operation) :
    Option (Option Bool × Workspace κ) :=
  space.operateWith (notify .registered nesting) operation

end Workspace

end LiveCompile
