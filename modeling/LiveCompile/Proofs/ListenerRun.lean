import LiveCompile.Buffer.Listeners
import Mathlib.Data.List.Nodup

/-! Runs of a buffer map with listeners. An action comes from outside, when no listener runs;
what listeners do in turn is up to any reaction. The listeners that are registered are those
whose guards are alive, in the order of registration, each with an id of its own. -/

namespace LiveCompile

def BufferMap.Operation.target? : BufferMap.Operation → Option Path
  | .set path _ | .remove path => some path
  | _ => none

theorem BufferMap.apply_notified (map : BufferMap) (operation : BufferMap.Operation) :
    (map.apply operation).notified =
      if (map.apply operation).changed = some true then operation.target? else none := by
  cases operation <;> simp [apply, answered, Operation.target?]

def Observation.call? {κ : Type} : Observation κ → Option (κ × Path)
  | .called key path => some (key, path)
  | _ => none

/-- What is done to a buffer map and its listeners from outside. -/
inductive Action (κ : Type) where
  | operate (operation : BufferMap.Operation)
  | subscribe (key : κ) (program : List (Instruction κ))
  | unsubscribe (key : κ)

/-- An action, what it found and what it answered. -/
structure Deed (κ : Type) where
  space : Workspace κ
  action : Action κ
  answer : Option Bool

namespace Workspace

def heard {κ : Type} (space : Workspace κ) : List (κ × Path) :=
  space.observations.filterMap Observation.call?

variable {κ : Type} [DecidableEq κ]

omit [DecidableEq κ] in
theorem heard_observe (space : Workspace κ) (observation : Observation κ) :
    (space.observe observation).heard = space.heard ++ observation.call?.toList := by
  cases observation <;> simp [heard, observe, List.filterMap_cons, Observation.call?]

section
variable (space : Workspace κ) (key : κ) (program : List (Instruction κ))

@[simp] theorem map_subscribe : (space.subscribe key program).map = space.map := by
  unfold subscribe
  split <;> rfl

@[simp] theorem nextId_subscribe : (space.subscribe key program).nextId = space.nextId + 1 := by
  unfold subscribe
  split <;> rfl

@[simp] theorem guards_subscribe :
    (space.subscribe key program).guards =
      space.guards.filter (·.1 ≠ key) ++ [(key, space.nextId)] := by
  unfold subscribe
  split <;> rfl

@[simp] theorem heard_subscribe : (space.subscribe key program).heard = space.heard := by
  unfold subscribe
  split <;> rfl

@[simp] theorem map_unsubscribe : (space.unsubscribe key).map = space.map := by
  unfold unsubscribe
  split <;> rfl

@[simp] theorem heard_unsubscribe : (space.unsubscribe key).heard = space.heard := by
  unfold unsubscribe
  split <;> rfl

end

/-- The result of an action; none if notifications nest deeper than the bound. -/
def act? (reaction : Reaction κ) (depth : Nat) (space : Workspace κ) :
    Action κ → Option (Option Bool × Workspace κ)
  | .operate operation => space.operateWith (notify reaction depth) operation
  | .subscribe key program => some (none, space.subscribe key program)
  | .unsubscribe key => some (none, space.unsubscribe key)

def run? (reaction : Reaction κ) (depth : Nat) :
    List (Action κ) → Workspace κ → Option (List (Deed κ) × Workspace κ)
  | [], space => some ([], space)
  | action :: rest, space => do
    let (answer, next) ← space.act? reaction depth action
    let (deeds, after) ← run? reaction depth rest next
    return (⟨space, action, answer⟩ :: deeds, after)

theorem run?_cons_eq_some {reaction : Reaction κ} {depth : Nat} {action : Action κ}
    {rest : List (Action κ)} {space after : Workspace κ} {deeds : List (Deed κ)} :
    run? reaction depth (action :: rest) space = some (deeds, after) ↔
      ∃ answer next later, space.act? reaction depth action = some (answer, next) ∧
        run? reaction depth rest next = some (later, after) ∧
        deeds = ⟨space, action, answer⟩ :: later := by
  simp only [run?, Option.bind_eq_bind, Option.bind_eq_some_iff, Option.pure_def,
    Option.some.injEq, Prod.mk.injEq, Prod.exists]
  constructor
  · rintro ⟨answer, next, acted, later, _, ran, rfl, rfl⟩
    exact ⟨answer, next, later, acted, ran, rfl⟩
  · rintro ⟨answer, next, later, acted, ran, rfl⟩
    exact ⟨answer, next, acted, later, after, ran, rfl, rfl⟩

/-! Guards -/

/-- The listeners are those whose guards are alive, in the order of registration. -/
structure Guarded (space : Workspace κ) : Prop where
  alive : space.listeners.map (fun listener => (listener.key, listener.id)) = space.guards
  ordered : space.guards.Pairwise fun earlier later => earlier.2 < later.2
  below : ∀ guard ∈ space.guards, guard.2 < space.nextId
  apart : (space.guards.map (·.1)).Nodup

omit [DecidableEq κ] in
theorem Guarded.new {map : BufferMap} : Guarded ({ map } : Workspace κ) :=
  ⟨rfl, .nil, by simp, .nil⟩

omit [DecidableEq κ] in
theorem Guarded.congr {space other : Workspace κ} (guarded : space.Guarded)
    (listeners : other.listeners = space.listeners) (guards : other.guards = space.guards)
    (nextId : other.nextId = space.nextId) : other.Guarded := by
  constructor
  · rw [listeners, guards]
    exact guarded.alive
  · rw [guards]
    exact guarded.ordered
  · rw [guards, nextId]
    exact guarded.below
  · rw [guards]
    exact guarded.apart

section
variable {space : Workspace κ} {key : κ} {id : Nat}

theorem mem_guards (held : space.guard? key = some id) : (key, id) ∈ space.guards := by
  obtain ⟨guard, found, rfl⟩ := Option.map_eq_some_iff.mp held
  have same : guard.1 = key := by simpa using List.find?_some found
  exact same ▸ List.mem_of_find?_eq_some found

theorem not_mem_guards (unheld : space.guard? key = none) :
    ∀ guard ∈ space.guards, guard.1 ≠ key := by
  simpa [guard?] using unheld

omit [DecidableEq κ] in
theorem Guarded.ids (guarded : space.Guarded) : (space.guards.map (·.2)).Nodup := by
  rw [List.Nodup, List.pairwise_map]
  exact guarded.ordered.imp Nat.ne_of_lt

theorem Guarded.key_iff_id (guarded : space.Guarded) (held : space.guard? key = some id) :
    ∀ guard ∈ space.guards, guard.1 = key ↔ guard.2 = id := by
  intro guard member
  have own := mem_guards held
  constructor
  · intro same
    rw [List.inj_on_of_nodup_map guarded.apart member own same]
  · intro same
    rw [List.inj_on_of_nodup_map guarded.ids member own same]

theorem Guarded.filter_key (guarded : space.Guarded) (held : space.guard? key = some id) :
    (space.listeners.filter (·.id ≠ id)).map (fun listener => (listener.key, listener.id)) =
      space.guards.filter (·.1 ≠ key) := by
  rw [← guarded.alive, List.filter_map]
  congr 1
  refine List.filter_congr fun listener member => ?_
  have guard : (listener.key, listener.id) ∈ space.guards :=
    guarded.alive ▸ List.mem_map_of_mem member
  simp [guarded.key_iff_id held _ guard]

theorem Guarded.subscribe (guarded : space.Guarded) (key : κ) (program : List (Instruction κ)) :
    (space.subscribe key program).Guarded := by
  have kept : (space.guards.filter (·.1 ≠ key)).Sublist space.guards := List.filter_sublist
  have fresh : key ∉ (space.guards.filter (·.1 ≠ key)).map (·.1) := by simp
  constructor
  case alive =>
    rw [guards_subscribe]
    unfold Workspace.subscribe
    split
    case h_1 unheld =>
      have all : space.guards.filter (·.1 ≠ key) = space.guards := by
        rw [List.filter_eq_self]
        intro guard member
        simpa using not_mem_guards unheld guard member
      rw [all]
      simp [guarded.alive]
    case h_2 replaced held =>
      have newer : space.nextId ≠ replaced :=
        Nat.ne_of_gt (guarded.below _ (mem_guards held))
      simp only [deregister, List.filter_append, List.map_append, guarded.filter_key held]
      simp [newer]
  case ordered =>
    rw [guards_subscribe]
    refine List.pairwise_append.mpr ⟨guarded.ordered.sublist kept, List.pairwise_singleton .., ?_⟩
    intro earlier member later last
    rw [List.mem_singleton.mp last]
    exact guarded.below earlier (kept.subset member)
  case below =>
    rw [guards_subscribe, nextId_subscribe]
    intro guard member
    rcases List.mem_append.mp member with earlier | last
    · exact Nat.lt_succ_of_lt (guarded.below guard (kept.subset earlier))
    · rw [List.mem_singleton.mp last]
      exact Nat.lt_succ_self _
  case apart =>
    rw [guards_subscribe, List.map_append]
    refine List.nodup_append.mpr ⟨guarded.apart.sublist (kept.map _), by simp, ?_⟩
    intro first member last single same
    rw [List.map_singleton, List.mem_singleton] at single
    rw [same, single] at member
    exact fresh member

theorem Guarded.unsubscribe (guarded : space.Guarded) (key : κ) :
    (space.unsubscribe key).Guarded := by
  unfold Workspace.unsubscribe
  split
  · exact guarded
  case h_2 id held =>
    have kept : (space.guards.filter (·.1 ≠ key)).Sublist space.guards := List.filter_sublist
    exact ⟨guarded.filter_key held, guarded.ordered.sublist kept,
      fun guard member => guarded.below guard (kept.subset member),
      guarded.apart.sublist (kept.map _)⟩

theorem Guarded.drops (guarded : space.Guarded) (held : space.guard? key = some id) :
    ∃ front listener back, space.listeners = front ++ listener :: back ∧
      listener.key = key ∧ listener.id = id ∧
      (space.unsubscribe key).listeners = front ++ back := by
  have own := mem_guards held
  rw [← guarded.alive] at own
  obtain ⟨listener, member, same⟩ := List.mem_map.mp own
  obtain ⟨rfl, rfl⟩ := Prod.mk.inj same
  obtain ⟨front, back, split⟩ := List.append_of_mem member
  refine ⟨front, listener, back, split, rfl, rfl, ?_⟩
  have ids : (space.listeners.map (·.id)).Nodup := by
    have nodup := guarded.ids
    rw [← guarded.alive, List.map_map] at nodup
    exact nodup
  have removed : (space.unsubscribe listener.key).listeners =
      space.listeners.filter (·.id ≠ listener.id) := by
    simp [Workspace.unsubscribe, held, deregister]
  rw [split, List.map_append, List.map_cons, List.nodup_append] at ids
  obtain ⟨_, right, disjoint⟩ := ids
  have before : ∀ other ∈ front, other.id ≠ listener.id := fun other inside =>
    disjoint _ (List.mem_map_of_mem inside) _ List.mem_cons_self
  have behind : ∀ other ∈ back, other.id ≠ listener.id := fun other inside same =>
    (List.nodup_cons.mp right).1 (same ▸ List.mem_map_of_mem inside)
  rw [removed, split, List.filter_append, List.filter_cons_of_neg (by simp),
    List.filter_eq_self.mpr (by simpa using before), List.filter_eq_self.mpr (by simpa using behind)]

end

end Workspace

end LiveCompile
