import LiveCompile.Proofs.BufferRefinement
import LiveCompile.Proofs.ListenerRun

/-! Runs in which listeners only look at the map. Whether there is a dirty buffer at a place
depends on the last operation that touched it, and a listener receives the paths of the changes
that were made while it was registered. -/

namespace LiveCompile

variable {κ : Type}

/-- Whether an instruction leaves the map and the listeners alone. -/
def Instruction.looks : Instruction κ → Bool
  | .read | .ask _ | .panic => true
  | .operate _ | .subscribe _ | .unsubscribe _ => false

/-- A listener that does not call back. -/
def Reaction.Calm (reaction : Reaction κ) (listener : Listener κ) : Prop :=
  ∀ space path, ∀ instruction ∈ reaction space listener path, instruction.looks = true

/-- The reactions if some listeners panic instead. -/
def Reaction.breaking (reaction : Reaction κ) (broken : Listener κ → Bool) : Reaction κ :=
  fun space listener path => if broken listener then [.panic] else reaction space listener path

theorem Reaction.Calm.breaking {reaction : Reaction κ} {listener : Listener κ}
    (calm : reaction.Calm listener) (broken : Listener κ → Bool) :
    (reaction.breaking broken).Calm listener := by
  intro space path instruction member
  unfold Reaction.breaking at member
  split at member
  · rw [List.mem_singleton.mp member]
    rfl
  · exact calm space path instruction member

namespace BufferMap

/-- A `set` at the place of a path that stores another text than there is, or one where there is
none. -/
def Operation.Sets (operation : Operation) (map : BufferMap) (path : Path) : Prop :=
  ∃ spelled content, operation = .set spelled content ∧
    spelled.components = path.components ∧ map.get? spelled ≠ some content

/-- The other operations that touch the place of a path. -/
def Operation.Cleans (operation : Operation) (path : Path) : Prop :=
  match operation with
  | .load spelled _ | .remove spelled | .markClean spelled => spelled.components = path.components
  | .markAllClean | .clear => True
  | .set .. => False

theorem Represents.isDirty_iff {map : BufferMap} {catalog : Catalog}
    (represents : Represents map catalog) (path : Path) :
    map.isDirty path = true ↔
      ∃ buffer, catalog.held path.components = some buffer ∧ buffer.dirty = true := by
  rw [represents.answers.isDirty, Option.any_eq_true]

theorem Represents.isDirty_apply {map : BufferMap} {catalog : Catalog}
    (represents : Represents map catalog) (operation : Operation) (path : Path) :
    (map.apply operation).map.isDirty path = true ↔
      operation.Sets map path ∨ ¬ operation.Cleans path ∧ map.isDirty path = true := by
  rw [(represents.apply operation).isDirty_iff, represents.isDirty_iff]
  cases operation with
  | set spelled content =>
    simp only [Operation.Sets, Operation.Cleans, represents.get?_eq, Catalog.apply]
    split
    case isTrue same => simp_all
    case isFalse other =>
      by_cases here : path.components = spelled.components
      · simp [Catalog.put, here, other]
      · simp [Catalog.put, here, Ne.symm here]
  | load spelled content =>
    by_cases here : path.components = spelled.components
    · simp [Operation.Sets, Operation.Cleans, Catalog.apply, Catalog.put, here]
    · simp [Operation.Sets, Operation.Cleans, Catalog.apply, Catalog.put, here, Ne.symm here]
  | remove spelled =>
    by_cases here : path.components = spelled.components
    · simp [Operation.Sets, Operation.Cleans, Catalog.apply, Catalog.erase, here]
    · simp [Operation.Sets, Operation.Cleans, Catalog.apply, Catalog.erase, here, Ne.symm here]
  | markClean spelled =>
    by_cases here : spelled.components = path.components
    · simp [Operation.Sets, Operation.Cleans, Catalog.apply, Catalog.clean, here]
    · simp [Operation.Sets, Operation.Cleans, Catalog.apply, Catalog.clean, here]
  | markAllClean => simp [Operation.Sets, Operation.Cleans, Catalog.apply, Catalog.clean]
  | clear => simp [Operation.Sets, Operation.Cleans, Catalog.apply, Catalog.empty]

private theorem contains_of_isDirty {map : BufferMap} {path : Path}
    (dirty : map.isDirty path = true) : map.contains path = true := by
  unfold contains
  unfold isDirty at dirty
  cases found : map.find? path with
  | none => simp [found] at dirty
  | some buffer => rfl

end BufferMap

def Action.target? : Action κ → Option Path
  | .operate operation => operation.target?
  | .subscribe .. | .unsubscribe _ => none

namespace Deed

/-- An operation that stored another text at the place of a path. -/
def Sets (deed : Deed κ) (path : Path) : Prop :=
  ∃ operation, deed.action = .operate operation ∧ operation.Sets deed.space.map path

def Touches (deed : Deed κ) (path : Path) : Prop :=
  ∃ operation, deed.action = .operate operation ∧
    (operation.Sets deed.space.map path ∨ operation.Cleans path)

/-- The path of a change that was made while a guard was held. -/
def told? [DecidableEq κ] (key : κ) (deed : Deed κ) : Option Path :=
  if (deed.space.guard? key).isSome ∧ deed.answer = some true then deed.action.target? else none

end Deed

/-- The last operation that touched the place of a path stored another text there. -/
def LastSet (deeds : List (Deed κ)) (path : Path) : Prop :=
  ∃ front deed back, deeds = front ++ deed :: back ∧ deed.Sets path ∧
    ∀ later ∈ back, ¬ later.Touches path

theorem lastSet_cons {deed : Deed κ} {deeds : List (Deed κ)} {path : Path} :
    LastSet (deed :: deeds) path ↔
      LastSet deeds path ∨ deed.Sets path ∧ ∀ later ∈ deeds, ¬ later.Touches path := by
  constructor
  · rintro ⟨front, last, back, split, sets, untouched⟩
    rcases List.cons_eq_append_iff.mp split with ⟨rfl, same⟩ | ⟨before, rfl, same⟩
    · obtain ⟨rfl, rfl⟩ := List.cons.inj same
      exact .inr ⟨sets, untouched⟩
    · exact .inl ⟨before, last, back, same, sets, untouched⟩
  · rintro (⟨front, last, back, rfl, sets, untouched⟩ | ⟨sets, untouched⟩)
    · exact ⟨deed :: front, last, back, rfl, sets, untouched⟩
    · exact ⟨[], deed, deeds, rfl, sets, untouched⟩

namespace Workspace

/-- Nothing but some calls and looks at the map. -/
structure Looked (calls : List (κ × Path)) (space next : Workspace κ) : Prop where
  map : next.map = space.map
  listeners : next.listeners = space.listeners
  guards : next.guards = space.guards
  nextId : next.nextId = space.nextId
  heard : next.heard = space.heard ++ calls

theorem Looked.refl (space : Workspace κ) : Looked [] space space :=
  ⟨rfl, rfl, rfl, rfl, by simp⟩

theorem Looked.trans {space next last : Workspace κ} {calls later : List (κ × Path)}
    (first : Looked calls space next) (second : Looked later next last) :
    Looked (calls ++ later) space last := by
  refine ⟨second.map.trans first.map, second.listeners.trans first.listeners,
    second.guards.trans first.guards, second.nextId.trans first.nextId, ?_⟩
  rw [second.heard, first.heard, List.append_assoc]

variable [DecidableEq κ]

/-- What an action does before listeners are told about it. -/
def plain (space : Workspace κ) : Action κ → Workspace κ
  | .operate operation => { space with map := (space.map.apply operation).map }
  | .subscribe key program => space.subscribe key program
  | .unsubscribe key => space.unsubscribe key

omit [DecidableEq κ] in
def answer? (space : Workspace κ) : Action κ → Option Bool
  | .operate operation => (space.map.apply operation).changed
  | .subscribe .. | .unsubscribe _ => none

def calls (space : Workspace κ) (action : Action κ) : List (κ × Path) :=
  match if space.answer? action = some true then action.target? else none with
  | none => []
  | some path => space.listeners.map fun listener => (listener.key, path)

def received (space : Workspace κ) (key : κ) : List Path :=
  (space.heard.filter (·.1 = key)).map (·.2)

private theorem react_calm {notify : Path → Workspace κ → Option (Workspace κ)} {key : κ}
    {path : Path}
    {program : List (Instruction κ)} (calm : ∀ instruction ∈ program, instruction.looks = true)
    (space : Workspace κ) :
    ∃ next, react notify key path program space = some next ∧ Looked [] space next := by
  induction program generalizing space with
  | nil => exact ⟨space, rfl, .refl space⟩
  | cons instruction rest ih =>
    obtain ⟨looks, others⟩ := List.forall_mem_cons.mp calm
    cases instruction with
    | panic => exact ⟨space, rfl, .refl space⟩
    | read | ask =>
      obtain ⟨next, reacted, looked⟩ := ih others (space.observe _)
      have observed := looked.heard
      rw [heard_observe] at observed
      exact ⟨next, reacted, looked.map, looked.listeners, looked.guards, looked.nextId,
        by simpa [Observation.call?] using observed⟩
    | operate | subscribe | unsubscribe => cases looks

private theorem callAll_calm {reaction : Reaction κ} {listeners : List (Listener κ)}
    (notify : Path → Workspace κ → Option (Workspace κ)) (path : Path)
    (calm : ∀ listener ∈ listeners, reaction.Calm listener) (space : Workspace κ) :
    ∃ next, callAll reaction notify path listeners space = some next ∧
      Looked (listeners.map fun listener => (listener.key, path)) space next := by
  induction listeners generalizing space with
  | nil => exact ⟨space, rfl, .refl space⟩
  | cons listener rest ih =>
    obtain ⟨first, others⟩ := List.forall_mem_cons.mp calm
    have called : Looked [(listener.key, path)] space
        (space.observe (.called listener.key path)) :=
      ⟨rfl, rfl, rfl, rfl, heard_observe ..⟩
    obtain ⟨mid, reacted, looked⟩ := react_calm (first space path)
      (space.observe (.called listener.key path))
    obtain ⟨next, goesOn, onwards⟩ := ih others mid
    exact ⟨next, Option.bind_eq_some_iff.mpr ⟨mid, reacted, goesOn⟩,
      (called.trans looked).trans onwards⟩

theorem act?_calm {reaction : Reaction κ} {space : Workspace κ} (depth : Nat)
    (calm : ∀ listener ∈ space.listeners, reaction.Calm listener) (action : Action κ) :
    ∃ next, space.act? reaction (depth + 1) action = some (space.answer? action, next) ∧
      Looked (space.calls action) (space.plain action) next := by
  cases action with
  | subscribe key program => exact ⟨_, rfl, .refl _⟩
  | unsubscribe key => exact ⟨_, rfl, .refl _⟩
  | operate operation =>
    have calls : space.calls (.operate operation) =
        match (space.map.apply operation).notified with
        | none => []
        | some path => space.listeners.map fun listener => (listener.key, path) := by
      rw [BufferMap.apply_notified]
      rfl
    rw [calls]
    simp only [act?, operateWith]
    cases (space.map.apply operation).notified with
    | none => exact ⟨_, rfl, .refl _⟩
    | some path =>
      obtain ⟨next, called, looked⟩ := callAll_calm (notify reaction depth) path calm
        (space.plain (.operate operation))
      exact ⟨next, Option.map_eq_some_iff.mpr ⟨next, called, rfl⟩, looked⟩

/-- A run in which listeners only look at the map. -/
inductive Recorded : Workspace κ → List (Deed κ) → Workspace κ → Prop
  | nil {space} : Recorded space [] space
  | cons {space action next deeds after}
      (acted : Looked (space.calls action) (space.plain action) next)
      (ran : Recorded next deeds after) :
    Recorded space (⟨space, action, space.answer? action⟩ :: deeds) after

private theorem mem_listeners_plain {space : Workspace κ} {action : Action κ}
    {listener : Listener κ} (member : listener ∈ (space.plain action).listeners) :
    listener ∈ space.listeners ∨ action = .subscribe listener.key listener.program := by
  cases action with
  | operate => exact .inl member
  | unsubscribe key =>
    simp only [plain, unsubscribe] at member
    split at member
    · exact .inl member
    · exact .inl (List.mem_of_mem_filter member)
  | subscribe key program =>
    have registered : listener ∈ space.listeners ++ [⟨space.nextId, key, program⟩] := by
      simp only [plain, subscribe] at member
      split at member
      · exact member
      · exact List.mem_of_mem_filter member
    refine (List.mem_append.mp registered).imp_right fun last => ?_
    rw [List.mem_singleton.mp last]

private theorem run?_calm {reaction : Reaction κ} {actions : List (Action κ)} {space : Workspace κ}
    (depth : Nat) (calm : ∀ listener ∈ space.listeners, reaction.Calm listener)
    (newer : ∀ key program, .subscribe key program ∈ actions →
      ∀ id, reaction.Calm ⟨id, key, program⟩) :
    ∃ deeds after, run? reaction (depth + 1) actions space = some (deeds, after) ∧
      Recorded space deeds after ∧ deeds.map (·.action) = actions := by
  induction actions generalizing space with
  | nil => exact ⟨[], space, rfl, .nil, rfl⟩
  | cons action rest ih =>
    obtain ⟨next, acted, looked⟩ := act?_calm depth calm action
    have stillCalm : ∀ listener ∈ next.listeners, reaction.Calm listener := by
      intro listener member
      rw [looked.listeners] at member
      rcases mem_listeners_plain member with old | rfl
      · exact calm listener old
      · exact newer _ _ List.mem_cons_self listener.id
    obtain ⟨deeds, after, ran, recorded, same⟩ := ih stillCalm fun key program member =>
      newer key program (List.mem_cons_of_mem _ member)
    exact ⟨_, after, run?_cons_eq_some.mpr ⟨_, next, deeds, acted, ran, rfl⟩,
      .cons looked recorded, congrArg (action :: ·) same⟩

theorem Guarded.plain {space : Workspace κ} (guarded : space.Guarded) (action : Action κ) :
    (space.plain action).Guarded := by
  cases action with
  | operate => exact guarded.congr rfl rfl rfl
  | subscribe key program => exact guarded.subscribe key program
  | unsubscribe key => exact guarded.unsubscribe key

theorem Guarded.called_once {space : Workspace κ} (guarded : space.Guarded) (key : κ)
    (path : Path) :
    ((space.listeners.map fun listener => (listener.key, path)).filter (·.1 = key)).map (·.2) =
      if (space.guard? key).isSome then [path] else [] := by
  have keys : space.listeners.map (·.key) = space.guards.map (·.1) := by
    rw [← guarded.alive, List.map_map]
    rfl
  calc
    _ = ((space.listeners.map (·.key)).filter (· = key)).map fun _ => path := by
      simp [List.filter_map, Function.comp_def]
    _ = ((space.guards.map (·.1)).filter (· = key)).map fun _ => path := by rw [keys]
    _ = List.replicate ((space.guards.map (·.1)).count key) path := by
      rw [List.filter_eq, List.map_replicate]
    _ = _ := by
      cases held : space.guard? key with
      | none =>
        have absent : key ∉ space.guards.map (·.1) := by
          rintro member
          obtain ⟨guard, inside, same⟩ := List.mem_map.mp member
          exact not_mem_guards held guard inside same
        rw [List.count_eq_zero_of_not_mem absent]
        rfl
      | some id =>
        have present : key ∈ space.guards.map (·.1) := List.mem_map_of_mem (mem_guards held)
        rw [List.count_eq_one_of_mem guarded.apart present]
        rfl

theorem Looked.plain {space other : Workspace κ} (alike : Looked [] space other)
    (action : Action κ) :
    Looked [] (space.plain action) (other.plain action) ∧
      other.answer? action = space.answer? action ∧ other.calls action = space.calls action := by
  obtain ⟨map, listeners, nextId, guards, observations⟩ := other
  obtain ⟨rfl, rfl, rfl, rfl, heard⟩ := alike
  refine ⟨?_, by cases action <;> rfl, by cases action <;> rfl⟩
  cases action with
  | operate => exact ⟨rfl, rfl, rfl, rfl, heard⟩
  | subscribe key program =>
    simp only [Workspace.plain, subscribe, guard?]
    cases space.guards.find? (·.1 = key) <;> exact ⟨rfl, rfl, rfl, rfl, heard⟩
  | unsubscribe key =>
    simp only [Workspace.plain, unsubscribe, guard?]
    cases space.guards.find? (·.1 = key) <;> exact ⟨rfl, rfl, rfl, rfl, heard⟩

namespace Recorded

variable {space after : Workspace κ} {deeds : List (Deed κ)} {path : Path} {key : κ}

/-- The last operation that touched a path tells whether it is dirty; if there was none, it is
as it was at the start. -/
theorem isDirty_iff (recorded : Recorded space deeds after) {catalog : Catalog}
    (represents : BufferMap.Represents space.map catalog) :
    after.map.isDirty path = true ↔ LastSet deeds path ∨
      (∀ deed ∈ deeds, ¬ deed.Touches path) ∧ space.map.isDirty path = true := by
  induction recorded generalizing catalog with
  | nil => simp [LastSet]
  | @cons space action next deeds after acted _ ih =>
    obtain ⟨other, represents', dirty⟩ : ∃ other : Catalog,
        BufferMap.Represents next.map other ∧ (next.map.isDirty path = true ↔
          Deed.Sets ⟨space, action, space.answer? action⟩ path ∨
            ¬ Deed.Touches ⟨space, action, space.answer? action⟩ path ∧
              space.map.isDirty path = true) := by
      rw [acted.map]
      cases action with
      | operate operation =>
        refine ⟨_, represents.apply operation, ?_⟩
        simp only [plain, represents.isDirty_apply, Deed.Sets, Deed.Touches, Action.operate.injEq,
          exists_eq_left']
        tauto
      | subscribe | unsubscribe =>
        exact ⟨catalog, by simpa [plain] using represents,
          by simp [plain, Deed.Sets, Deed.Touches]⟩
    rw [ih represents', dirty, lastSet_cons, List.forall_mem_cons]
    tauto

/-- A listener receives the changes that are made while it is registered. -/
theorem received_eq (recorded : Recorded space deeds after) (guarded : space.Guarded) :
    after.received key = space.received key ++ deeds.filterMap (Deed.told? key) := by
  induction recorded with
  | nil => simp
  | @cons space action next deeds after acted _ ih =>
    have called : ((space.calls action).filter (·.1 = key)).map (·.2) =
        (Deed.told? key ⟨space, action, space.answer? action⟩).toList := by
      unfold calls Deed.told?
      by_cases changed : space.answer? action = some true
      · cases action.target? with
        | none => simp
        | some path =>
          simp only [changed, if_true, and_true, guarded.called_once]
          split <;> rfl
      · simp [changed]
    have received : next.received key =
        space.received key ++ (Deed.told? key ⟨space, action, space.answer? action⟩).toList := by
      have same : (space.plain action).heard = space.heard := by
        cases action with
        | operate => rfl
        | subscribe key program => exact heard_subscribe space key program
        | unsubscribe key => exact heard_unsubscribe space key
      simp only [Workspace.received, acted.heard, same, List.filter_append, List.map_append, called]
    have guarded' : next.Guarded :=
      (guarded.plain action).congr acted.listeners acted.guards acted.nextId
    rw [ih guarded', received, List.append_assoc]
    congr 1
    cases told : Deed.told? key ⟨space, action, space.answer? action⟩ <;> simp [told]

/-- Runs of the same actions are alike, however calm listeners react. -/
theorem alike {other last : Workspace κ} {others : List (Deed κ)}
    (recorded : Recorded space deeds after) (again : Recorded other others last)
    (start : Looked [] space other) (same : others.map (·.action) = deeds.map (·.action)) :
    Looked [] after last ∧ others.map (·.answer) = deeds.map (·.answer) := by
  induction recorded generalizing other others with
  | nil =>
    cases again with
    | nil => exact ⟨start, rfl⟩
    | cons => cases same
  | @cons space action next deeds after acted _ ih =>
    cases again with
    | nil => cases same
    | @cons _ _ next' _ _ acted' ran' =>
      obtain ⟨first, rest⟩ := List.cons.inj same
      cases first
      obtain ⟨alike, answer, calls⟩ := start.plain action
      have onwards : Looked [] next next' := by
        refine ⟨?_, ?_, ?_, ?_, ?_⟩
        · rw [acted.map, acted'.map, alike.map]
        · rw [acted.listeners, acted'.listeners, alike.listeners]
        · rw [acted.guards, acted'.guards, alike.guards]
        · rw [acted.nextId, acted'.nextId, alike.nextId]
        · rw [acted.heard, acted'.heard, alike.heard, calls]
          simp
      obtain ⟨last, answers⟩ := ih ran' onwards rest
      exact ⟨last, by rw [List.map_cons, List.map_cons, answers, answer]⟩

end Recorded

/-- In a run in which listeners may read and panic but do not call back: a path is dirty if there
is a buffer and the last operation that touched its place stored another text there; a listener
receives, as they were spelled, the paths of the changes that were made while it was registered;
and nothing changes if any listeners panic instead. -/
theorem dirty_and_received_by_history {reaction : Reaction κ} {actions : List (Action κ)}
    (calm : ∀ key program, .subscribe key program ∈ actions →
      ∀ id, reaction.Calm ⟨id, key, program⟩) (depth : Nat) :
    ∃ deeds after, run? reaction (depth + 1) actions { map := .empty } = some (deeds, after) ∧
      deeds.map (·.action) = actions ∧
      (∀ path, after.map.isDirty path = true ↔
        after.map.contains path = true ∧ LastSet deeds path) ∧
      (∀ key, after.received key = deeds.filterMap (Deed.told? key)) ∧
      ∀ broken : Listener κ → Bool, ∃ others last,
        run? (reaction.breaking broken) (depth + 1) actions { map := .empty } =
          some (others, last) ∧
        last.map = after.map ∧ others.map (·.answer) = deeds.map (·.answer) ∧
        ∀ key, last.received key = after.received key := by
  have none : ∀ reaction : Reaction κ, ∀ listener ∈ ({ map := .empty } : Workspace κ).listeners,
      reaction.Calm listener := by simp
  obtain ⟨deeds, after, ran, recorded, same⟩ := run?_calm depth (none reaction) calm
  refine ⟨deeds, after, ran, same, fun path => ?_, fun key => ?_, fun broken => ?_⟩
  · have dirty : after.map.isDirty path = true ↔ LastSet deeds path := by
      rw [recorded.isDirty_iff .empty]
      simp [BufferMap.isDirty, BufferMap.find?, BufferMap.empty]
    constructor
    · intro isDirty
      exact ⟨BufferMap.contains_of_isDirty isDirty, dirty.mp isDirty⟩
    · rintro ⟨_, last⟩
      exact dirty.mpr last
  · have told : after.received key = _ := recorded.received_eq .new
    simpa [received, heard] using told
  · obtain ⟨others, last, ran', recorded', same'⟩ := run?_calm depth
      (none (reaction.breaking broken))
      fun key program member id => (calm key program member id).breaking broken
    obtain ⟨alike, answers⟩ := recorded.alike recorded' (.refl _) (same'.trans same.symm)
    refine ⟨others, last, ran', alike.map, answers, fun key => ?_⟩
    simp [received, alike.heard]

theorem received_while_subscribed :
    let a : Path := ⟨[97]⟩
    let b : Path := ⟨[98, 47]⟩
    let actions : List (Action Nat) := [.subscribe 0 [.read], .subscribe 1 [.panic, .read],
      .operate (.set a "x"), .operate (.set a "x"), .operate (.set b "y"),
      .operate (.load b "z"), .unsubscribe 0, .operate (.remove a)]
    (∀ key program, .subscribe key program ∈ actions →
      ∀ id, Reaction.registered.Calm ⟨id, key, program⟩) ∧
    ∃ deeds after, run? .registered 1 actions { map := .empty } = some (deeds, after) ∧
      after.received 0 = [a, b] ∧ after.received 1 = [a, b, a] ∧ ¬ LastSet deeds b := by
  intro a b actions
  have calm : ∀ key program, .subscribe key program ∈ actions →
      ∀ id, Reaction.registered.Calm ⟨id, key, program⟩ := by
    intro key program member id
    simp only [actions, List.mem_cons, Action.subscribe.injEq, reduceCtorEq, List.not_mem_nil,
      or_false] at member
    rcases member with ⟨rfl, rfl⟩ | ⟨rfl, rfl⟩ <;>
      simp [Reaction.Calm, Reaction.registered, Instruction.looks]
  refine ⟨calm, ?_⟩
  obtain ⟨deeds, after, ran, _, dirty, received, _⟩ := dirty_and_received_by_history calm 0
  refine ⟨deeds, after, ran, ?_, ?_, ?_⟩
  · rw [received 0]
    cases ran
    decide
  · rw [received 1]
    cases ran
    decide
  · intro last
    have contains : after.map.contains b = true := by
      cases ran
      decide
    have stillDirty := (dirty b).mpr ⟨contains, last⟩
    cases ran
    revert stillDirty
    decide

end Workspace

end LiveCompile
