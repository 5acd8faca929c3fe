import LiveCompile.Proofs.ListenerRun

/-! What happens while listeners are notified, moment by moment. Reactions may use the map,
register listeners and drop guards, so notifications nest in each other. Every notification
calls the listeners that were registered when it started, whatever they do meanwhile. -/

namespace LiveCompile

/-- What happens while listeners are notified. -/
inductive Moment (κ : Type) where
  /-- a notification starts -/
  | told (path : Path)
  | called (listener : Listener κ) (path : Path)
  /-- a reaction takes its next instruction -/
  | took (instruction : Instruction κ)
  /-- a reaction is over -/
  | left
  /-- a notification is over -/
  | done

/-- A moment and what there is just before. -/
structure Scene (κ : Type) where
  moment : Moment κ
  space : Workspace κ

inductive Task (κ : Type) where
  | notify (path : Path)
  | call (path : Path) (listeners : List (Listener κ))
  | react (key : κ) (path : Path) (program : List (Instruction κ))

namespace Workspace

variable {κ : Type} [DecidableEq κ]

/-- What an instruction does before listeners are told about it. -/
def begun (space : Workspace κ) : Instruction κ → Workspace κ
  | .operate operation => { space with map := (space.map.apply operation).map }
  | .subscribe other => space.subscribe other []
  | .unsubscribe other => space.unsubscribe other
  | .read | .ask _ | .panic => space

/-- The path that listeners are told about. -/
def notified? (space : Workspace κ) : Instruction κ → Option Path
  | .operate operation => (space.map.apply operation).notified
  | _ => none

/-- What an instruction lets be seen when it is through. -/
def seen (space : Workspace κ) (key : κ) (path : Path) : Instruction κ → List (Observation κ)
  | .read => [.read key (space.map.get? path)]
  | .operate operation => [.changed key (space.map.apply operation).changed]
  | .ask query => [.answered key query space.map space.listeners.length]
  | .subscribe _ | .unsubscribe _ | .panic => []

def noted (space : Workspace κ) (observations : List (Observation κ)) : Workspace κ :=
  { space with observations := space.observations ++ observations }

omit [DecidableEq κ] in
@[simp] theorem noted_nil (space : Workspace κ) : space.noted [] = space := by
  simp [noted]

theorem react_cons {notify : Path → Workspace κ → Option (Workspace κ)} {key : κ} {path : Path}
    {instruction : Instruction κ} {rest : List (Instruction κ)} {space : Workspace κ}
    (calm : instruction ≠ .panic) :
    react notify key path (instruction :: rest) space =
      (match space.notified? instruction with
        | none => some (space.begun instruction)
        | some changed => notify changed (space.begun instruction)).bind fun next =>
          react notify key path rest (next.noted (space.seen key path instruction)) := by
  cases instruction with
  | operate operation =>
    simp only [react, operateWith, notified?, begun, Option.bind_eq_bind]
    cases (space.map.apply operation).notified with
    | none => rfl
    | some changed =>
      rw [Option.bind_map]
      rfl
  | subscribe | unsubscribe => simp [react, notified?, begun, seen]
  | read | ask => rfl
  | panic => exact absurd rfl calm

omit [DecidableEq κ] in
private theorem calm_of_notified {space : Workspace κ} {instruction : Instruction κ}
    {changed : Path}
    (told : space.notified? instruction = some changed) : instruction ≠ .panic := by
  rintro rfl
  cases told

theorem Guarded.begun {space : Workspace κ} (guarded : space.Guarded) (instruction : Instruction κ) :
    (space.begun instruction).Guarded := by
  cases instruction with
  | subscribe other => exact guarded.subscribe other []
  | unsubscribe other => exact guarded.unsubscribe other
  | operate => exact guarded.congr rfl rfl rfl
  | read | ask | panic => exact guarded

private theorem heard_begun {space : Workspace κ} {instruction : Instruction κ} :
    (space.begun instruction).heard = space.heard := by
  cases instruction with
  | subscribe other => exact heard_subscribe space other []
  | unsubscribe other => exact heard_unsubscribe space other
  | _ => rfl

omit [DecidableEq κ] in
private theorem heard_noted {space : Workspace κ} {key : κ} {path : Path}
    {instruction : Instruction κ}
    {next : Workspace κ} : (next.noted (space.seen key path instruction)).heard = next.heard := by
  cases instruction <;> simp [heard, noted, seen, Observation.call?]

end Workspace

open Workspace

variable {κ : Type} [DecidableEq κ]

/-- What happens from a task on, and what there is at the end. -/
inductive Course (reaction : Reaction κ) :
    Task κ → Workspace κ → List (Scene κ) → Workspace κ → Prop
  | notify {path space scenes after} (calls : Course reaction (.call path space.listeners) space
      scenes after) :
    Course reaction (.notify path) space (⟨.told path, space⟩ :: scenes) after
  | served {path space} : Course reaction (.call path []) space [⟨.done, space⟩] space
  | call {path listener rest space next after scenes later}
      (reacts : Course reaction (.react listener.key path (reaction space listener path))
        (space.observe (.called listener.key path)) scenes next)
      (goesOn : Course reaction (.call path rest) next later after) :
    Course reaction (.call path (listener :: rest)) space
      (⟨.called listener path, space⟩ :: scenes ++ later) after
  | ended {key path space} : Course reaction (.react key path []) space [⟨.left, space⟩] space
  | panic {key path rest space} : Course reaction (.react key path (.panic :: rest)) space
      [⟨.took .panic, space⟩, ⟨.left, space⟩] space
  | quiet {key path instruction rest space scenes after} (calm : instruction ≠ .panic)
      (untold : space.notified? instruction = none)
      (goesOn : Course reaction (.react key path rest)
        ((space.begun instruction).noted (space.seen key path instruction)) scenes after) :
    Course reaction (.react key path (instruction :: rest)) space
      (⟨.took instruction, space⟩ :: scenes) after
  | change {key path instruction rest space changed next after scenes later}
      (told : space.notified? instruction = some changed)
      (notifies : Course reaction (.notify changed) (space.begun instruction) scenes next)
      (goesOn : Course reaction (.react key path rest)
        (next.noted (space.seen key path instruction)) later after) :
    Course reaction (.react key path (instruction :: rest)) space
      (⟨.took instruction, space⟩ :: scenes ++ later) after

def Scene.call? (scene : Scene κ) : Option (κ × Path) :=
  match scene.moment with
  | .called listener path => some (listener.key, path)
  | _ => none

/-- The path that listeners are told about at a moment, and what there is by then. -/
def Scene.told? (scene : Scene κ) : Option (Path × Workspace κ) :=
  match scene.moment with
  | .told path => some (path, scene.space)
  | _ => none

/-- The path that listeners are to be told about next, and what there is by then. -/
def Scene.tells? (scene : Scene κ) : Option (Path × Workspace κ) :=
  match scene.moment with
  | .took instruction => (scene.space.notified? instruction).map (·, scene.space.begun instruction)
  | _ => none

/-- The scenes of a notification itself, up to its end, without those of the notifications that
are nested in it. None if there is no end. -/
def outline : Nat → List (Scene κ) → Option (List (Scene κ))
  | _, [] => none
  | depth, scene :: rest =>
    match scene.moment, depth with
    | .told _, depth => outline (depth + 1) rest
    | .done, 0 => some []
    | .done, depth + 1 => outline depth rest
    | _, 0 => (outline 0 rest).map (scene :: ·)
    | _, depth + 1 => outline (depth + 1) rest

/-- What a reaction gets to: its whole program, or up to where it panics. -/
def carried : List (Instruction κ) → List (Instruction κ)
  | [] => []
  | .panic :: _ => [.panic]
  | instruction :: rest => instruction :: carried rest

/-- A listener is called and reacts as it does at that time. -/
def Served (reaction : Reaction κ) (path : Path) (listener : Listener κ)
    (scenes : List (Scene κ)) : Prop :=
  ∃ found taken last, scenes = ⟨.called listener path, found⟩ :: taken ++ [⟨.left, last⟩] ∧
    taken.map (·.moment) = (carried (reaction found listener path)).map .took

/-- A notification calls its listeners in turn, each once, and comes to its end. -/
def Complete (reaction : Reaction κ) (path : Path) (listeners : List (Listener κ))
    (rest : List (Scene κ)) : Prop :=
  ∃ served, outline 0 rest = some served.flatten ∧
    List.Forall₂ (Served reaction path) listeners served

/-- What follows a scene: an instruction that changes something is followed at once by a
notification, which calls all listeners that are there when it starts. -/
def Followed (reaction : Reaction κ) (scene : Scene κ) (rest : List (Scene κ)) : Prop :=
  rest.head?.bind Scene.told? = scene.tells? ∧
    ∀ path, scene.moment = .told path → Complete reaction path scene.space.listeners rest

def Throughout (holds : Scene κ → List (Scene κ) → Prop) : List (Scene κ) → Prop
  | [] => True
  | scene :: rest => holds scene rest ∧ Throughout holds rest

omit [DecidableEq κ] in
theorem carried_cons {instruction : Instruction κ} {rest : List (Instruction κ)}
    (calm : instruction ≠ .panic) :
    carried (instruction :: rest) = instruction :: carried rest := by
  cases instruction with
  | panic => exact absurd rfl calm
  | _ => rfl

/-- The result of a task; none if notifications nest deeper than the bound. -/
def Task.run? (reaction : Reaction κ) (depth : Nat) : Task κ → Workspace κ → Option (Workspace κ)
  | .notify path => Workspace.notify reaction depth path
  | .call path listeners => callAll reaction (Workspace.notify reaction depth) path listeners
  | .react key path program => Workspace.react (Workspace.notify reaction depth) key path program

namespace Course

variable {reaction : Reaction κ}

private theorem of_react {notify : Path → Workspace κ → Option (Workspace κ)}
    (notifies : ∀ {path space after}, notify path space = some after →
      ∃ scenes, Course reaction (.notify path) space scenes after)
    {key : κ} {path : Path} {program : List (Instruction κ)} {space after : Workspace κ}
    (reacted : react notify key path program space = some after) :
    ∃ scenes, Course reaction (.react key path program) space scenes after := by
  induction program generalizing space with
  | nil =>
    cases reacted
    exact ⟨_, .ended⟩
  | cons instruction rest ih =>
    by_cases panics : instruction = .panic
    · subst panics
      cases reacted
      exact ⟨_, .panic⟩
    · rw [react_cons panics] at reacted
      obtain ⟨next, begun, goesOn⟩ := Option.bind_eq_some_iff.mp reacted
      obtain ⟨later, goesOn⟩ := ih goesOn
      cases told : space.notified? instruction with
      | none =>
        rw [told] at begun
        cases begun
        exact ⟨_, .quiet panics told goesOn⟩
      | some changed =>
        rw [told] at begun
        obtain ⟨scenes, nested⟩ := notifies begun
        exact ⟨_, .change told nested goesOn⟩

private theorem of_callAll {notify : Path → Workspace κ → Option (Workspace κ)}
    (notifies : ∀ {path space after}, notify path space = some after →
      ∃ scenes, Course reaction (.notify path) space scenes after)
    {path : Path} {listeners : List (Listener κ)} {space after : Workspace κ}
    (called : callAll reaction notify path listeners space = some after) :
    ∃ scenes, Course reaction (.call path listeners) space scenes after := by
  induction listeners generalizing space with
  | nil =>
    cases called
    exact ⟨_, .served⟩
  | cons listener rest ih =>
    obtain ⟨next, reacted, goesOn⟩ := Option.bind_eq_some_iff.mp called
    obtain ⟨scenes, reacts⟩ := of_react notifies reacted
    obtain ⟨later, goesOn⟩ := ih goesOn
    exact ⟨_, .call reacts goesOn⟩

private theorem of_notify {depth : Nat} {path : Path} {space after : Workspace κ}
    (notified : Workspace.notify reaction depth path space = some after) :
    ∃ scenes, Course reaction (.notify path) space scenes after := by
  induction depth generalizing path space after with
  | zero => cases notified
  | succ depth ih =>
    obtain ⟨scenes, calls⟩ := of_callAll ih notified
    exact ⟨_, .notify calls⟩

/-- A task that comes to an end does so under every bound that is high enough. -/
theorem ends {task : Task κ} {space after : Workspace κ} {scenes : List (Scene κ)}
    (course : Course reaction task space scenes after) :
    ∃ enough, ∀ depth, enough ≤ depth → task.run? reaction depth space = some after := by
  induction course with
  | notify _ ih =>
    obtain ⟨enough, ends⟩ := ih
    refine ⟨enough + 1, fun depth high => ?_⟩
    obtain ⟨depth, rfl⟩ := Nat.exists_eq_add_of_le' (Nat.one_le_of_lt high)
    exact ends depth (Nat.le_of_succ_le_succ high)
  | served | ended | panic => exact ⟨0, fun _ _ => rfl⟩
  | call _ _ ih later =>
    obtain ⟨enough, ends⟩ := ih
    obtain ⟨more, others⟩ := later
    refine ⟨max enough more, fun depth high => ?_⟩
    have first := ends depth (Nat.le_trans (Nat.le_max_left ..) high)
    have second := others depth (Nat.le_trans (Nat.le_max_right ..) high)
    exact Option.bind_eq_some_iff.mpr ⟨_, first, second⟩
  | quiet calm untold _ ih =>
    obtain ⟨enough, ends⟩ := ih
    refine ⟨enough, fun depth high => ?_⟩
    rw [Task.run?, react_cons calm, untold]
    exact ends depth high
  | @change key path instruction rest space changed next after _ _ told _ _ ih later =>
    obtain ⟨enough, ends⟩ := ih
    obtain ⟨more, others⟩ := later
    refine ⟨max enough more, fun depth high => ?_⟩
    have first := ends depth (Nat.le_trans (Nat.le_max_left ..) high)
    have second := others depth (Nat.le_trans (Nat.le_max_right ..) high)
    rw [Task.run?, react_cons (calm_of_notified told), told]
    exact Option.bind_eq_some_iff.mpr ⟨_, first, second⟩

theorem exists_iff {task : Task κ} {space after : Workspace κ} :
    (∃ scenes, Course reaction task space scenes after) ↔
      ∃ depth, task.run? reaction depth space = some after := by
  constructor
  · rintro ⟨scenes, course⟩
    obtain ⟨enough, ends⟩ := course.ends
    exact ⟨enough, ends enough (Nat.le_refl _)⟩
  · rintro ⟨depth, ended⟩
    cases task with
    | notify path => exact of_notify ended
    | call path listeners => exact of_callAll of_notify ended
    | react key path program => exact of_react of_notify ended

private theorem guarded {task : Task κ} {space after : Workspace κ} {scenes : List (Scene κ)}
    (course : Course reaction task space scenes after) (start : space.Guarded) :
    (∀ scene ∈ scenes, scene.space.Guarded) ∧ after.Guarded := by
  induction course with
  | notify _ ih =>
    obtain ⟨during, last⟩ := ih start
    exact ⟨List.forall_mem_cons.mpr ⟨start, during⟩, last⟩
  | served | ended => exact ⟨by simpa using start, start⟩
  | call _ _ ih later =>
    obtain ⟨during, next⟩ := ih (start.congr rfl rfl rfl)
    obtain ⟨onwards, last⟩ := later next
    refine ⟨List.forall_mem_append.mpr ⟨?_, onwards⟩, last⟩
    exact List.forall_mem_cons.mpr ⟨start, during⟩
  | panic => exact ⟨by simpa using start, start⟩
  | quiet _ _ _ ih =>
    obtain ⟨during, last⟩ := ih ((start.begun _).congr rfl rfl rfl)
    exact ⟨List.forall_mem_cons.mpr ⟨start, during⟩, last⟩
  | change _ _ _ ih later =>
    obtain ⟨during, next⟩ := ih (start.begun _)
    obtain ⟨onwards, last⟩ := later (next.congr rfl rfl rfl)
    refine ⟨List.forall_mem_append.mpr ⟨?_, onwards⟩, last⟩
    exact List.forall_mem_cons.mpr ⟨start, during⟩

private theorem skips {task : Task κ} {space after : Workspace κ} {scenes : List (Scene κ)}
    (course : Course reaction task space scenes after) (depth : Nat) (tail : List (Scene κ)) :
    match task with
    | .notify _ => outline depth (scenes ++ tail) = outline depth tail
    | .call .. => outline (depth + 1) (scenes ++ tail) = outline depth tail
    | .react .. => outline (depth + 1) (scenes ++ tail) = outline (depth + 1) tail := by
  induction course generalizing depth tail with
  | notify _ ih => exact ih depth tail
  | served | ended | panic => rfl
  | call _ _ ih later =>
    simp only [List.cons_append, List.append_assoc, outline]
    exact (ih depth _).trans (later depth tail)
  | quiet _ _ _ ih => exact ih depth tail
  | change _ _ _ ih later =>
    simp only [List.cons_append, List.append_assoc, outline]
    exact (ih (depth + 1) _).trans (later depth tail)

private theorem outlined {task : Task κ} {space after : Workspace κ} {scenes : List (Scene κ)}
    (course : Course reaction task space scenes after) : match task with
    | .notify _ => True
    | .call path listeners => ∀ tail, ∃ served, outline 0 (scenes ++ tail) = some served.flatten ∧
        List.Forall₂ (Served reaction path) listeners served
    | .react _ _ program => ∃ taken last, taken.map (·.moment) = (carried program).map .took ∧
        ∀ tail, outline 0 (scenes ++ tail) =
          (outline 0 tail).map (taken ++ ⟨.left, last⟩ :: ·) := by
  induction course with
  | notify => trivial
  | served => exact fun tail => ⟨[], rfl, .nil⟩
  | @call path listener rest space next after scenes later _ _ ih others =>
    intro tail
    obtain ⟨taken, last, reacts, shown⟩ := ih
    obtain ⟨served, outlined, each⟩ := others tail
    refine ⟨(⟨.called listener path, space⟩ :: taken ++ [⟨.left, last⟩]) :: served, ?_,
      .cons ⟨space, taken, last, rfl, reacts⟩ each⟩
    simp only [List.cons_append, List.append_assoc, outline, shown, outlined]
    simp
  | @ended _ _ space => exact ⟨[], space, rfl, fun _ => rfl⟩
  | @panic _ _ _ space =>
    refine ⟨[⟨.took .panic, space⟩], space, rfl, fun tail => ?_⟩
    simp [outline, Function.comp_def]
  | @quiet _ _ instruction rest space _ _ calm _ _ ih =>
    obtain ⟨taken, last, reacts, shown⟩ := ih
    refine ⟨⟨.took instruction, space⟩ :: taken, last, ?_, fun tail => ?_⟩
    · rw [carried_cons calm, List.map_cons, List.map_cons, reacts]
    · simp [outline, shown, Function.comp_def]
  | @change _ _ instruction rest space _ _ _ _ _ told nested _ _ ih =>
    obtain ⟨taken, last, reacts, shown⟩ := ih
    refine ⟨⟨.took instruction, space⟩ :: taken, last, ?_, fun tail => ?_⟩
    · rw [carried_cons (calm_of_notified told), List.map_cons, List.map_cons, reacts]
    · have skipped := nested.skips 0
      simp only at skipped
      simp [outline, shown, skipped, Function.comp_def]

private theorem starts {task : Task κ} {space after : Workspace κ} {scenes : List (Scene κ)}
    (course : Course reaction task space scenes after) (tail : List (Scene κ)) :
    (scenes ++ tail).head?.bind Scene.told? =
      match task with
      | .notify path => some (path, space)
      | _ => none := by
  cases course <;> rfl

private theorem followed {task : Task κ} {space after : Workspace κ} {scenes : List (Scene κ)}
    (course : Course reaction task space scenes after) {tail : List (Scene κ)}
    (untold : tail.head?.bind Scene.told? = none) (before : Throughout (Followed reaction) tail) :
    Throughout (Followed reaction) (scenes ++ tail) := by
  -- any tail that does not start with telling, as a reaction goes on after what is nested in it
  induction course generalizing tail with
  | notify calls ih =>
    refine ⟨⟨calls.starts tail, ?_⟩, ih untold before⟩
    rintro path ⟨⟩
    exact calls.outlined tail
  | served | ended => exact ⟨⟨untold, by rintro _ ⟨⟩⟩, before⟩
  | call reacts goesOn ih later =>
    rw [List.append_assoc]
    refine ⟨⟨reacts.starts _, by rintro _ ⟨⟩⟩, ih (goesOn.starts tail) (later untold before)⟩
  | panic => exact ⟨⟨rfl, by rintro _ ⟨⟩⟩, ⟨untold, by rintro _ ⟨⟩⟩, before⟩
  | quiet calm quiet goesOn ih =>
    refine ⟨⟨(goesOn.starts tail).trans ?_, by rintro _ ⟨⟩⟩, ih untold before⟩
    simp [Scene.tells?, quiet]
  | change told nested goesOn ih later =>
    rw [List.append_assoc]
    refine ⟨⟨(nested.starts _).trans ?_, by rintro _ ⟨⟩⟩,
      ih (goesOn.starts tail) (later untold before)⟩
    simp [Scene.tells?, told]

private theorem heard {task : Task κ} {space after : Workspace κ} {scenes : List (Scene κ)}
    (course : Course reaction task space scenes after) :
    after.heard = space.heard ++ scenes.filterMap Scene.call? := by
  induction course with
  | notify _ ih => exact ih
  | served | ended | panic => simp [Scene.call?]
  | call _ _ ih later =>
    rw [later, ih, heard_observe]
    simp [Scene.call?, Observation.call?]
  | quiet _ _ _ ih =>
    rw [ih, heard_noted, heard_begun]
    simp [List.filterMap_cons, Scene.call?]
  | change _ _ _ ih later =>
    rw [later, heard_noted, ih, heard_begun]
    simp [List.filterMap_cons, Scene.call?]

end Course

omit [DecidableEq κ] in
theorem Throughout.split {holds : Scene κ → List (Scene κ) → Prop} {scene : Scene κ}
    {front back : List (Scene κ)} (throughout : Throughout holds (front ++ scene :: back)) :
    holds scene back := by
  induction front with
  | nil => exact throughout.1
  | cons first front ih => exact ih throughout.2

namespace Workspace

theorem Guarded.act? {reaction : Reaction κ} {depth : Nat} {space next : Workspace κ}
    {action : Action κ} {answer : Option Bool} (guarded : space.Guarded)
    (acted : space.act? reaction depth action = some (answer, next)) : next.Guarded := by
  cases action with
  | subscribe key program =>
    cases acted
    exact guarded.subscribe key program
  | unsubscribe key =>
    cases acted
    exact guarded.unsubscribe key
  | operate operation =>
    simp only [Workspace.act?, operateWith] at acted
    split at acted
    · cases acted
      exact guarded.congr rfl rfl rfl
    · obtain ⟨_, notified, ⟨⟩⟩ := Option.map_eq_some_iff.mp acted
      obtain ⟨scenes, course⟩ := Course.of_notify notified
      exact (course.guarded (guarded.congr rfl rfl rfl)).2

theorem Guarded.run? {reaction : Reaction κ} {depth : Nat} {actions : List (Action κ)}
    {space after : Workspace κ} {deeds : List (Deed κ)} (guarded : space.Guarded)
    (ran : run? reaction depth actions space = some (deeds, after)) : after.Guarded := by
  induction actions generalizing space deeds with
  | nil =>
    cases ran
    exact guarded
  | cons action rest ih =>
    obtain ⟨answer, next, later, acted, ran, _⟩ := run?_cons_eq_some.mp ran
    exact ih (guarded.act? acted) ran

private theorem notified_of_operateWith {notify : Path → Workspace κ → Option (Workspace κ)}
    {space after : Workspace κ} {operation : BufferMap.Operation} {path : Path}
    (target : operation.target? = some path)
    (ended : space.operateWith notify operation = some (some true, after)) :
    notify path (space.begun (.operate operation)) = some after := by
  have told := BufferMap.apply_notified space.map operation
  simp only [operateWith] at ended
  by_cases changed : (space.map.apply operation).changed = some true
  · rw [if_pos changed, target] at told
    rw [told, changed] at ended
    obtain ⟨_, notified, ⟨⟩⟩ := Option.map_eq_some_iff.mp ended
    exact notified
  · rw [if_neg changed] at told
    rw [told] at ended
    exact absurd (congrArg Prod.fst (Option.some.inj ended)) changed

/-- A `set` or `remove` that changes something and whose notification ends, in any map that came
about by a run. Whatever listeners do when they are called, the notification calls those that
were registered when it started, in turn and each once, and so does every notification of a
change that a listener makes, before that listener goes on. At every moment the listeners are
those whose guards are alive, and to drop a guard removes its own listener. -/
theorem notification_complete {reaction : Reaction κ} {before depth : Nat}
    {actions : List (Action κ)} {deeds : List (Deed κ)} {space after : Workspace κ}
    {operation : BufferMap.Operation} {path : Path}
    (reached : run? reaction before actions { map := .empty } = some (deeds, space))
    (target : operation.target? = some path)
    (ended : space.operateWith (notify reaction depth) operation = some (some true, after)) :
    ∃ scenes, Course reaction (.notify path) (space.begun (.operate operation)) scenes after ∧
      after.heard = space.heard ++ scenes.filterMap Scene.call? ∧
      (∀ front scene back, scenes = front ++ scene :: back → Followed reaction scene back) ∧
      ∀ now ∈ space :: after :: scenes.map (·.space), now.Guarded ∧
        ∀ key id, now.guard? key = some id →
          ∃ front listener back, now.listeners = front ++ listener :: back ∧
            listener.key = key ∧ listener.id = id ∧
            (now.unsubscribe key).listeners = front ++ back := by
  have start : space.Guarded := Guarded.new.run? reached
  obtain ⟨scenes, course⟩ := Course.of_notify (notified_of_operateWith target ended)
  obtain ⟨during, last⟩ := course.guarded (start.begun (.operate operation))
  have throughout : Throughout (Followed reaction) (scenes ++ []) := course.followed rfl trivial
  rw [List.append_nil] at throughout
  refine ⟨scenes, course, ?_, ?_, ?_⟩
  · rw [course.heard]
    rfl
  · rintro front scene back rfl
    exact throughout.split
  · intro now there
    have guarded : now.Guarded := by
      rcases List.mem_cons.mp there with rfl | there
      · exact start
      rcases List.mem_cons.mp there with rfl | there
      · exact last
      obtain ⟨scene, inside, rfl⟩ := List.mem_map.mp there
      exact during scene inside
    exact ⟨guarded, fun key id held => guarded.drops held⟩

/-- A listener that changes the map and drops its own guard, and one that panics. -/
theorem notification_complete_nested :
    let a : Path := ⟨[97]⟩
    let b : Path := ⟨[98]⟩
    let actions : List (Action Nat) := [.subscribe 0 [.operate (.set b "y"), .unsubscribe 0],
      .subscribe 1 [.panic, .read]]
    ∃ (deeds : List (Deed Nat)) (space after : Workspace Nat) (scenes : List (Scene Nat)),
      run? .registered 2 actions { map := .empty } = some (deeds, space) ∧
      (BufferMap.Operation.set a "x").target? = some a ∧
      space.operateWith (notify .registered 2) (.set a "x") = some (some true, after) ∧
      Course .registered (.notify a) (space.begun (.operate (.set a "x"))) scenes after ∧
      scenes.filterMap Scene.call? = [(0, a), (0, b), (1, b), (1, a)] := by
  intro a b actions
  obtain ⟨deeds, space, after, reached, ended, silent, calls⟩ :
      ∃ (deeds : List (Deed Nat)) (space after : Workspace Nat),
        run? .registered 2 actions { map := .empty } = some (deeds, space) ∧
        space.operateWith (notify .registered 2) (.set a "x") = some (some true, after) ∧
        space.heard = [] ∧ after.heard = [(0, a), (0, b), (1, b), (1, a)] :=
    ⟨_, _, _, rfl, rfl, rfl, rfl⟩
  obtain ⟨scenes, course, heard, _⟩ := notification_complete reached rfl ended
  rw [silent, calls] at heard
  exact ⟨deeds, space, after, scenes, reached, rfl, ended, course, heard.symm⟩

end Workspace

end LiveCompile
