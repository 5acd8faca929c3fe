import Mathlib
import LiveCompile.Pipeline.Timeline

/-! Runs of an event bus. Its handles and its receivers are used in any order. Whoever receives the
editor's events only gets the same whatever the compiler publishes and whoever else receives. -/

namespace LiveCompile

def Receiver.isEditor : Receiver → Bool
  | .all _ => false
  | .editor _ => true

namespace EventBus

/-- What is done to a bus through its handles and its receivers. -/
inductive Operation where
  | subscribe
  | subscribeEditor
  | emit (event : Event)
  | publish (event : Event)
  | clone
  | dropHandle
  | dropReceiver (receiver : Receiver)
  | receive (receiver : Receiver)

/-- Events of the compiler, and receptions of those who get all events. -/
def Operation.concealed : Operation → Bool
  | .emit event | .publish event => !event.isEditor
  | .receive receiver => !receiver.isEditor
  | _ => false

def perform (bus : EventBus) : Operation → EventBus
  | .subscribe => bus.subscribe.2
  | .subscribeEditor => bus.subscribeEditor.2
  | .emit event => (bus.emit event).2
  | .publish event => bus.publish event
  | .clone => bus.clone
  | .dropHandle => bus.dropHandle
  | .dropReceiver receiver => bus.dropReceiver receiver
  | .receive receiver => (bus.receive receiver).2

def after (bus : EventBus) (operations : List Operation) : EventBus := operations.foldl perform bus

def reception? (bus : EventBus) : Operation → Option (Receiver × Reception Event)
  | .receive receiver => some (receiver, (bus.receive receiver).1)
  | _ => none

/-- What receivers get in a run, in order. -/
def receptions (bus : EventBus) : List Operation → List (Receiver × Reception Event)
  | [] => []
  | operation :: rest => (bus.reception? operation).toList ++ (bus.perform operation).receptions rest

/-- What those get who receive the editor's events only. -/
def editorReceptions (bus : EventBus) (operations : List Operation) :
    List (Receiver × Reception Event) :=
  (bus.receptions operations).filter (·.1.isEditor)

theorem after_cons {bus : EventBus} {operation : Operation} {rest : List Operation} :
    bus.after (operation :: rest) = (bus.perform operation).after rest := rfl

theorem after_append {bus : EventBus} {front back : List Operation} :
    bus.after (front ++ back) = (bus.after front).after back := List.foldl_append

/-- Two buses that are the same to those who receive the editor's events only. -/
structure SameEditor (bus other : EventBus) : Prop where
  editor : other.editor = bus.editor
  handles : other.handles = bus.handles

section
variable {bus other : EventBus} {operation : Operation}

private theorem emit_compiler {event : Event} (compilers : event.isEditor = false) :
    SameEditor bus (bus.emit event).2 := by
  constructor <;> simp [emit, compilers]

theorem SameEditor.concealed (same : SameEditor bus other)
    (concealed : operation.concealed = true) : SameEditor (bus.perform operation) other := by
  have kept : SameEditor bus (bus.perform operation) := by
    cases operation with
    | emit event | publish event => exact emit_compiler (by simpa [Operation.concealed] using concealed)
    | receive receiver =>
      cases receiver with
      | all id => exact ⟨rfl, rfl⟩
      | editor id => cases concealed
    | _ => cases concealed
  exact ⟨same.editor.trans kept.editor.symm, same.handles.trans kept.handles.symm⟩

theorem SameEditor.receive (same : SameEditor bus other) (id : Nat) :
    (other.receive (.editor id)).1 = (bus.receive (.editor id)).1 := by
  simp [EventBus.receive, alive, same.editor, same.handles]

theorem SameEditor.perform (same : SameEditor bus other) (operation : Operation) :
    SameEditor (bus.perform operation) (other.perform operation) := by
  obtain ⟨editor, handles⟩ := same
  cases operation with
  | emit event | publish event =>
    cases edits : event.isEditor <;>
      constructor <;> simp [EventBus.perform, publish, emit, edits, editor, handles]
  | dropReceiver receiver | receive receiver =>
    cases receiver <;> constructor <;>
      simp [EventBus.perform, dropReceiver, EventBus.receive, alive, editor, handles]
  | subscribe | subscribeEditor | clone | dropHandle =>
    constructor <;>
      simp [EventBus.perform, EventBus.subscribe, EventBus.subscribeEditor, EventBus.clone,
        EventBus.dropHandle, editor, handles]

theorem SameEditor.reception? (same : SameEditor bus other) (operation : Operation) :
    (other.reception? operation).toList.filter (·.1.isEditor) =
      (bus.reception? operation).toList.filter (·.1.isEditor) := by
  cases operation with
  | receive receiver =>
    cases receiver with
    | all id => rfl
    | editor id => simp [EventBus.reception?, same.receive id]
  | _ => rfl

private theorem reception?_concealed (concealed : operation.concealed = true) :
    (bus.reception? operation).toList.filter (·.1.isEditor) = [] := by
  cases operation with
  | receive receiver =>
    cases receiver with
    | all id => rfl
    | editor id => cases concealed
  | _ => rfl

/-- What is concealed may as well be left out. -/
theorem SameEditor.left_out (same : SameEditor bus other) (operations : List Operation) :
    SameEditor (bus.after operations) (other.after (operations.filter (!·.concealed))) ∧
      other.editorReceptions (operations.filter (!·.concealed)) =
        bus.editorReceptions operations := by
  -- the shorter run stands still at what is concealed, and goes along at everything else
  induction operations generalizing bus other with
  | nil => exact ⟨same, rfl⟩
  | cons operation rest ih =>
    cases concealed : operation.concealed with
    | true =>
      obtain ⟨reached, heard⟩ := ih (same.concealed concealed)
      rw [List.filter_cons_of_neg (by simp [concealed])]
      refine ⟨reached, heard.trans ?_⟩
      simp [editorReceptions, receptions, List.filter_append, reception?_concealed concealed]
    | false =>
      obtain ⟨reached, heard⟩ := ih (same.perform operation)
      rw [List.filter_cons_of_pos (by simp [concealed])]
      refine ⟨reached, ?_⟩
      simp only [editorReceptions, receptions, List.filter_append, same.reception? operation] at heard ⊢
      rw [heard]

end

/-- Traffic of the compiler does not show to those who receive the editor's events only. Take two
runs of a bus, of any capacity and in any state, that differ in events of the compiler and in
receptions of all events. In both every receiver of the editor's events gets the same in each of its
receptions, and so does a pipeline that receives next: it misses nothing in one run that it does not
miss in the other. -/
theorem compiler_traffic_concealed (bus : EventBus) (left right : List Operation)
    (alike : left.filter (!·.concealed) = right.filter (!·.concealed)) :
    bus.editorReceptions left = bus.editorReceptions right ∧
      ∀ (line : Pipeline.Timeline) (id : Nat), line.editor = .editor id →
        (Pipeline.Timeline.busWake? { line with bus := bus.after left }).map Prod.fst =
          (Pipeline.Timeline.busWake? { line with bus := bus.after right }).map Prod.fst := by
  have same : SameEditor bus bus := ⟨rfl, rfl⟩
  obtain ⟨first, heard⟩ := same.left_out left
  obtain ⟨second, told⟩ := same.left_out right
  rw [alike] at first heard
  refine ⟨heard.symm.trans told, fun line id own => ?_⟩
  have ends : SameEditor (bus.after left) (bus.after right) :=
    ⟨second.editor.symm.trans first.editor, second.handles.symm.trans first.handles⟩
  have received := ends.receive id
  simp only [Pipeline.Timeline.busWake?, own]
  cases line.actor.listening with
  | false => rfl
  | true =>
    generalize (bus.after left).receive (.editor id) = one at received ⊢
    generalize (bus.after right).receive (.editor id) = other at received ⊢
    obtain ⟨reception, _⟩ := one
    obtain ⟨_, _⟩ := other
    cases received
    cases reception <;> rfl

/-- A burst that makes a receiver of all events miss the event of the editor. -/
theorem compiler_traffic_concealed_burst :
    let bus : EventBus := ⟨⟨1, 0, [], [], 0⟩, ⟨1, 0, [], [], 0⟩, 1, 1⟩
    let shown : Event := .activeFileChanged ⟨[97]⟩
    let quiet : List Operation :=
      [.subscribe, .subscribeEditor, .publish shown, .receive (.editor 0), .receive (.editor 0)]
    let busy : List Operation :=
      [.subscribe, .subscribeEditor, .publish shown, .emit (.compilerStarted 1 0 1),
        .publish (.compilerError 1 ""), .receive (.all 0), .receive (.editor 0), .receive (.all 0),
        .receive (.editor 0)]
    quiet.filter (!·.concealed) = busy.filter (!·.concealed) ∧
      bus.receptions busy = [(.all 0, .lagged 2), (.editor 0, .event shown),
        (.all 0, .event (.compilerError 1 "")), (.editor 0, .empty)] ∧
      bus.editorReceptions busy = [(.editor 0, .event shown), (.editor 0, .empty)] := by
  intro bus shown quiet busy
  have alike : quiet.filter (!·.concealed) = busy.filter (!·.concealed) := rfl
  refine ⟨alike, by cbv, ?_⟩
  rw [← (compiler_traffic_concealed bus quiet busy alike).1]
  cbv

end EventBus

end LiveCompile
