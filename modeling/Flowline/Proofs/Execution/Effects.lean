import Flowline.Proofs.Execution.Actions

set_option autoImplicit false

namespace Flowline

open Chart (ComponentId Component)

def Fault.Ordinary (fault : Fault) : Prop := ∀ id, fault ≠ .unknownComponent id

theorem ordinary_of_labels (fault : Fault) (known : fault.ofLabels = true) : fault.Ordinary := by
  intro id same
  subst same
  cases known

structure Calm {α : Type} (action : Action α) : Prop where
  depth : Respects SameDepth action
  faults : Raises Fault.Ordinary action

theorem calm_closed : Closed Calm := by
  have depth := same_depth_order.closed
  have faults := raises_closed Fault.Ordinary ordinary_of_labels
  exact {
    observe := fun view sane => ⟨depth.observe view sane, faults.observe view sane⟩
    allocate := fun storage => ⟨depth.allocate storage, faults.allocate storage⟩
    sequence := fun first next before after =>
      ⟨depth.sequence first next before.depth fun value => (after value).depth,
        faults.sequence first next before.faults fun value => (after value).faults⟩
    set := fun name value => ⟨depth.set name value, faults.set name value⟩
    write := fun ref indices value => ⟨depth.write ref indices value, faults.write ref indices value⟩
    draw := fun function args => ⟨depth.draw function args, faults.draw function args⟩ }

theorem share_variable_calm (name : String) : Calm (Action.shareVariable name) where
  depth := share_variable_depth name
  faults := fun _ _ failed => nomatch failed

def Action.Yields {α : Type} (action : Action α) (store : Store) (good : α → Store → Prop)
    (bad : Fault → Store → Prop) : Prop :=
  match action store with
  | (.ok value, after) => good value after
  | (.error fault, after) => bad fault after

namespace Action

variable {α β : Type} {good : β → Store → Prop} {bad : Fault → Store → Prop}

theorem yields_bind (first : Action α) (next : α → Action β) (store : Store)
    (middle : first.Yields store (fun value after => (next value).Yields after good bad) bad) :
    (first >>= next).Yields store good bad := by
  simp only [Yields] at middle ⊢
  rw [run_bind]
  rcases result : first store with ⟨outcome, after⟩
  rw [result] at middle
  cases outcome with
  | ok value => exact middle
  | error fault => exact middle

theorem yields_ok {action : Action β} {store after : Store} {value : β} (holds : action.Yields store good bad)
    (result : action store = (.ok value, after)) : good value after := by
  unfold Yields at holds
  rw [result] at holds
  exact holds

theorem yields_error {action : Action β} {store after : Store} {fault : Fault} (holds : action.Yields store good bad)
    (result : action store = (.error fault, after)) : bad fault after := by
  unfold Yields at holds
  rw [result] at holds
  exact holds

theorem yields_imp {bad' : Fault → Store → Prop} {good' : β → Store → Prop} (action : Action β) (store : Store)
    (holds : action.Yields store good bad) (right : ∀ value after, good value after → good' value after)
    (wrong : ∀ fault after, bad fault after → bad' fault after) : action.Yields store good' bad' := by
  simp only [Yields] at holds ⊢
  split at holds
  · exact right _ _ holds
  · exact wrong _ _ holds

def Aborts (origin : Store) (fault : Fault) (after : Store) : Prop := fault.Ordinary ∧ SameDepth origin after

theorem calm_yields (action : Action α) (origin store : Store) (calm : Calm action)
    (same : SameDepth origin store) :
    action.Yields store (fun _ after => SameDepth origin after) (Aborts origin) := by
  have kept := calm.depth store
  have faults := calm.faults store
  simp only [Yields]
  rcases result : action store with ⟨outcome, after⟩
  rw [result] at kept faults
  cases outcome with
  | ok value => exact kept.trans same
  | error fault => exact ⟨faults fault rfl, kept.trans same⟩

theorem yields_calm (first : Action α) (next : α → Action β) (origin store : Store) (calm : Calm first)
    (same : SameDepth origin store)
    (rest : ∀ value after, SameDepth origin after → (next value).Yields after good (Aborts origin)) :
    (first >>= next).Yields store good (Aborts origin) :=
  yields_bind first next store
    (yields_imp first store (calm_yields first origin store calm same) rest fun _ _ aborted => aborted)

theorem yields_fail (fault : Fault) (origin store : Store) (ordinary : fault.Ordinary)
    (same : SameDepth origin store) : (fail fault : Action β).Yields store good (Aborts origin) := ⟨ordinary, same⟩

theorem open_scope_yields (program : Program) (name : String) (args : List Label.Expr) (root : Component)
    (origin store : Store) (same : SameDepth origin store) :
    (openScope program name args root).Yields store
      (fun ownScope after => after.env.depth = origin.env.depth + ownScope.toNat) (Aborts origin) := by
  unfold openScope
  split
  · refine yields_calm _ _ origin store (calm_closed.parsed_holds _) same fun header parsed same => ?_
    split
    · exact yields_fail _ origin parsed (fun id same => nomatch same) same
    · have calm := (calm_closed.performed program).bind_params_holds share_variable_calm ∅ (header.params.zip args)
        fun _ _ => trivial
      refine yields_calm _ _ origin parsed calm same fun scope after same => ?_
      change (after.env.push scope).depth = origin.env.depth + 1
      rw [Environment.depth_push, same]
  · split
    · exact same
    · exact yields_fail _ origin store (fun id same => nomatch same) same

def Entered (program : Program) (settings : Settings) (depth : Nat) (before : Store) (place : Nat)
    (start : ComponentId) (ownScope : Bool) (after : Store) : Prop :=
  depth < settings.maxCallDepth ∧ (∃ root, program.start? place = some (start, root)) ∧
    after.env.depth = before.env.depth + ownScope.toNat

theorem enter_call_yields (program : Program) (settings : Settings) (depth : Nat) (label : String)
    (store : Store) :
    (enterCall program settings depth label).Yields store
      (fun entered after => Entered program settings depth store entered.1 entered.2.1 entered.2.2 after)
      (Aborts store) := by
  unfold enterCall
  refine yields_calm _ _ store store (calm_closed.parsed_holds _) rfl fun call parsed same => ?_
  dsimp only
  cases program.registry.subchart? call.1 with
  | none => exact yields_fail _ store parsed (fun id same => nomatch same) same
  | some place =>
      dsimp only
      by_cases deep : settings.maxCallDepth ≤ depth
      · rw [if_pos deep]
        exact yields_fail _ store parsed (fun id same => nomatch same) same
      · rw [if_neg deep]
        cases started : program.start? place with
        | none => exact yields_fail _ store parsed (fun id same => nomatch same) same
        | some found =>
            refine yields_bind _ _ parsed ?_
            exact yields_imp _ parsed (open_scope_yields program call.1 call.2 found.2 store parsed same)
              (fun ownScope after opened => ⟨Nat.lt_of_not_le deep, ⟨found.2, started⟩, opened⟩)
              fun _ _ aborted => aborted

end Action

namespace Execution

def Move.Fits (program : Program) (settings : Settings) (id : ComponentId) (component : Component)
    (depth : Nat) (before after : Store) : Move → Prop
  | .go next => (∀ link, next = some link → link ∈ component.links) ∧ SameDepth before after
  | .into frame next =>
      (frame = .decision component.successor ∨ ∃ phase, frame = .loop id phase) ∧
        (∀ link, next = some link → link ∈ component.links) ∧ SameDepth before after
  | .enter place start ownScope => Action.Entered program settings depth before place start ownScope after
  | .show _ | .ask _ _ => SameDepth before after

theorem successor_follows (component : Component) (link : ComponentId)
    (next : component.successor = some link) : link ∈ component.links := by
  rw [Component.links, next]
  exact List.mem_append_right _ List.mem_cons_self

theorem child_follows (component : Component) (first second : Option ComponentId)
    (role : component.role = .decision first second ∨ component.role = .loop first second) (link : ComponentId)
    (next : first = some link ∨ second = some link) : link ∈ component.links := by
  have children : component.children = first.toList ++ second.toList := by
    unfold Component.children
    rcases role with role | role <;> rw [role]
  rw [Component.links, children]
  refine List.mem_append_left _ ?_
  rcases next with next | next <;> simp [next]

theorem move_of_yields (program : Program) (settings : Settings) (id : ComponentId) (component : Component)
    (depth : Nat) (phase : Option Phase) (store : Store) :
    (moveOf program settings id component depth phase).Yields store
      (fun move after => move.Fits program settings id component depth store after) (Action.Aborts store) := by
  have onward := successor_follows component
  have performed := calm_closed.performed program
  cases role : component.role with
  | terminal =>
      simp only [moveOf, role]
      exact Action.yields_calm _ _ store store (calm_closed.pass_terminal_holds _) rfl fun _ after same => ⟨onward, same⟩
  | entry =>
      simp only [moveOf, role]
      exact ⟨onward, rfl⟩
  | assignment =>
      simp only [moveOf, role]
      exact Action.yields_calm _ _ store store (performed.perform_holds _ trivial) rfl fun _ after same => ⟨onward, same⟩
  | call =>
      simp only [moveOf, role]
      exact Action.yields_bind _ _ store (Action.enter_call_yields program settings depth component.label store)
  | decision yes no =>
      simp only [moveOf, role]
      refine Action.yields_calm _ _ store store (performed.test_holds _ trivial) rfl fun holds after same => ?_
      refine ⟨Or.inl rfl, fun link next => child_follows component yes no (.inl role) link ?_, same⟩
      cases holds with
      | true => exact Or.inl next
      | false => exact Or.inr next
  | loop before after =>
      have opening : Move.Fits program settings id component depth store store (.into (.loop id .test) before) :=
        ⟨Or.inr ⟨.test, rfl⟩, fun link next => child_follows component before after (.inr role) link (Or.inl next), rfl⟩
      simp only [moveOf, role]
      cases phase with
      | none => exact opening
      | some phase =>
          cases phase with
          | again => exact opening
          | test =>
              refine Action.yields_calm _ _ store store (performed.test_holds _ trivial) rfl fun holds tested same => ?_
              cases holds with
              | true => exact ⟨onward, same⟩
              | false =>
                  exact ⟨Or.inr ⟨.again, rfl⟩,
                    fun link next => child_follows component before after (.inr role) link (Or.inr next), same⟩
  | output prompt =>
      simp only [moveOf, role]
      exact Action.yields_calm _ _ store store (performed.text_of_holds _ trivial) rfl fun _ after same => same
  | input prompt =>
      simp only [moveOf, role]
      refine Action.yields_calm _ _ store store (calm_closed.parsed_holds _) rfl fun target parsed same => ?_
      exact Action.yields_calm _ _ store parsed (performed.prompt_of_holds prompt trivial) same fun text after same => same

end Execution

end Flowline
