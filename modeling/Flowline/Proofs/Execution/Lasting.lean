import Flowline.Proofs.Execution.Closing
import Flowline.Proofs.Execution.Soundness

set_option autoImplicit false

namespace Flowline

open Chart (ComponentId Component)

namespace Execution

theorem bind_param_cases (registry : Registry) (param : Label.Param) (arg : Label.Expr) :
    (param.mode = .value ∧ bindParam registry param arg = (do
      let value ← evaluate registry arg
      return .own value)) ∨
    (param.mode ≠ .value ∧ ∃ name, arg = .var name ∧ bindParam registry param arg = Action.shareVariable name) ∨
    bindParam registry param arg = Action.fail (.refArgNotVariable param.name) := by
  cases mode : param.mode with
  | value =>
      refine Or.inl ⟨rfl, ?_⟩
      simp only [bindParam, mode]
  | _ =>
      refine Or.inr ?_
      cases arg with
      | var name =>
          refine Or.inl ⟨by decide, name, rfl, ?_⟩
          simp only [bindParam, mode]
      | _ =>
          refine Or.inr ?_
          simp only [bindParam, mode]

section Lasting

-- `fits` is what a property asks of the bindings that new scopes are made of.
variable (holds : Environment → Prop) (fits : Environment → Binding → Prop)

def Leads (before after : Environment) : Prop :=
  holds before → holds after ∧ ∀ binding, fits before binding → fits after binding

structure Lasting : Prop where
  owns : ∀ env value, fits env (.own value)
  sets : ∀ (env : Environment) name value, Leads holds fits env (env.set name value)
  shares : ∀ (env : Environment) name, Leads holds fits env (env.share name).2
  shared : ∀ (env : Environment) name, holds env → fits (env.share name).2 (env.share name).1
  pushes : ∀ (env : Environment) (scope : Scope), holds env →
    (∀ name binding, scope.get? name = some binding → fits env binding) → holds (env.push scope)

variable {holds : Environment → Prop} {fits : Environment → Binding → Prop}

theorem leads_refl (env : Environment) : Leads holds fits env env := fun held => ⟨held, fun _ fit => fit⟩

theorem leads_trans (a b c : Environment) (first : Leads holds fits a b) (second : Leads holds fits b c) :
    Leads holds fits a c := by
  intro held
  obtain ⟨between, before⟩ := first held
  obtain ⟨last, after⟩ := second between
  exact ⟨last, fun binding fit => after binding (before binding fit)⟩

theorem leads_order (lasting : Lasting holds fits) :
    StoreOrder fun before after => Leads holds fits before.env after.env where
  refl := fun store => leads_refl store.env
  trans := fun a b c => leads_trans a.env b.env c.env
  allocates := fun store _ => leads_refl store.env
  writes := fun store _ _ _ => leads_refl store.env
  sets := fun store name value => lasting.sets store.env name value
  draws := fun store _ => leads_refl store.env

def BindsFitting (holds : Environment → Prop) (fits : Environment → Binding → Prop) (action : Action Binding) : Prop :=
  ∀ store after outcome, holds store.env → action store = (outcome, after) →
    Leads holds fits store.env after.env ∧ ∀ binding, outcome = .ok binding → fits after.env binding

theorem bind_param_fits (lasting : Lasting holds fits) (registry : Registry) (param : Label.Param)
    (arg : Label.Expr) : BindsFitting holds fits (bindParam registry param arg) := by
  intro store after outcome held bound
  rcases bind_param_cases registry param arg with ⟨_, passed⟩ | ⟨_, name, _, passed⟩ | passed
  · have kept := ((leads_order lasting).closed.walked registry).evaluate_holds arg trivial store
    rw [passed, run_bind] at bound
    rcases result : evaluate registry arg store with ⟨evaluated, reached⟩
    rw [result] at kept bound
    cases evaluated with
    | ok value =>
        cases bound
        refine ⟨kept, fun binding same => ?_⟩
        cases same
        exact lasting.owns _ value
    | error fault =>
        cases bound
        exact ⟨kept, fun _ failed => nomatch failed⟩
  · rw [passed] at bound
    cases bound
    refine ⟨lasting.shares store.env name, fun binding same => ?_⟩
    cases same
    exact lasting.shared store.env name held
  · rw [passed] at bound
    cases bound
    exact ⟨leads_refl _, fun _ failed => nomatch failed⟩

theorem insert_fits (env : Environment) (scope : Scope) (name : String) (binding : Binding)
    (known : ∀ asked other, scope.get? asked = some other → fits env other) (fit : fits env binding) (asked : String)
    (other : Binding) (found : (scope.insert name binding).get? asked = some other) : fits env other := by
  by_cases same : asked = name
  · rw [same, Table.get?_insert_self] at found
    cases found
    exact fit
  · rw [Table.get?_insert_of_ne scope name asked binding same] at found
    exact known asked other found

theorem bind_params_fit (lasting : Lasting holds fits) (registry : Registry) (scope : Scope)
    (pairs : List (Label.Param × Label.Expr)) (store after : Store) (outcome : Except Fault Scope)
    (held : holds store.env) (known : ∀ name binding, scope.get? name = some binding → fits store.env binding)
    (bound : bindParams registry scope pairs store = (outcome, after)) :
    Leads holds fits store.env after.env ∧
      ∀ made, outcome = .ok made → ∀ name binding, made.get? name = some binding → fits after.env binding := by
  induction pairs generalizing scope store with
  | nil =>
      cases bound
      refine ⟨leads_refl _, fun made same => ?_⟩
      cases same
      exact known
  | cons pair rest ih =>
      rw [bindParams, run_bind] at bound
      rcases result : bindParam registry pair.1 pair.2 store with ⟨first, reached⟩
      obtain ⟨leads, fit⟩ := bind_param_fits lasting registry pair.1 pair.2 store reached first held result
      obtain ⟨between, before⟩ := leads held
      rw [result] at bound
      cases first with
      | error fault =>
          cases bound
          exact ⟨leads, fun _ failed => nomatch failed⟩
      | ok binding =>
          have larger := insert_fits reached.env scope pair.1.name binding
            (fun name other found => before other (known name other found)) (fit binding rfl)
          obtain ⟨onward, made⟩ := ih (scope.insert pair.1.name binding) reached between larger bound
          exact ⟨leads_trans _ _ _ leads onward, made⟩

def Keeps (holds : Environment → Prop) (before after : Store) : Prop := holds before.env → holds after.env

theorem keeps_order (lasting : Lasting holds fits) : StoreOrder (Keeps holds) where
  refl := fun _ held => held
  trans := fun _ _ _ first second held => second (first held)
  allocates := fun _ _ held => held
  writes := fun _ _ _ _ held => held
  sets := fun store name value held => (lasting.sets store.env name value held).1
  draws := fun _ _ held => held

theorem open_scope_keeps (lasting : Lasting holds fits) (program : Program) (name : String) (args : List Label.Expr)
    (root : Component) : Respects (Keeps holds) (Action.openScope program name args root) := by
  have closed := (keeps_order lasting).closed
  simp only [Action.openScope]
  split
  · refine closed.parsed_then_holds _ _ fun header _ => ?_
    split
    · exact closed.fail_holds _ rfl
    · intro store held
      rw [run_bind]
      rcases result : bindParams program.registry ∅ (header.params.zip args) store with ⟨outcome, after⟩
      obtain ⟨leads, made⟩ := bind_params_fit lasting program.registry ∅ _ store after outcome held
        (fun _ _ found => by cases found) result
      cases outcome with
      | ok scope => exact lasting.pushes after.env scope (leads held).1 (made scope rfl)
      | error fault => exact (leads held).1
  · split
    · exact closed.pure_holds false
    · exact closed.fail_holds _ rfl

variable (program : Program) (settings : Settings)

theorem visit_keeps (lasting : Lasting holds fits) (id : ComponentId) (execution : Execution)
    (held : holds execution.store.env) : holds (visit program settings id execution).2.store.env := by
  cases found : program.component? execution.chart id with
  | none =>
      rw [visit_missing program settings id execution found]
      exact held
  | some component =>
      have performed := (keeps_order lasting).closed.performed program
      have kept := performed.move_of_holds (fun name args root _ => open_scope_keeps lasting program name args root)
        settings id component execution.callDepth (execution.phase? id) trivial (fun _ _ => trivial) execution.store held
      rw [visit_run program settings id component execution found]
      rcases result : moveOf program settings id component execution.callDepth (execution.phase? id) execution.store
        with ⟨outcome, store⟩
      rw [result] at kept
      cases outcome with
      | error fault => exact kept
      | ok move => cases move <;> exact kept

-- Scopes are closed after all else that a component does to variables.
theorem step_keeps (lasting : Lasting holds fits) (execution : Execution) (held : holds execution.store.env) :
    ∃ env count, holds env ∧ (step program settings execution).2.store.env = env.close count := by
  by_cases running : execution.state = .running
  · cases here : execution.position with
    | none =>
        rw [step_ended program settings execution running here]
        exact ⟨execution.store.env, 0, held, rfl⟩
    | some id =>
        have kept : holds (visit program settings id execution).2.store.env :=
          visit_keeps program settings lasting id execution held
        unfold step
        rw [running, here]
        dsimp only
        rcases result : visit program settings id execution with ⟨outcome, reached⟩
        rw [result] at kept
        cases outcome with
        | error fault => exact ⟨reached.store.env, 0, kept, rfl⟩
        | ok next =>
            refine ⟨reached.store.env, closings next reached.frames, kept, ?_⟩
            exact congrArg Store.env (advance_store reached next)
  · rw [step_waiting program settings execution running]
    exact ⟨execution.store.env, 0, held, rfl⟩

theorem answer_keeps (lasting : Lasting holds fits) (text : String) (execution : Execution)
    (held : holds execution.store.env) : holds (answer program text execution).2.store.env := by
  simp only [answer]
  split
  · rename_i question _ _
    have kept := (keeps_order lasting).closed.assign_holds program.registry question.target (answerValue text)
      execution.store held
    simp only [storeAnswer]
    rcases result : assign program.registry question.target (answerValue text) execution.store with ⟨outcome, store⟩
    rw [result] at kept
    cases outcome <;> exact kept
  · exact held

theorem resume_store (execution : Execution) : execution.resume.2.store = execution.store := by
  simp only [resume]
  split
  · rfl
  · split <;> rfl
  · rfl
  · rfl

theorem serve_keeps (lasting : Lasting holds fits) (request : Request) (execution : Execution)
    (held : holds execution.store.env) :
    (request.serve program settings execution).2 = initial program settings ∨
      ∃ env count, holds env ∧ (request.serve program settings execution).2.store.env = env.close count := by
  cases request with
  | step =>
      rw [Request.serve, noted_reached]
      exact Or.inr (step_keeps program settings lasting execution held)
  | answer text =>
      rw [Request.serve, noted_reached]
      exact Or.inr ⟨_, 0, answer_keeps program lasting text execution held, rfl⟩
  | resume =>
      rw [Request.serve, noted_reached, resume_store]
      exact Or.inr ⟨_, 0, held, rfl⟩
  | reset => exact Or.inl rfl

end Lasting

end Execution

end Flowline
