import Flowline.Proofs.Execution.Move
import Flowline.Proofs.Store.Walk

set_option autoImplicit false

namespace Flowline

open Chart (ComponentId Component)

-- A walk through components: expressions are allowed if they are parsed from texts that are.
structure Performed (program : Program) (reads : String → Prop) (allowed : Label.Expr → Prop)
    (holds : {α : Type} → Action α → Prop) : Prop extends Walked program.registry allowed holds where
  expr : ∀ label, reads label → ∀ expr, Label.parseExpr label = .ok expr → allowed expr
  assignment : ∀ label, reads label → ∀ expr, Label.parseAssignment label = .ok expr → allowed expr
  call : ∀ label, reads label → ∀ name args, Label.parseCall label = .ok (name, args) → ∀ arg ∈ args, allowed arg

namespace Sequential

variable {holds : {α : Type} → Action α → Prop} {α β : Type}

theorem parsed_holds (sequential : Sequential holds) (result : Except Label.Error α) :
    holds (Action.parsed result) := by
  cases result with
  | ok value => exact sequential.pure_holds value
  | error error => exact sequential.fail_holds _ rfl

theorem parsed_then_holds (sequential : Sequential holds) (result : Except Label.Error α) (next : α → Action β)
    (after : ∀ value, result = .ok value → holds (next value)) : holds (Action.parsed result >>= next) := by
  cases result with
  | ok value => exact after value rfl
  | error error => exact sequential.fail_holds (.label error) rfl

theorem pass_terminal_holds (sequential : Sequential holds) (label : String) :
    holds (Action.passTerminal label) := by
  unfold Action.passTerminal
  split
  · exact sequential.pure_holds ()
  · exact sequential.fail_holds _ rfl

end Sequential

namespace Performed

variable {program : Program} {reads : String → Prop} {allowed : Label.Expr → Prop}
  {holds : {α : Type} → Action α → Prop}

theorem test_holds (performed : Performed program reads allowed holds) (label : String) (read : reads label) :
    holds (Action.holds program label) :=
  performed.parsed_then_holds _ _ fun expr parsed =>
    performed.sequence _ _ (performed.evaluate_holds expr (performed.expr label read expr parsed)) fun value =>
      performed.lift_holds _ (to_bool_sane value)

theorem text_of_holds (performed : Performed program reads allowed holds) (label : String) (read : reads label) :
    holds (Action.textOf program label) :=
  performed.parsed_then_holds _ _ fun expr parsed =>
    performed.sequence _ _ (performed.evaluate_holds expr (performed.expr label read expr parsed)) fun value =>
      performed.observe (fun _ heap => .ok (value.toText heap)) fun _ _ => sane_ok _

theorem prompt_of_holds (performed : Performed program reads allowed holds) (prompt : String) (read : reads prompt) :
    holds (Action.promptOf program prompt) := by
  unfold Action.promptOf
  split
  · exact performed.pure_holds ""
  · exact performed.text_of_holds prompt read

theorem perform_holds (performed : Performed program reads allowed holds) (label : String) (read : reads label) :
    holds (Action.perform program label) :=
  performed.parsed_then_holds _ _ fun expr parsed =>
    performed.sequence _ _ (performed.evaluate_holds expr (performed.assignment label read expr parsed)) fun _ =>
      performed.pure_holds ()

section Binding

variable (performed : Performed program reads allowed holds) (shares : ∀ name, holds (Action.shareVariable name))

include performed shares

theorem bind_param_holds (param : Label.Param) (arg : Label.Expr) (allows : allowed arg) :
    holds (Execution.bindParam program.registry param arg) := by
  unfold Execution.bindParam
  split
  · exact performed.sequence _ _ (performed.evaluate_holds _ allows) fun value => performed.pure_holds _
  · exact shares _
  · exact performed.fail_holds _ rfl

theorem bind_params_holds (scope : Scope) (pairs : List (Label.Param × Label.Expr))
    (allows : ∀ pair ∈ pairs, allowed pair.2) : holds (Execution.bindParams program.registry scope pairs) := by
  induction pairs generalizing scope with
  | nil => exact performed.pure_holds scope
  | cons pair rest ih =>
      obtain ⟨one, others⟩ := List.forall_mem_cons.mp allows
      exact performed.sequence _ _ (performed.bind_param_holds shares pair.1 pair.2 one) fun binding => ih _ others

theorem open_scope_holds
    (pushes : ∀ scope, holds fun store => (.ok true, { store with env := store.env.push scope }))
    (name : String) (args : List Label.Expr) (root : Component) (allows : ∀ arg ∈ args, allowed arg) :
    holds (Action.openScope program name args root) := by
  unfold Action.openScope
  split
  · refine performed.parsed_then_holds _ _ fun header _ => ?_
    split
    · exact performed.fail_holds _ rfl
    · refine performed.sequence _ _ (performed.bind_params_holds shares ∅ _ fun pair member => ?_) pushes
      exact allows pair.2 (List.of_mem_zip member).2
  · split
    · exact performed.pure_holds false
    · exact performed.fail_holds _ rfl

end Binding

section Calls

variable (performed : Performed program reads allowed holds)
  (opens : ∀ name args root, (∀ arg ∈ args, allowed arg) → holds (Action.openScope program name args root))

include performed opens

theorem enter_call_holds (settings : Settings) (depth : Nat) (label : String) (read : reads label) :
    holds (Action.enterCall program settings depth label) := by
  refine performed.parsed_then_holds _ _ fun call parsed => ?_
  dsimp only
  cases program.registry.subchart? call.1 with
  | none => exact performed.fail_holds _ rfl
  | some place =>
      dsimp only
      split
      · exact performed.fail_holds _ rfl
      · cases program.start? place with
        | none => exact performed.fail_holds _ rfl
        | some first =>
            exact performed.sequence _ _
              (opens call.1 call.2 first.2 (performed.call label read call.1 call.2 parsed)) fun _ =>
                performed.pure_holds _

theorem move_of_holds (settings : Settings) (id : ComponentId) (component : Component) (depth : Nat)
    (phase : Option Execution.Phase) (label : reads component.label)
    (prompted : ∀ prompt, component.role = .input prompt → reads prompt) :
    holds (Execution.moveOf program settings id component depth phase) := by
  have moves : ∀ move : Execution.Move, holds (pure move : Action Execution.Move) := performed.pure_holds
  cases role : component.role with
  | entry =>
      simp only [Execution.moveOf, role]
      exact moves _
  | terminal =>
      simp only [Execution.moveOf, role]
      exact performed.sequence _ _ (performed.pass_terminal_holds _) fun _ => moves _
  | assignment =>
      simp only [Execution.moveOf, role]
      exact performed.sequence _ _ (performed.perform_holds _ label) fun _ => moves _
  | call =>
      simp only [Execution.moveOf, role]
      exact performed.sequence _ _ (performed.enter_call_holds opens settings depth _ label) fun _ => moves _
  | decision yes no =>
      simp only [Execution.moveOf, role]
      exact performed.sequence _ _ (performed.test_holds _ label) fun _ => moves _
  | loop before after =>
      simp only [Execution.moveOf, role]
      split
      · exact performed.sequence _ _ (performed.test_holds _ label) fun _ => moves _
      · exact moves _
  | output prompt =>
      simp only [Execution.moveOf, role]
      exact performed.sequence _ _ (performed.text_of_holds _ label) fun _ => moves _
  | input prompt =>
      simp only [Execution.moveOf, role]
      exact performed.parsed_then_holds _ _ fun target _ =>
        performed.sequence _ _ (performed.prompt_of_holds prompt (prompted prompt role)) fun _ => moves _

end Calls

end Performed

theorem Closed.performed {holds : {α : Type} → Action α → Prop} (closed : Closed holds) (program : Program) :
    Performed program (fun _ => True) (fun _ => True) holds where
  toWalked := closed.walked program.registry
  expr := fun _ _ _ _ => trivial
  assignment := fun _ _ _ _ => trivial
  call := fun _ _ _ _ _ _ _ => trivial

end Flowline
