import Flowline.Proofs.Execution.Lasting
import Flowline.Proofs.Store.Quiet
import Flowline.Proofs.Store.Sharing

set_option autoImplicit false

namespace Flowline.Execution

open Environment (Shares)

def refersTo (pair : Label.Param × Label.Expr) : List String :=
  match pair.1.mode, pair.2 with
  | .value, _ => []
  | _, .var name => [name]
  | _, _ => []

theorem refers_to_value (param : Label.Param) (arg : Label.Expr) (mode : param.mode = .value) :
    refersTo (param, arg) = [] := by
  simp only [refersTo, mode]

theorem refers_to_variable (param : Label.Param) (name : String) (mode : param.mode ≠ .value) :
    refersTo (param, .var name) = [name] := by
  unfold refersTo
  cases kind : param.mode with
  | value => exact absurd kind mode
  | _ => rfl

theorem bind_param_shares (registry : Registry) (param : Label.Param) (arg : Label.Expr) (plain : arg.Plain)
    (store after : Store) (binding : Binding) (rooted : store.env.Rooted)
    (bound : bindParam registry param arg store = (.ok binding, after)) :
    Shares (refersTo (param, arg)) store.env after.env := by
  rcases bind_param_cases registry param arg with ⟨mode, passed⟩ | ⟨mode, name, same, passed⟩ | passed
  · have quiet := (evaluate_quiet registry arg plain store).env
    rw [passed] at bound
    obtain ⟨value, reached, evaluated, made⟩ := bind_done _ _ _ _ _ bound
    rw [evaluated] at quiet
    cases made
    rw [refers_to_value param arg mode, quiet]
    exact Environment.shares_nil store.env rooted
  · rw [passed] at bound
    cases bound
    rw [same, refers_to_variable param name mode]
    exact Environment.shares_one store.env name rooted
  · rw [passed] at bound
    cases bound

theorem bind_params_share (registry : Registry) (scope : Scope) (pairs : List (Label.Param × Label.Expr))
    (plain : ∀ pair ∈ pairs, pair.2.Plain) (store after : Store) (made : Scope) (rooted : store.env.Rooted)
    (bound : bindParams registry scope pairs store = (.ok made, after)) :
    Shares (pairs.flatMap refersTo) store.env after.env := by
  induction pairs generalizing scope store with
  | nil =>
      cases bound
      exact Environment.shares_nil _ rooted
  | cons pair rest ih =>
      obtain ⟨binding, reached, first, behind⟩ := bind_done _ _ _ _ _ bound
      have one := bind_param_shares registry pair.1 pair.2 (plain pair List.mem_cons_self) store reached binding
        rooted first
      have others := ih (scope.insert pair.1.name binding) (fun other member => plain other (.tail pair member))
        reached one.rooted behind
      rw [List.flatMap_cons]
      exact one.trans others

theorem bind_params_know (registry : Registry) (scope made : Scope) (pairs : List (Label.Param × Label.Expr))
    (store after : Store) (bound : bindParams registry scope pairs store = (.ok made, after)) (name : String)
    (known : (∃ binding, scope.get? name = some binding) ∨ ∃ pair ∈ pairs, pair.1.name = name) :
    ∃ binding, made.get? name = some binding := by
  induction pairs generalizing scope store with
  | nil =>
      cases bound
      rcases known with known | ⟨pair, member, _⟩
      · exact known
      · cases member
  | cons pair rest ih =>
      obtain ⟨binding, reached, _, behind⟩ := bind_done _ _ _ _ _ bound
      refine ih (scope.insert pair.1.name binding) reached behind ?_
      by_cases same : name = pair.1.name
      · exact Or.inl ⟨binding, by rw [same, Table.get?_insert_self]⟩
      · rw [Table.get?_insert_of_ne scope pair.1.name name binding same]
        rcases known with known | ⟨other, member, named⟩
        · exact Or.inl known
        · rcases List.mem_cons.mp member with first | later
          · rw [first] at named
            exact absurd named.symm same
          · exact Or.inr ⟨other, later, named⟩

end Flowline.Execution
