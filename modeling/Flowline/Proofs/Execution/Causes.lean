import Flowline.Proofs.Execution.Actions

set_option autoImplicit false

namespace Flowline

open Chart (ComponentId Component)

-- The faults of a program. The others are of hosts that ask at the wrong time.
def Fault.Inner (fault : Fault) : Prop := fault ≠ .notAwaitingInput ∧ fault ≠ .inputNotProvided

theorem inner_of_labels (fault : Fault) (known : fault.ofLabels = true) : fault.Inner := by
  constructor <;> rintro rfl <;> cases known

namespace Execution

theorem inner_closed : Closed (Raises Fault.Inner) := raises_closed Fault.Inner inner_of_labels

theorem move_of_raises (program : Program) (settings : Settings) (id : ComponentId) (component : Component)
    (depth : Nat) (phase : Option Phase) : Raises Fault.Inner (moveOf program settings id component depth phase) := by
  have performed := inner_closed.performed program
  refine performed.move_of_holds (fun name args root allows => ?_) settings id component depth phase trivial
    fun _ _ => trivial
  exact performed.open_scope_holds (fun _ _ _ failed => nomatch failed) (fun _ _ _ failed => nomatch failed) name args
    root allows

theorem visit_raises (program : Program) (settings : Settings) (id : ComponentId) :
    Raises Fault.Inner (visit program settings id) := by
  intro execution fault failed
  cases found : program.component? execution.chart id with
  | none =>
      rw [visit_missing program settings id execution found] at failed
      cases failed
      exact ⟨nofun, nofun⟩
  | some component =>
      have raises := move_of_raises program settings id component execution.callDepth (execution.phase? id)
        execution.store
      rw [visit_run program settings id component execution found] at failed
      rcases result : moveOf program settings id component execution.callDepth (execution.phase? id) execution.store
        with ⟨outcome, store⟩
      rw [result] at raises failed
      cases outcome with
      | ok move => cases failed
      | error cause =>
          cases failed
          exact raises fault rfl

theorem step_outcome (program : Program) (settings : Settings) (execution : Execution) :
    (∃ reached, step program settings execution = (.ok reached.state, reached)) ∨
      ∃ id cause reached, visit program settings id execution = (.error cause, reached) ∧
        step program settings execution = reached.abort ⟨cause, some (reached.locate program id)⟩ := by
  unfold step
  cases state : execution.state with
  | running =>
      cases execution.position with
      | none => exact Or.inl ⟨{ execution with position := none, state := .done }, rfl⟩
      | some id =>
          dsimp only
          rcases visited : visit program settings id execution with ⟨(cause | next), reached⟩
          · exact Or.inr ⟨id, cause, reached, visited, rfl⟩
          · exact Or.inl ⟨reached.advance next, rfl⟩
  | output _ | input _ | done => exact Or.inl ⟨execution, by rw [state]⟩

theorem step_inner (program : Program) (settings : Settings) (execution reached : Execution) (failure : Failure)
    (failed : step program settings execution = (.error failure, reached)) : failure.cause.Inner := by
  rcases step_outcome program settings execution with ⟨after, done⟩ | ⟨id, cause, after, visited, done⟩
  · rw [done] at failed
    cases failed
  · rw [done] at failed
    cases failed
    exact visit_raises program settings id execution cause (by rw [visited])

theorem store_answer_inner (program : Program) (question : Question) (text : String) (execution reached : Execution)
    (failure : Failure) (failed : storeAnswer program question text execution = (.error failure, reached)) :
    failure.cause.Inner := by
  have raises := inner_closed.assign_holds program.registry question.target (answerValue text) execution.store
  unfold storeAnswer at failed
  split at failed
  · cases failed
  · rename_i cause _ assigned
    cases failed
    exact raises cause (by rw [assigned])

end Execution

end Flowline
