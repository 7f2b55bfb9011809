import Flowline.Proofs.Execution.Causes
import Flowline.Proofs.Execution.Soundness

set_option autoImplicit false

namespace Flowline.Execution

open Chart (ComponentId Component)

def awaits (execution : Execution) : Bool :=
  match execution.state with
  | .input _ => true
  | _ => false

theorem awaits_iff (execution : Execution) : execution.awaits = true ↔ ∃ prompt, execution.state = .input prompt := by
  unfold awaits
  split
  · rename_i prompt state
    exact ⟨fun _ => ⟨prompt, state⟩, fun _ => rfl⟩
  · rename_i other
    exact ⟨nofun, fun ⟨prompt, state⟩ => absurd state (other prompt)⟩

theorem awaits_not (execution : Execution) (other : ∀ prompt, execution.state ≠ .input prompt) :
    execution.awaits = false := by
  by_contra awaiting
  obtain ⟨prompt, state⟩ := execution.awaits_iff.mp (by simpa using awaiting)
  exact other prompt state

-- A question is there while an answer is awaited, and says whether one has been accepted.
structure Prompted (execution : Execution) (accepted : Bool) : Prop where
  pending : execution.question.isSome = execution.awaits
  answered : ∀ question, execution.question = some question → question.isAnswered = accepted

section Prompted

variable {execution : Execution} {accepted : Bool}

theorem prompted_plain (unasked : execution.question = none) (idle : execution.awaits = false) :
    Prompted execution accepted where
  pending := by
    rw [unasked, idle]
    rfl
  answered := by
    intro question asked
    rw [unasked] at asked
    cases asked

theorem prompted_unasked (prompted : Prompted execution accepted) (idle : execution.awaits = false) :
    execution.question = none := by
  have pending := prompted.pending
  rw [idle] at pending
  exact Option.isNone_iff_eq_none.mp (Option.isSome_eq_false_iff.mp pending)

theorem prompted_running (prompted : Prompted execution accepted) (running : execution.state = .running) :
    execution.question = none :=
  prompted_unasked prompted (awaits_not execution fun prompt same => by simp [running] at same)

theorem prompted_initial (program : Program) (settings : Settings) : Prompted (initial program settings) accepted :=
  prompted_plain rfl rfl

theorem reach_prompted (program : Program) (id : ComponentId) (component : Component)
    (running : execution.state = .running) (unasked : execution.question = none) (move : Move) (store : Store) :
    Prompted (reach program id component execution move store) false := by
  have still : (execution.prepare id component).question = none := by rw [prepare_question, unasked]
  have going : (execution.prepare id component).state = .running := by rw [prepare_state, running]
  cases move with
  | ask target prompt => exact ⟨rfl, fun question same => by cases same; rfl⟩
  | «show» text => exact prompted_plain still rfl
  | go next | into frame next | enter place start ownScope =>
      refine prompted_plain still (awaits_not _ fun prompt same => ?_)
      have state : (execution.prepare id component).state = .input prompt := same
      rw [going] at state
      cases state

theorem advance_prompted (prompted : Prompted execution accepted) (next : Option ComponentId) :
    Prompted (execution.advance next) accepted := by
  obtain ⟨state, question⟩ := unwind_state execution next execution.frames
  unfold advance settle
  split
  · rename_i finished
    refine prompted_plain ?_ rfl
    exact question.trans (prompted_running prompted (state ▸ finished.1))
  · refine ⟨?_, fun known same => prompted.answered known (question ▸ same)⟩
    rw [question, prompted.pending]
    unfold awaits
    rw [state]

theorem step_prompted (program : Program) (settings : Settings) (running : execution.state = .running)
    (unasked : execution.question = none) : Prompted (step program settings execution).2 false := by
  cases here : execution.position with
  | none =>
      rw [step_ended program settings execution running here]
      exact prompted_plain unasked rfl
  | some id =>
      cases found : program.component? execution.chart id with
      | none =>
          rw [step_missing program settings id execution running here found]
          exact prompted_plain unasked rfl
      | some component =>
          rw [step_run program settings id component execution running here found]
          split
          · exact advance_prompted (reach_prompted program id component running unasked _ _) _
          · exact prompted_plain ((prepare_question execution id component).trans unasked) rfl

theorem store_answer_prompted (program : Program) (question : Question) (text : String) (outcome : Except Failure Unit)
    (reached : Execution) (done : storeAnswer program question text execution = (outcome, reached)) :
    (outcome = .ok () ∧ reached.state = execution.state ∧
        reached.question = some { question with isAnswered := true }) ∨
      (∃ failure, outcome = .error failure) ∧ reached.state = .done ∧ reached.question = none := by
  unfold storeAnswer at done
  split at done
  · cases done
    exact Or.inl ⟨rfl, rfl, rfl⟩
  · cases done
    exact Or.inr ⟨⟨_, rfl⟩, rfl, rfl⟩

theorem answer_awaited (program : Program) (text prompt : String) (question : Question)
    (state : execution.state = .input prompt) (asked : execution.question = some question) :
    answer program text execution = storeAnswer program question text execution := by
  unfold answer
  rw [state, asked]

theorem prompted_question (prompted : Prompted execution accepted) (waiting : execution.awaits = true) :
    ∃ question, execution.question = some question ∧ question.isAnswered = accepted := by
  have pending := prompted.pending
  rw [waiting] at pending
  obtain ⟨question, asked⟩ := Option.isSome_iff_exists.mp pending
  exact ⟨question, asked, prompted.answered question asked⟩

end Prompted

end Flowline.Execution
