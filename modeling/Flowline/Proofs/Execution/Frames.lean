import Flowline.Proofs.Execution.Soundness

set_option autoImplicit false

namespace Flowline.Execution

open Chart (ComponentId Component)

variable {program : Program} {settings : Settings}

theorem unwind_suffix (execution : Execution) (next : Option ComponentId) (frames : List Frame) :
    (execution.unwind next frames).frames <:+ frames := by
  induction frames generalizing execution next with
  | nil => exact List.suffix_refl _
  | cons frame outer ih =>
      cases next with
      | some id => exact List.suffix_refl _
      | none =>
          cases frame with
          | decision next => exact (ih execution next).trans (List.suffix_cons _ _)
          | loop id phase => exact List.suffix_refl _
          | call next caller ownScope =>
              exact (ih (execution.leave caller ownScope) next).trans (List.suffix_cons _ _)

theorem advance_suffix (execution : Execution) (next : Option ComponentId) :
    (execution.advance next).frames <:+ execution.frames := by
  simp only [advance, settle]
  split
  · exact unwind_suffix execution next execution.frames
  · exact unwind_suffix execution next execution.frames

variable {frame : Frame} {outer : List Frame}

theorem prepare_suffix (call : frame.isCall = true) (id : ComponentId) (component : Component) (execution : Execution)
    (inside : frame :: outer <:+ execution.frames) : frame :: outer <:+ (execution.prepare id component).frames := by
  simp only [prepare]
  split
  · rename_i phase _ looped
    obtain ⟨rest, frames⟩ := phase_cases id phase looped
    rw [frames] at inside
    simp only [closeFrame, frames, List.tail_cons]
    rcases List.suffix_cons_iff.mp inside with same | suffix
    · cases same
      cases call
    · exact suffix
  · exact inside

theorem reach_suffix (program : Program) (id : ComponentId) (component : Component) (execution : Execution)
    (move : Move) (store : Store) :
    (execution.prepare id component).frames <:+ (reach program id component execution move store).frames := by
  cases move with
  | into frame next => exact List.suffix_cons _ _
  | enter place start ownScope => exact List.suffix_cons _ _
  | _ => exact List.suffix_refl _

-- A call that is open stays open, or all that is left lies around it.
theorem step_suffix (call : frame.isCall = true) (execution : Execution)
    (known : ∀ id, execution.position = some id → ∃ component, program.component? execution.chart id = some component)
    (inside : frame :: outer <:+ execution.frames) :
    frame :: outer <:+ (step program settings execution).2.frames ∨
      (step program settings execution).2.frames <:+ outer := by
  by_cases running : execution.state = .running
  · cases here : execution.position with
    | none =>
        rw [step_ended program settings execution running here]
        exact Or.inl inside
    | some id =>
        obtain ⟨component, found⟩ := known id here
        rw [step_run program settings id component execution running here found]
        have prepared := prepare_suffix call id component execution inside
        rcases moveOf program settings id component execution.callDepth (execution.phase? id) execution.store with
          ⟨outcome, store⟩
        cases outcome with
        | error fault => exact Or.inl prepared
        | ok move =>
            have reached := prepared.trans (reach_suffix program id component execution move store)
            have left := advance_suffix (reach program id component execution move store) (move.link component)
            rcases List.suffix_or_suffix_of_suffix reached left with open_call | closed
            · exact Or.inl open_call
            · rcases List.suffix_cons_iff.mp closed with same | suffix
              · exact Or.inl ⟨[], same.symm⟩
              · exact Or.inr suffix
  · rw [step_waiting program settings execution running]
    exact Or.inl inside

theorem scopes_suffix (inner frames : List Frame) (suffix : inner <:+ frames) : scopesIn inner ≤ scopesIn frames :=
  suffix.sublist.countP_le

theorem not_suffix_of_length {frames : List Frame} (short : frames.length ≤ outer.length) :
    ¬ frame :: outer <:+ frames := fun suffix => Nat.not_succ_le_self _ (Nat.le_trans suffix.length_le short)

theorem prepare_length (execution : Execution) (id : ComponentId) (component : Component) :
    (execution.prepare id component).frames.length ≤ execution.frames.length := by
  simp only [prepare]
  split
  · simp only [closeFrame, List.length_tail]
    exact Nat.sub_le _ _
  · exact Nat.le_refl _

end Flowline.Execution
