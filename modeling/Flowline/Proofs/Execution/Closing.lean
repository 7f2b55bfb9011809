import Flowline.Proofs.Execution.Unwind
import Flowline.Proofs.Store.Places

set_option autoImplicit false

namespace Flowline

open Chart (ComponentId Component)

def Store.close (store : Store) (count : Nat) : Store := { store with env := store.env.close count }

theorem Store.close_close (store : Store) (first second : Nat) :
    (store.close first).close second = store.close (first + second) := by
  simp only [Store.close, Environment.close_add]

namespace Execution

def closings (next : Option ComponentId) : List Frame → Nat
  | [] => 0
  | frame :: outer =>
      match next, frame with
      | some _, _ => 0
      | none, .decision next => closings next outer
      | none, .loop _ _ => 0
      | none, .call next _ ownScope => ownScope.toNat + closings next outer

theorem closings_le (next : Option ComponentId) (frames : List Frame) : closings next frames ≤ scopesIn frames := by
  induction frames generalizing next with
  | nil => exact Nat.le_refl _
  | cons frame outer ih =>
      rw [scopes_in_cons]
      cases next with
      | some id => exact Nat.zero_le _
      | none =>
          cases frame with
          | decision next => exact ih next
          | loop id phase => exact Nat.zero_le _
          | call next caller ownScope =>
              have inner := ih next
              have own : Frame.ownsScope (.call next caller ownScope) = ownScope := rfl
              rw [closings, own]
              omega

theorem leave_store (execution : Execution) (caller : Nat) (ownScope : Bool) :
    (execution.leave caller ownScope).store = execution.store.close ownScope.toNat := by
  cases ownScope <;> rfl

theorem unwind_store (execution : Execution) (next : Option ComponentId) (frames : List Frame) :
    (execution.unwind next frames).store = execution.store.close (closings next frames) := by
  induction frames generalizing execution next with
  | nil => rfl
  | cons frame outer ih =>
      cases next with
      | some id => rfl
      | none =>
          cases frame with
          | decision next => exact ih execution next
          | loop id phase => rfl
          | call next caller ownScope =>
              rw [unwind, ih, leave_store, closings, Store.close_close]

theorem advance_store (execution : Execution) (next : Option ComponentId) :
    (execution.advance next).store = execution.store.close (closings next execution.frames) := by
  simp only [advance, settle]
  split
  · exact unwind_store execution next execution.frames
  · exact unwind_store execution next execution.frames

end Execution

end Flowline
