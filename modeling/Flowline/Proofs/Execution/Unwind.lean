import Flowline.Proofs.Execution.Move

set_option autoImplicit false

namespace Flowline

open Chart (ComponentId Component)

namespace Program

def Knows (program : Program) (place : Nat) (link : Option ComponentId) : Prop :=
  ∀ id, link = some id → ∃ component, program.component? place id = some component

end Program

namespace Execution

def Frame.isCall : Frame → Bool
  | .call _ _ _ => true
  | _ => false

def Frame.ownsScope : Frame → Bool
  | .call _ _ ownScope => ownScope
  | _ => false

def callsIn (frames : List Frame) : Nat := frames.countP Frame.isCall

def scopesIn (frames : List Frame) : Nat := frames.countP Frame.ownsScope

theorem calls_in_cons (frame : Frame) (outer : List Frame) :
    callsIn (frame :: outer) = callsIn outer + frame.isCall.toNat := by
  simp only [callsIn]
  rw [List.countP_cons]
  cases frame.isCall <;> rfl

theorem scopes_in_cons (frame : Frame) (outer : List Frame) :
    scopesIn (frame :: outer) = scopesIn outer + frame.ownsScope.toNat := by
  simp only [scopesIn]
  rw [List.countP_cons]
  cases frame.ownsScope <;> rfl

def underflows (calls scopes : Nat) (next : Option ComponentId) : List Frame → Bool
  | [] => false
  | frame :: outer =>
      match next, frame with
      | some _, _ => false
      | none, .decision next => underflows calls scopes next outer
      | none, .loop _ _ => false
      | none, .call next _ ownScope =>
          calls == 0 || (ownScope && scopes ≤ 1) || underflows (calls - 1) (scopes - ownScope.toNat) next outer

-- Each open construct goes on in the subchart that was current around it, the first of all in the first one.
def FramesFit (program : Program) (place : Nat) : List Frame → Prop
  | [] => place = 0
  | .decision next :: outer => program.Knows place next ∧ FramesFit program place outer
  | .loop id _ :: outer => program.Knows place (some id) ∧ FramesFit program place outer
  | .call next caller _ :: outer =>
      caller < program.subcharts.length ∧ program.Knows caller next ∧ FramesFit program caller outer

structure Inside (program : Program) (settings : Settings) (frames : List Frame) (execution : Execution) :
    Prop where
  chart : execution.chart < program.subcharts.length
  fit : FramesFit program execution.chart frames
  calls : execution.callDepth = callsIn frames
  bounded : execution.callDepth ≤ settings.maxCallDepth
  scopes : execution.store.env.depth = 1 + scopesIn frames

section Leaving

variable {program : Program} {settings : Settings} {execution : Execution}

theorem inside_decision (next : Option ComponentId) (outer : List Frame)
    (inside : Inside program settings (.decision next :: outer) execution) :
    Inside program settings outer execution where
  chart := inside.chart
  fit := inside.fit.2
  calls := by rw [inside.calls, calls_in_cons]; rfl
  bounded := inside.bounded
  scopes := by rw [inside.scopes, scopes_in_cons]; rfl

theorem leave_depth (next : Option ComponentId) (caller : Nat) (ownScope : Bool) (outer : List Frame)
    (inside : Inside program settings (.call next caller ownScope :: outer) execution) :
    (execution.leave caller ownScope).store.env.depth = 1 + scopesIn outer := by
  have scopes := inside.scopes
  rw [scopes_in_cons] at scopes
  cases ownScope with
  | false => exact scopes
  | true =>
      have popped : execution.store.env.pop.2.depth + 1 = execution.store.env.depth :=
        Environment.depth_pop execution.store.env (by rw [scopes]; exact Nat.lt_add_of_pos_right (Nat.succ_pos _))
      change execution.store.env.pop.2.depth = 1 + scopesIn outer
      have one : Frame.ownsScope (.call next caller true) = true := rfl
      rw [one, Bool.toNat_true] at scopes
      omega

theorem inside_call (next : Option ComponentId) (caller : Nat) (ownScope : Bool) (outer : List Frame)
    (inside : Inside program settings (.call next caller ownScope :: outer) execution) :
    Inside program settings outer (execution.leave caller ownScope) := by
  have calls := inside.calls
  have bounded := inside.bounded
  rw [calls_in_cons] at calls
  have one : Frame.isCall (.call next caller ownScope) = true := rfl
  rw [one, Bool.toNat_true] at calls
  have fewer : (execution.leave caller ownScope).callDepth = execution.callDepth - 1 := by
    cases ownScope <;> rfl
  exact {
    chart := inside.fit.1
    fit := inside.fit.2.2
    calls := by omega
    bounded := by omega
    scopes := leave_depth next caller ownScope outer inside }

end Leaving

structure Settled (program : Program) (settings : Settings) (execution : Execution) : Prop where
  inside : Inside program settings execution.frames execution
  position : program.Knows execution.chart execution.position
  ended : execution.position = none → execution.frames = []

theorem inside_moved {program : Program} {settings : Settings} {frames : List Frame} {execution : Execution}
    (inside : Inside program settings frames execution) (link : Option ComponentId) (kept : List Frame) :
    Inside program settings frames { execution with frames := kept, position := link } :=
  ⟨inside.chart, inside.fit, inside.calls, inside.bounded, inside.scopes⟩

theorem unwind_settled (program : Program) (settings : Settings) (frames : List Frame) (execution : Execution)
    (next : Option ComponentId) (inside : Inside program settings frames execution)
    (known : program.Knows execution.chart next) : Settled program settings (execution.unwind next frames) := by
  induction frames generalizing execution next with
  | nil =>
      rw [unwind]
      exact ⟨inside_moved inside next [], known, fun _ => rfl⟩
  | cons frame outer ih =>
      cases next with
      | some id =>
          rw [unwind]
          exact ⟨inside_moved inside (some id) (frame :: outer), known, fun none => nomatch none⟩
      | none =>
          cases frame with
          | decision next =>
              rw [unwind]
              exact ih execution next (inside_decision next outer inside) inside.fit.1
          | loop id phase =>
              rw [unwind]
              exact ⟨inside_moved inside (some id) (.loop id phase :: outer), inside.fit.1,
                fun none => nomatch none⟩
          | call next caller ownScope =>
              rw [unwind]
              exact ih (execution.leave caller ownScope) next (inside_call next caller ownScope outer inside)
                inside.fit.2.1

theorem unwind_counted (calls scopes : Nat) (next : Option ComponentId) (frames : List Frame)
    (allCalls : calls = callsIn frames) (allScopes : scopes = 1 + scopesIn frames) :
    underflows calls scopes next frames = false := by
  induction frames generalizing calls scopes next with
  | nil => rfl
  | cons frame outer ih =>
      rw [calls_in_cons] at allCalls
      rw [scopes_in_cons] at allScopes
      cases next with
      | some id => rfl
      | none =>
          cases frame with
          | decision next => exact ih calls scopes next allCalls allScopes
          | loop id phase => rfl
          | call next caller ownScope =>
              have one : Frame.isCall (.call next caller ownScope) = true := rfl
              have own : Frame.ownsScope (.call next caller ownScope) = ownScope := rfl
              rw [one, Bool.toNat_true] at allCalls
              rw [own] at allScopes
              have inner := ih (calls - 1) (scopes - ownScope.toNat) next (by omega) (by omega)
              have called : (calls == 0) = false := by
                rw [beq_eq_false_iff_ne]
                omega
              have held : (ownScope && decide (scopes ≤ 1)) = false := by
                cases ownScope with
                | false => rfl
                | true =>
                    rw [Bool.toNat_true] at allScopes
                    simp only [Bool.true_and, decide_eq_false_iff_not]
                    omega
              simp only [underflows, called, held, inner, Bool.or_self]

theorem unwind_state (execution : Execution) (next : Option ComponentId) (frames : List Frame) :
    (execution.unwind next frames).state = execution.state ∧
      (execution.unwind next frames).question = execution.question := by
  induction frames generalizing execution next with
  | nil => exact ⟨rfl, rfl⟩
  | cons frame outer ih =>
      cases next with
      | some id => exact ⟨rfl, rfl⟩
      | none =>
          cases frame with
          | decision next => exact ih execution next
          | loop id phase => exact ⟨rfl, rfl⟩
          | call next caller ownScope =>
              have left := ih (execution.leave caller ownScope) next
              have same : (execution.leave caller ownScope).state = execution.state ∧
                  (execution.leave caller ownScope).question = execution.question := by
                cases ownScope <;> exact ⟨rfl, rfl⟩
              exact ⟨left.1.trans same.1, left.2.trans same.2⟩

end Execution

end Flowline
