import Flowline.Proofs.Execution.Soundness
import Mathlib.Logic.Relation

set_option autoImplicit false

namespace Flowline

open Chart (ComponentId Component)

namespace Program

def Links (program : Program) (place : Nat) (id target : ComponentId) : Prop :=
  ∃ component, program.component? place id = some component ∧ target ∈ component.links

def Behind (program : Program) (place : Nat) (id target : ComponentId) : Prop :=
  Relation.TransGen (program.Links place) id target

def Acyclic (program : Program) : Prop := ∀ place id, ¬ program.Behind place id id

end Program

namespace Execution

inductive Opens (id : ComponentId) (component : Component) : Frame → Prop where
  | decision (yes no : Option ComponentId) (role : component.role = .decision yes no) :
      Opens id component (.decision component.successor)
  | loop (before after : Option ComponentId) (role : component.role = .loop before after) (phase : Phase) :
      Opens id component (.loop id phase)

variable {program : Program} {settings : Settings}

def Within (program : Program) (place : Nat) (path : List ComponentId) (id : ComponentId) : Prop :=
  ∀ around ∈ path.head?, program.Behind place around id

-- The components that have opened the constructs of the current call, the innermost first.
inductive Nested (program : Program) : Nat → List ComponentId → List Frame → Prop where
  | outermost (place : Nat) : Nested program place [] []
  | construct (place : Nat) (path : List ComponentId) (id : ComponentId) (component : Component) (frame : Frame)
      (outer : List Frame) (found : program.component? place id = some component) (opens : Opens id component frame)
      (within : Within program place path id) (nested : Nested program place path outer) :
      Nested program place (id :: path) (frame :: outer)
  | call (place caller : Nat) (path : List ComponentId) (next : Option ComponentId) (ownScope : Bool)
      (outer : List Frame) (back : ∀ id ∈ next, Within program caller path id)
      (nested : Nested program caller path outer) : Nested program place [] (.call next caller ownScope :: outer)

-- Control is inside of the innermost construct, or back at it if it is a loop.
structure Enclosed (program : Program) (execution : Execution) (path : List ComponentId) : Prop where
  nested : Nested program execution.chart path execution.frames
  placed : ∀ id ∈ execution.position,
    Within program execution.chart path id ∨ ∃ phase, execution.phase? id = some phase

section Links

variable {place : Nat} {path : List ComponentId} {id target : ComponentId} {component : Component}

theorem within_nothing (id : ComponentId) : Within program place [] id := fun _ none => nomatch none

theorem within_link (within : Within program place path id) (found : program.component? place id = some component)
    (linked : target ∈ component.links) : Within program place path target :=
  fun around first => .tail (within around first) ⟨component, found, linked⟩

theorem within_opened (found : program.component? place id = some component) (linked : target ∈ component.links) :
    Within program place (id :: path) target := by
  intro around first
  cases first
  exact .single ⟨component, found, linked⟩

end Links

section Moves

variable {execution : Execution} {path : List ComponentId}

theorem makes_opens (id : ComponentId) (component : Component) (frame : Frame) (next : Option ComponentId)
    (makes : Makes id component (.into frame next)) : Opens id component frame := by
  cases makes with
  | branch yes no role => exact .decision yes no role
  | phase before after role phase => exact .loop before after role phase

theorem prepared_nested (enclosed : Enclosed program execution path) (id : ComponentId) (component : Component)
    (here : execution.position = some id) (found : program.component? execution.chart id = some component) :
    ∃ kept, Nested program execution.chart kept (execution.prepare id component).frames ∧
      Within program execution.chart kept id := by
  cases phase : execution.phase? id with
  | none =>
      have same : execution.prepare id component = execution := by
        simp only [prepare, phase]
        split <;> simp_all
      rw [same]
      exact ⟨path, enclosed.nested, (enclosed.placed id here).resolve_right (by simp [phase])⟩
  | some met =>
      obtain ⟨outer, frames⟩ := phase_cases id met phase
      have nested := enclosed.nested
      rw [frames] at nested
      cases nested with
      | construct _ kept _ other _ _ known opens within nested =>
          cases opens with
          | loop before after role =>
              rw [found] at known
              cases known
              refine ⟨kept, ?_, within⟩
              simpa only [prepare, role, phase, closeFrame, frames, List.tail_cons] using nested

theorem reach_nested (id : ComponentId) (component : Component)
    (found : program.component? execution.chart id = some component) (kept : List ComponentId)
    (nested : Nested program execution.chart kept (execution.prepare id component).frames)
    (within : Within program execution.chart kept id) (move : Move) (store : Store)
    (fits : move.Fits program settings id component execution.callDepth execution.store store)
    (makes : Makes id component move) :
    ∃ path, Nested program (reach program id component execution move store).chart path
        (reach program id component execution move store).frames ∧
      ∀ link ∈ move.link component,
        Within program (reach program id component execution move store).chart path link := by
  have onward : ∀ link ∈ component.successor, Within program execution.chart kept link := fun link next =>
    within_link within found (successor_follows component link next)
  rw [← prepare_chart execution id component] at nested within onward found
  cases move with
  | go next => exact ⟨kept, nested, fun link same => within_link within found (fits.1 link same)⟩
  | into frame next =>
      exact ⟨id :: kept, .construct _ kept id component frame _ found (makes_opens id component frame next makes) within
        nested, fun link same => within_opened found (fits.2.1 link same)⟩
  | enter place start ownScope =>
      exact ⟨[], .call place _ kept component.successor ownScope _ onward nested, fun link _ => within_nothing link⟩
  | «show» text => exact ⟨kept, nested, onward⟩
  | ask target prompt => exact ⟨kept, nested, onward⟩

theorem unwind_enclosed (frames : List Frame) (execution : Execution) (next : Option ComponentId)
    (path : List ComponentId) (nested : Nested program execution.chart path frames)
    (within : ∀ id ∈ next, Within program execution.chart path id) :
    ∃ kept, Enclosed program (execution.unwind next frames) kept := by
  induction frames generalizing execution next path with
  | nil =>
      rw [unwind]
      exact ⟨path, nested, fun id here => Or.inl (within id here)⟩
  | cons frame outer ih =>
      cases next with
      | some id =>
          rw [unwind]
          exact ⟨path, nested, fun id here => Or.inl (within id here)⟩
      | none =>
          cases nested with
          | construct _ kept id component _ _ found opens inside nested =>
              cases opens with
              | decision yes no role =>
                  rw [unwind]
                  exact ih execution component.successor kept nested fun link next =>
                    within_link inside found (successor_follows component link next)
              | loop before after role phase =>
                  rw [unwind]
                  refine ⟨id :: kept, .construct _ kept id component _ _ found (.loop before after role phase) inside
                    nested, fun link here => Or.inr ⟨phase, ?_⟩⟩
                  cases here
                  simp [phase?]
          | call _ caller kept next ownScope _ back nested =>
              have left : (execution.leave caller ownScope).chart = caller := rfl
              rw [unwind]
              rw [← left] at nested back
              exact ih (execution.leave caller ownScope) next kept nested back

theorem advance_enclosed (execution : Execution) (next : Option ComponentId) (path : List ComponentId)
    (nested : Nested program execution.chart path execution.frames)
    (within : ∀ id ∈ next, Within program execution.chart path id) :
    ∃ kept, Enclosed program (execution.advance next) kept := by
  obtain ⟨kept, enclosed⟩ := unwind_enclosed execution.frames execution next path nested within
  rw [advance, settle]
  split
  · exact ⟨kept, enclosed.nested, enclosed.placed⟩
  · exact ⟨kept, enclosed⟩

end Moves

section Requests

variable {execution : Execution} {path : List ComponentId}

theorem initial_enclosed (program : Program) (settings : Settings) : Enclosed program (initial program settings) [] :=
  ⟨.outermost 0, fun id _ => Or.inl (within_nothing id)⟩

theorem step_enclosed (sound : Sound program settings execution) (enclosed : Enclosed program execution path) :
    ∃ kept, Enclosed program (step program settings execution).2 kept := by
  by_cases running : execution.state = .running
  · cases here : execution.position with
    | none =>
        rw [step_ended program settings execution running here]
        exact ⟨path, enclosed.nested, enclosed.placed⟩
    | some id =>
        obtain ⟨component, found⟩ := sound.position id here
        obtain ⟨kept, nested, within⟩ := prepared_nested enclosed id component here found
        have yields := move_of_yields program settings id component execution.callDepth (execution.phase? id)
          execution.store
        have makes := move_makes program settings id component execution.callDepth (execution.phase? id)
          execution.store
        rw [step_run program settings id component execution running here found]
        rcases moved : moveOf program settings id component execution.callDepth (execution.phase? id)
          execution.store with ⟨outcome, store⟩
        cases outcome with
        | error fault =>
            refine ⟨kept, ?_, fun other at_other => Or.inl ?_⟩
            · change Nested program (execution.prepare id component).chart kept _
              rw [prepare_chart]
              exact nested
            · have position := (prepare_position execution id component).symm.trans at_other
              rw [here] at position
              cases position
              change Within program (execution.prepare id component).chart kept id
              rw [prepare_chart]
              exact within
        | ok move =>
            obtain ⟨inner, nested, within⟩ := reach_nested id component found kept nested within move store
              (Action.yields_ok yields moved) (makes move store moved)
            exact advance_enclosed _ _ inner nested within
  · rw [step_waiting program settings execution running]
    exact ⟨path, enclosed⟩

theorem answer_enclosed (enclosed : Enclosed program execution path) (text : String) :
    Enclosed program (answer program text execution).2 path := by
  unfold answer
  split
  · rename_i question _ _
    unfold storeAnswer
    rcases assign program.registry question.target (answerValue text) execution.store with ⟨outcome, store⟩
    cases outcome with
    | ok value => exact ⟨enclosed.nested, enclosed.placed⟩
    | error fault => exact ⟨enclosed.nested, enclosed.placed⟩
  · exact enclosed

theorem resume_enclosed (enclosed : Enclosed program execution path) : Enclosed program execution.resume.2 path := by
  unfold resume
  split
  · exact ⟨enclosed.nested, enclosed.placed⟩
  · split
    · exact ⟨enclosed.nested, enclosed.placed⟩
    · exact enclosed
  · exact enclosed
  · exact enclosed

theorem serve_enclosed (sound : Sound program settings execution) (enclosed : Enclosed program execution path)
    (request : Request) : ∃ kept, Enclosed program (request.serve program settings execution).2 kept := by
  cases request with
  | step =>
      rw [Request.serve, noted_reached]
      exact step_enclosed sound enclosed
  | answer text =>
      rw [Request.serve, noted_reached]
      exact ⟨path, answer_enclosed enclosed text⟩
  | resume =>
      rw [Request.serve, noted_reached]
      exact ⟨path, resume_enclosed enclosed⟩
  | reset => exact ⟨[], initial_enclosed program settings⟩

theorem serve_all_enclosed (whole : program.Whole) (requests : List Request) (sound : Sound program settings execution)
    (enclosed : Enclosed program execution path) :
    ∃ kept, Enclosed program (serveAll program settings requests execution) kept := by
  induction requests generalizing execution path with
  | nil => exact ⟨path, enclosed⟩
  | cons request rest ih =>
      obtain ⟨kept, next⟩ := serve_enclosed sound enclosed request
      exact ih (serve_served whole sound request).sound next

end Requests

end Execution

end Flowline
