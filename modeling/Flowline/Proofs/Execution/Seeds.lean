import Flowline.Proofs.Execution.Drive
import Flowline.Proofs.Execution.Redundant
import Flowline.Proofs.Program.Words

set_option autoImplicit false

namespace Flowline

open Chart (ComponentId Component)

theorem blind_performed {program : Program} {word : String} (only : program.registry.DrawsBy word) :
    Performed program (fun text => ¬ Label.Mentions word text) (Label.Expr.Avoids word) Blind where
  toWalked := blind_walked only
  expr := fun _ unnamed => Label.parse_expr_avoids unnamed
  assignment := fun _ unnamed => Label.parse_assignment_avoids unnamed
  call := fun _ unnamed => Label.parse_call_avoids unnamed

namespace Execution

section Moves

variable {program : Program} {word : String} {component : Component}
  (unnamed : ∀ text ∈ component.texts, ¬ Label.Mentions word text)

include unnamed

theorem move_of_blind (only : program.registry.DrawsBy word) (settings : Settings) (id : ComponentId) (depth : Nat)
    (phase : Option Phase) : Blind (moveOf program settings id component depth phase) := by
  have performed := blind_performed only
  refine performed.move_of_holds (performed.open_scope_holds (fun _ _ _ => rfl) fun _ _ _ => rfl) settings id component
    depth phase (unnamed component.label component.label_mem_texts) fun prompt role => ?_
  exact unnamed prompt (by simp [Component.texts, role])

theorem makes_asks (id : ComponentId) (target : Label.Expr) (prompt : String)
    (makes : Makes id component (.ask target prompt)) : target.Avoids word := by
  cases makes with
  | ask _ named => exact Label.parse_target_avoids (unnamed component.label component.label_mem_texts) target named

end Moves

def redraw (execution : Execution) (draws : Generator) : Execution :=
  { execution with store := { execution.store with draws } }

section Redrawn

variable (execution : Execution) (draws : Generator)

theorem redraw_state : (execution.redraw draws).state = execution.state := rfl

theorem redraw_question : (execution.redraw draws).question = execution.question := rfl

theorem redraw_phase (id : ComponentId) : (execution.redraw draws).phase? id = execution.phase? id := rfl

end Redrawn

def Asks (word : String) (execution : Execution) : Prop :=
  ∀ question, execution.question = some question → question.target.Avoids word

section Steps

variable {program : Program} {word : String} {execution : Execution}

theorem prepare_redraw (execution : Execution) (draws : Generator) (id : ComponentId) (component : Component) :
    (execution.redraw draws).prepare id component = (execution.prepare id component).redraw draws := by
  simp only [prepare, redraw_phase]
  split <;> rfl

theorem reach_redraw (program : Program) (id : ComponentId) (component : Component) (execution : Execution)
    (draws : Generator) (move : Move) (store : Store) :
    reach program id component (execution.redraw draws) move { store with draws } =
      (reach program id component execution move store).redraw draws := by
  simp only [reach, prepare_redraw]
  cases move <;> rfl

theorem settle_redraw (execution : Execution) (draws : Generator) :
    (execution.redraw draws).settle = execution.settle.redraw draws := by
  by_cases ended : execution.state = .running ∧ execution.position = none
  · rw [settle, settle, if_pos ended]
    exact if_pos ended
  · rw [settle, settle, if_neg ended]
    exact if_neg ended

theorem advance_redraw (execution : Execution) (draws : Generator) (next : Option ComponentId) :
    (execution.redraw draws).advance next = (execution.advance next).redraw draws := by
  have unwound : (execution.redraw draws).unwind next execution.frames =
      (execution.unwind next execution.frames).redraw draws := by
    rw [redraw, unwind_stored, redraw, unwind_store]
    rfl
  rw [advance, advance, ← settle_redraw, ← unwound]
  rfl

theorem step_redraw (avoids : program.Avoids word) (only : program.registry.DrawsBy word) (settings : Settings)
    (execution : Execution) (draws : Generator) :
    step program settings (execution.redraw draws) =
      ((step program settings execution).1, (step program settings execution).2.redraw draws) := by
  by_cases running : execution.state = .running
  · have going : (execution.redraw draws).state = .running := running
    cases here : execution.position with
    | none =>
        rw [step_ended program settings execution running here,
          step_ended program settings (execution.redraw draws) going here]
        rfl
    | some id =>
        cases found : program.component? execution.chart id with
        | none =>
            rw [step_missing program settings id execution running here found,
              step_missing program settings id (execution.redraw draws) going here found]
            rfl
        | some component =>
            have blind := move_of_blind (avoids execution.chart id component found) only settings id
              execution.callDepth (execution.phase? id) execution.store draws
            have again : moveOf program settings id component (execution.redraw draws).callDepth
                ((execution.redraw draws).phase? id) (execution.redraw draws).store = _ := blind
            rw [step_run program settings id component execution running here found,
              step_run program settings id component (execution.redraw draws) going here found, again]
            rcases moveOf program settings id component execution.callDepth (execution.phase? id) execution.store with
              ⟨outcome, store⟩
            cases outcome with
            | ok move =>
                dsimp only
                rw [reach_redraw, advance_redraw]
                rfl
            | error fault =>
                dsimp only
                rw [prepare_redraw]
                rfl
  · rw [step_waiting program settings execution running,
      step_waiting program settings (execution.redraw draws) running]
    rfl

theorem answer_redraw (only : program.registry.DrawsBy word) (asks : Asks word execution) (text : String)
    (draws : Generator) :
    answer program text (execution.redraw draws) =
      ((answer program text execution).1, (answer program text execution).2.redraw draws) := by
  unfold answer
  rw [redraw_state, redraw_question]
  split
  · rename_i asked _ known
    have blind := (blind_walked only).assign_holds blind_stored asked.target (answerValue text) (asks asked known)
      execution.store draws
    have again : assign program.registry asked.target (answerValue text) (execution.redraw draws).store = _ := blind
    rw [storeAnswer, storeAnswer, again]
    rcases assign program.registry asked.target (answerValue text) execution.store with ⟨outcome, store⟩
    cases outcome <;> rfl
  · rfl

theorem resume_redraw (execution : Execution) (draws : Generator) :
    (execution.redraw draws).resume = (execution.resume.1, execution.resume.2.redraw draws) := by
  unfold resume
  rw [redraw_state, redraw_question]
  split
  · rfl
  · split <;> rfl
  · rfl
  · rfl

theorem asks_same (asks : Asks word execution) (reached : Execution) (same : reached.question = execution.question) :
    Asks word reached := fun question asked => asks question (same ▸ asked)

theorem step_asks (avoids : program.Avoids word) (settings : Settings) (asks : Asks word execution) :
    Asks word (step program settings execution).2 := by
  by_cases running : execution.state = .running
  · cases here : execution.position with
    | none =>
        rw [step_ended program settings execution running here]
        exact asks_same asks _ rfl
    | some id =>
        cases found : program.component? execution.chart id with
        | none =>
            rw [step_missing program settings id execution running here found]
            exact asks_same asks _ rfl
        | some component =>
            have makes := move_makes program settings id component execution.callDepth (execution.phase? id)
              execution.store
            have prepared := asks_same asks _ (prepare_question execution id component)
            rw [step_run program settings id component execution running here found]
            rcases moved : moveOf program settings id component execution.callDepth (execution.phase? id)
              execution.store with ⟨outcome, store⟩
            cases outcome with
            | error fault => exact asks_same prepared _ rfl
            | ok move =>
                have reached : Asks word (reach program id component execution move store) := by
                  cases move with
                  | ask target prompt =>
                      intro question asked
                      cases asked
                      exact makes_asks (avoids execution.chart id component found) id target prompt
                        (makes (.ask target prompt) store moved)
                  | _ => exact asks_same prepared _ rfl
                exact asks_same reached _ (advance_question _)
  · rw [step_waiting program settings execution running]
    exact asks

theorem answer_asks (asks : Asks word execution) (text : String) : Asks word (answer program text execution).2 := by
  unfold answer
  split
  · rename_i known _ asked
    rw [storeAnswer]
    rcases assign program.registry known.target (answerValue text) execution.store with ⟨outcome, store⟩
    cases outcome with
    | error fault =>
        intro question none
        cases none
    | ok value =>
        intro question same
        cases same
        exact asks known asked
  · exact asks

theorem resume_asks (asks : Asks word execution) : Asks word execution.resume.2 := by
  unfold resume
  split
  · exact asks
  · split
    · intro question none
      cases none
    · exact asks
  · exact asks
  · exact asks

end Steps

section Runs

variable {program : Program} {word : String} {execution : Execution}

-- What a host is told by all its calls, and the program after them.
def converse (program : Program) (settings : Settings) (execution : Execution) :
    List Request → List (Except Failure (Option State)) × Execution
  | [] => ([], execution)
  | request :: rest =>
      let (told, reached) := request.call program settings execution
      let (others, last) := converse program settings reached rest
      (told :: others, last)

theorem call_asks (avoids : program.Avoids word) (settings : Settings) (asks : Asks word execution)
    (request : Request) : Asks word (request.call program settings execution).2 := by
  cases request with
  | step => exact step_asks avoids settings asks
  | answer text => exact answer_asks asks text
  | resume => exact resume_asks asks
  | reset =>
      intro question none
      cases none

-- Only a program that is started anew takes its generator from the settings.
theorem call_redraw (avoids : program.Avoids word) (only : program.registry.DrawsBy word) (first second : UInt64)
    (depth : Nat) (asks : Asks word execution) (draws : Generator) (request : Request) :
    ∃ later, request.call program ⟨second, depth⟩ (execution.redraw draws) =
      ((request.call program ⟨first, depth⟩ execution).1,
        (request.call program ⟨first, depth⟩ execution).2.redraw later) := by
  cases request with
  | step =>
      have stepped := step_redraw avoids only ⟨first, depth⟩ execution draws
      have same : step program ⟨second, depth⟩ (execution.redraw draws) =
        step program ⟨first, depth⟩ (execution.redraw draws) := rfl
      refine ⟨draws, ?_⟩
      simp only [Request.call, same, stepped]
  | answer text =>
      refine ⟨draws, ?_⟩
      simp only [Request.call, answer_redraw only asks text draws]
  | resume =>
      refine ⟨draws, ?_⟩
      simp only [Request.call, resume_redraw execution draws]
  | reset => exact ⟨.ofSeed second, rfl⟩

theorem converse_redraw (avoids : program.Avoids word) (only : program.registry.DrawsBy word) (first second : UInt64)
    (depth : Nat) (asks : Asks word execution) (draws : Generator) (requests : List Request) :
    ∃ later, converse program ⟨second, depth⟩ (execution.redraw draws) requests =
      ((converse program ⟨first, depth⟩ execution requests).1,
        (converse program ⟨first, depth⟩ execution requests).2.redraw later) := by
  induction requests generalizing execution draws with
  | nil => exact ⟨draws, rfl⟩
  | cons request rest ih =>
      obtain ⟨middle, called⟩ := call_redraw avoids only first second depth asks draws request
      obtain ⟨later, others⟩ := ih (call_asks avoids ⟨first, depth⟩ asks request) middle
      refine ⟨later, ?_⟩
      simp only [converse, called, others]

/-- A seed cannot be told from a program in which no label and no prompt has the word for random numbers. Whatever its
host calls for, the program tells it the same with any two seeds, and is the same but for its generator. -/
theorem seeds_unseen (bytes : List UInt8) (program : Program) (loaded : Program.load bytes = .ok program)
    (avoids : program.Avoids "random") (first second : UInt64) (depth : Nat) (requests : List Request) :
    let one := converse program ⟨first, depth⟩ (initial program ⟨first, depth⟩) requests
    let other := converse program ⟨second, depth⟩ (initial program ⟨second, depth⟩) requests
    other.1 = one.1 ∧ ∃ draws, other.2 = one.2.redraw draws := by
  intro one other
  have only := Program.load_draws bytes program loaded
  have asks : Asks "random" (initial program ⟨first, depth⟩) := fun question none => nomatch none
  obtain ⟨draws, same⟩ := converse_redraw avoids only first second depth asks (.ofSeed second) requests
  change other = (one.1, one.2.redraw draws) at same
  rw [same]
  exact ⟨rfl, draws, rfl⟩

theorem seeds_unseen_back :
    let program := Sample.loaded Sample.back Sample.back_loads
    let requests := [.step, .step, .answer "3", .resume, .step, .step, .step]
    let one := converse program ⟨1, 8⟩ (initial program ⟨1, 8⟩) requests
    let other := converse program ⟨2, 8⟩ (initial program ⟨2, 8⟩) requests
    program.Avoids "random" ∧ one.1.getLast? = some (.ok (some (.output "bye"))) ∧
      other.2.store.draws ≠ one.2.store.draws ∧ other.1 = one.1 ∧ ∃ draws, other.2 = one.2.redraw draws := by
  intro program requests one other
  have avoids : program.Avoids "random" := program.avoids_of_texts "random" (by decide +kernel)
  have runs : one.1.getLast? = some (.ok (some (.output "bye"))) ∧ other.2.store.draws ≠ one.2.store.draws := by
    decide +kernel
  exact ⟨avoids, runs.1, runs.2, seeds_unseen Sample.back program (Sample.load_loaded _ _) avoids 1 2 8 requests⟩

end Runs

end Execution

end Flowline
