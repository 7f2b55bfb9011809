import Flowline.Execution.Step
import Flowline.Proofs.Store.Scopes

set_option autoImplicit false

namespace Flowline

open Chart (ComponentId Component)

namespace Action

def parsed {α : Type} : Except Label.Error α → Action α
  | .ok value => pure value
  | .error error => fail (.label error)

def holds (program : Program) (label : String) : Action Bool := do
  let expr ← parsed (Label.parseExpr label)
  let value ← evaluate program.registry expr
  lift value.toBool

def textOf (program : Program) (label : String) : Action String := do
  let expr ← parsed (Label.parseExpr label)
  let value ← evaluate program.registry expr
  fun store => (.ok (value.toText store.heap), store)

def promptOf (program : Program) (prompt : String) : Action String :=
  if (Text.trim prompt.toList).isEmpty then pure "" else textOf program prompt

def passTerminal (label : String) : Action Unit :=
  if Execution.marksTerminal label then pure () else fail (.unknownCommand label)

def perform (program : Program) (label : String) : Action Unit := do
  let expr ← parsed (Label.parseAssignment label)
  let _ ← evaluate program.registry expr
  pure ()

def openScope (program : Program) (name : String) (args : List Label.Expr) (root : Component) : Action Bool :=
  match root.role with
  | .entry => do
      let header ← parsed (Label.parseHeader root.label)
      if header.params.length ≠ args.length then
        fail (.argCount name (.exactly header.params.length) args.length)
      else do
        let scope ← Execution.bindParams program.registry ∅ (header.params.zip args)
        fun store => (.ok true, { store with env := store.env.push scope })
  | _ => if args.isEmpty then pure false else fail (.argCount name (.exactly 0) args.length)

def enterCall (program : Program) (settings : Settings) (depth : Nat) (label : String) :
    Action (Nat × ComponentId × Bool) := do
  let (name, args) ← parsed (Label.parseCall label)
  match program.registry.subchart? name with
  | none => fail (.undefinedSubchart name)
  | some place =>
      if settings.maxCallDepth ≤ depth then fail (.callDepthLimit settings.maxCallDepth)
      else
        match program.start? place with
        | none => fail (.undefinedSubchart name)
        | some (start, root) => do
            let ownScope ← openScope program name args root
            pure (place, start, ownScope)

end Action

namespace Execution

inductive Move where
  | go (next : Option ComponentId)
  | into (frame : Frame) (next : Option ComponentId)
  | enter (place : Nat) (start : ComponentId) (ownScope : Bool)
  | show (text : String)
  | ask (target : Label.Expr) (prompt : String)

def Move.link (component : Component) : Move → Option ComponentId
  | .go next | .into _ next => next
  | .enter _ start _ => some start
  | .show _ | .ask _ _ => component.successor

def Move.make (program : Program) (id : ComponentId) (component : Component) (execution : Execution) :
    Move → Execution
  | .go _ => execution
  | .into frame _ => execution.openFrame frame
  | .enter place _ ownScope => execution.enter place component.successor ownScope
  | .show text => { execution with state := .output text }
  | .ask target prompt =>
      { execution with
        question := some ⟨target, execution.locate program id, false⟩
        state := .input prompt }

def moveOf (program : Program) (settings : Settings) (id : ComponentId) (component : Component) (depth : Nat)
    (phase : Option Phase) : Action Move :=
  match component.role with
  | .terminal => do
      Action.passTerminal component.label
      pure (.go component.successor)
  | .entry => pure (.go component.successor)
  | .assignment => do
      Action.perform program component.label
      pure (.go component.successor)
  | .call => do
      let (place, start, ownScope) ← Action.enterCall program settings depth component.label
      pure (.enter place start ownScope)
  | .decision yes no => do
      let holds ← Action.holds program component.label
      pure (.into (.decision component.successor) (if holds then yes else no))
  | .loop before after =>
      match phase with
      | some .test => do
          let holds ← Action.holds program component.label
          pure (if holds then .go component.successor else .into (.loop id .again) after)
      | _ => pure (.into (.loop id .test) before)
  | .output _ => do
      let text ← Action.textOf program component.label
      pure (.show text)
  | .input prompt => do
      let target ← Action.parsed (Label.parseTarget component.label)
      let text ← Action.promptOf program prompt
      pure (.ask target text)

inductive Makes (id : ComponentId) (component : Component) : Move → Prop where
  | pass : Makes id component (.go component.successor)
  | branch (yes no : Option ComponentId) (role : component.role = .decision yes no) (next : Option ComponentId) :
      Makes id component (.into (.decision component.successor) next)
  | phase (before after : Option ComponentId) (role : component.role = .loop before after) (phase : Phase)
      (next : Option ComponentId) : Makes id component (.into (.loop id phase) next)
  | enter (role : component.role = .call) (place : Nat) (start : ComponentId) (ownScope : Bool) :
      Makes id component (.enter place start ownScope)
  | show (text : String) : Makes id component (.show text)
  | ask (target : Label.Expr) (named : Label.parseTarget component.label = .ok target) (prompt : String) :
      Makes id component (.ask target prompt)

theorem parsed_ok {α : Type} (result : Except Label.Error α) (store after : Store) (value : α)
    (parsed : Action.parsed result store = (.ok value, after)) : result = .ok value ∧ after = store := by
  cases result with
  | error error => cases parsed
  | ok found =>
      cases parsed
      exact ⟨rfl, rfl⟩

theorem parsed_gives {α : Type} (result : Except Label.Error α) :
    Gives (Action.parsed result) fun value => result = .ok value :=
  fun store value after parsed => (parsed_ok result store after value parsed).1

theorem move_makes (program : Program) (settings : Settings) (id : ComponentId) (component : Component) (depth : Nat)
    (phase : Option Phase) : Gives (moveOf program settings id component depth phase) (Makes id component) := by
  cases role : component.role with
  | entry =>
      simp only [moveOf, role]
      exact gives_pure _ .pass
  | terminal | assignment =>
      simp only [moveOf, role]
      exact gives_bind _ _ fun _ => gives_pure _ .pass
  | call =>
      simp only [moveOf, role]
      exact gives_bind _ _ fun opened => gives_pure _ (.enter role opened.1 opened.2.1 opened.2.2)
  | output =>
      simp only [moveOf, role]
      exact gives_bind _ _ fun text => gives_pure _ (.show text)
  | input =>
      simp only [moveOf, role]
      exact gives_bind_of _ _ (parsed_gives _) fun target named => gives_bind _ _ fun prompt =>
        gives_pure _ (.ask target named prompt)
  | decision yes no =>
      simp only [moveOf, role]
      exact gives_bind _ _ fun holds => gives_pure _ (.branch yes no role _)
  | loop before after =>
      simp only [moveOf, role]
      split
      · refine gives_bind _ _ fun holds => gives_pure _ ?_
        split
        · exact .pass
        · exact .phase before after role .again _
      · exact gives_pure _ (.phase before after role .test _)

-- A loop that is visited again is closed before anything else happens.
def prepare (execution : Execution) (id : ComponentId) (component : Component) : Execution :=
  match component.role, execution.phase? id with
  | .loop _ _, some _ => execution.closeFrame
  | _, _ => execution

theorem act_run {α : Type} (action : Action α) (execution : Execution) :
    Turn.act action execution =
      ((action execution.store).1, { execution with store := (action execution.store).2 }) := rfl

theorem act_bind {α β : Type} (first : Action α) (next : α → Action β) :
    Turn.act (first >>= next) = Turn.act first >>= fun value => Turn.act (next value) := by
  funext execution
  rw [run_bind, act_run, act_run, run_bind]
  rcases first execution.store with ⟨outcome, store⟩
  cases outcome with
  | ok value => rfl
  | error fault => rfl

theorem parsed_act {α : Type} (result : Except Label.Error α) :
    Turn.parsed result = Turn.act (Action.parsed result) := by
  cases result <;> rfl

theorem condition_act (program : Program) (label : String) :
    condition program label = Turn.act (Action.holds program label) := by
  simp only [condition, Action.holds, act_bind, parsed_act]

theorem shown_text_act (program : Program) (label : String) :
    shownText program label = Turn.act (Action.textOf program label) := by
  simp only [shownText, Action.textOf, act_bind, parsed_act]
  rfl

theorem prompt_text_act (program : Program) (prompt : String) :
    promptText program prompt = Turn.act (Action.promptOf program prompt) := by
  simp only [promptText, Action.promptOf]
  split
  · rfl
  · exact shown_text_act program prompt

theorem bind_arguments_act (program : Program) (name : String) (args : List Label.Expr) (root : Component) :
    bindArguments program name args root = Turn.act (Action.openScope program name args root) := by
  simp only [bindArguments, Action.openScope]
  cases root.role with
  | entry =>
      dsimp only
      rw [act_bind, parsed_act]
      congr 1
      funext header
      split
      · rfl
      · rw [act_bind]
        rfl
  | _ =>
      dsimp only
      split <;> rfl

def Moved (program : Program) (id : ComponentId) (component : Component) (execution : Execution)
    (done : Except Fault Move × Store) : Except Fault (Option ComponentId) × Execution :=
  match done with
  | (.ok move, store) => (.ok (move.link component), move.make program id component { execution with store })
  | (.error fault, store) => (.error fault, { execution with store })

theorem visit_decision_run (program : Program) (id : ComponentId) (component : Component)
    (yes no : Option ComponentId) (execution : Execution) :
    visitDecision program component yes no execution =
      Moved program id component execution ((do
        let holds ← Action.holds program component.label
        pure (.into (.decision component.successor) (if holds then yes else no)) : Action Move)
          execution.store) := by
  rw [visitDecision, condition_act, run_bind, act_run, run_bind]
  rcases Action.holds program component.label execution.store with ⟨outcome, store⟩
  cases outcome <;> rfl

theorem visit_test_run (program : Program) (id : ComponentId) (component : Component)
    (after : Option ComponentId) (execution : Execution) :
    (do
      Turn.change closeFrame
      let holds ← condition program component.label
      if holds then return component.successor
      else do
        Turn.change (openFrame · (.loop id .again))
        return after : Turn (Option ComponentId)) execution =
      Moved program id component execution.closeFrame ((do
        let holds ← Action.holds program component.label
        pure (if holds then .go component.successor else .into (.loop id .again) after) : Action Move)
          execution.store) := by
  rw [run_bind]
  change (condition program component.label >>= _) execution.closeFrame = _
  rw [condition_act, run_bind, act_run, run_bind]
  have same : execution.closeFrame.store = execution.store := rfl
  rw [same]
  rcases Action.holds program component.label execution.store with ⟨outcome, store⟩
  cases outcome with
  | error fault => rfl
  | ok holds => cases holds <;> rfl

theorem visit_loop_run (program : Program) (settings : Settings) (id : ComponentId) (component : Component)
    (before after : Option ComponentId) (execution : Execution) (role : component.role = .loop before after) :
    visitLoop program id component before after execution =
      Moved program id component (execution.prepare id component)
        (moveOf program settings id component execution.callDepth (execution.phase? id) execution.store) := by
  rw [visitLoop, run_bind]
  simp only [Turn.look, moveOf, prepare, role]
  cases execution.phase? id with
  | none => rfl
  | some phase =>
      cases phase with
      | again => rfl
      | test => exact visit_test_run program id component after execution

theorem visit_call_run (program : Program) (settings : Settings) (id : ComponentId) (component : Component)
    (execution : Execution) :
    visitCall program settings component execution =
      Moved program id component execution ((do
        let (place, start, ownScope) ← Action.enterCall program settings execution.callDepth component.label
        pure (.enter place start ownScope) : Action Move) execution.store) := by
  rw [visitCall, Action.enterCall, parsed_act, run_bind, act_run, run_bind, run_bind]
  rcases Action.parsed (Label.parseCall component.label) execution.store with ⟨outcome, store⟩
  cases outcome with
  | error fault => rfl
  | ok call =>
      dsimp only
      cases program.registry.subchart? call.1 with
      | none => rfl
      | some place =>
          dsimp only
          rw [run_bind, checkDepth, run_bind]
          simp only [Turn.look]
          by_cases deep : settings.maxCallDepth ≤ execution.callDepth
          · simp only [if_pos deep]
            rfl
          · simp only [if_neg deep]
            rw [run_pure]
            cases program.start? place with
            | none => rfl
            | some found =>
                dsimp only
                rw [bind_arguments_act, run_bind, act_run, run_bind]
                dsimp only
                rcases Action.openScope program call.1 call.2 found.2 store with ⟨opened, store⟩
                cases opened <;> rfl

theorem visit_input_run (program : Program) (id : ComponentId) (component : Component) (prompt : String)
    (execution : Execution) :
    visitInput program id component prompt execution =
      Moved program id component execution ((do
        let target ← Action.parsed (Label.parseTarget component.label)
        let text ← Action.promptOf program prompt
        pure (.ask target text) : Action Move) execution.store) := by
  rw [visitInput, parsed_act, run_bind, act_run, run_bind]
  rcases Action.parsed (Label.parseTarget component.label) execution.store with ⟨outcome, store⟩
  cases outcome with
  | error fault => rfl
  | ok target =>
      dsimp only
      rw [prompt_text_act, run_bind, act_run, run_bind]
      dsimp only
      rcases Action.promptOf program prompt store with ⟨outcome, store⟩
      cases outcome <;> rfl

theorem visit_component_run (program : Program) (settings : Settings) (id : ComponentId)
    (component : Component) (execution : Execution) :
    visitComponent program settings id component execution =
      Moved program id component (execution.prepare id component)
        (moveOf program settings id component execution.callDepth (execution.phase? id) execution.store) := by
  cases role : component.role with
  | terminal =>
      simp only [visitComponent, moveOf, prepare, role, visitTerminal, Action.passTerminal]
      split <;> rfl
  | entry =>
      simp only [visitComponent, moveOf, prepare, role]
      rfl
  | assignment =>
      simp only [visitComponent, moveOf, prepare, role, visitAssignment, Action.perform]
      rw [parsed_act, run_bind, act_run, run_bind, run_bind]
      rcases Action.parsed (Label.parseAssignment component.label) execution.store with ⟨outcome, store⟩
      cases outcome with
      | error fault => rfl
      | ok expr =>
          dsimp only
          rw [run_bind, act_run, run_bind]
          dsimp only
          rcases evaluate program.registry expr store with ⟨outcome, store⟩
          cases outcome <;> rfl
  | call =>
      simp only [visitComponent, moveOf, prepare, role]
      exact visit_call_run program settings id component execution
  | decision yes no =>
      simp only [visitComponent, moveOf, prepare, role]
      exact visit_decision_run program id component yes no execution
  | loop before after =>
      rw [← visit_loop_run program settings id component before after execution role]
      simp only [visitComponent, role]
  | output prompt =>
      simp only [visitComponent, moveOf, prepare, role, visitOutput]
      rw [shown_text_act, run_bind, act_run, run_bind]
      rcases Action.textOf program component.label execution.store with ⟨outcome, store⟩
      cases outcome <;> rfl
  | input prompt =>
      simp only [visitComponent, moveOf, prepare, role]
      exact visit_input_run program id component prompt execution

theorem visit_run (program : Program) (settings : Settings) (id : ComponentId) (component : Component)
    (execution : Execution) (found : program.component? execution.chart id = some component) :
    visit program settings id execution =
      Moved program id component (execution.prepare id component)
        (moveOf program settings id component execution.callDepth (execution.phase? id) execution.store) := by
  rw [visit, run_bind]
  simp only [Turn.look, found]
  exact visit_component_run program settings id component execution

theorem visit_missing (program : Program) (settings : Settings) (id : ComponentId) (execution : Execution)
    (missing : program.component? execution.chart id = none) :
    visit program settings id execution = (.error (.unknownComponent id), execution) := by
  rw [visit, run_bind]
  simp only [Turn.look, missing]
  rfl

def reach (program : Program) (id : ComponentId) (component : Component) (execution : Execution) (move : Move)
    (store : Store) : Execution :=
  move.make program id component { execution.prepare id component with store }

theorem prepare_frames (execution : Execution) (id : ComponentId) (component : Component) :
    execution.prepare id component = { execution with frames := (execution.prepare id component).frames } := by
  simp only [prepare]
  split <;> rfl

theorem prepare_chart (execution : Execution) (id : ComponentId) (component : Component) :
    (execution.prepare id component).chart = execution.chart := by
  rw [prepare_frames]

theorem prepare_store (execution : Execution) (id : ComponentId) (component : Component) :
    (execution.prepare id component).store = execution.store := by
  rw [prepare_frames]

theorem prepare_position (execution : Execution) (id : ComponentId) (component : Component) :
    (execution.prepare id component).position = execution.position := by
  rw [prepare_frames]

theorem prepare_depth (execution : Execution) (id : ComponentId) (component : Component) :
    (execution.prepare id component).callDepth = execution.callDepth := by
  rw [prepare_frames]

theorem prepare_state (execution : Execution) (id : ComponentId) (component : Component) :
    (execution.prepare id component).state = execution.state := by
  rw [prepare_frames]

theorem prepare_question (execution : Execution) (id : ComponentId) (component : Component) :
    (execution.prepare id component).question = execution.question := by
  rw [prepare_frames]

theorem step_run (program : Program) (settings : Settings) (id : ComponentId) (component : Component)
    (execution : Execution) (running : execution.state = .running) (here : execution.position = some id)
    (found : program.component? execution.chart id = some component) :
    step program settings execution =
      match moveOf program settings id component execution.callDepth (execution.phase? id) execution.store with
      | (.ok move, store) =>
          let advanced := (reach program id component execution move store).advance (move.link component)
          (.ok advanced.state, advanced)
      | (.error fault, store) =>
          abort { execution.prepare id component with store } ⟨fault, some (execution.locate program id)⟩ := by
  unfold step
  rw [running, here]
  dsimp only
  rw [visit_run program settings id component execution found]
  rcases moveOf program settings id component execution.callDepth (execution.phase? id) execution.store with
    ⟨outcome, store⟩
  cases outcome with
  | ok move => rfl
  | error fault =>
      simp only [Moved, abort, locate, prepare_chart]

theorem step_missing (program : Program) (settings : Settings) (id : ComponentId) (execution : Execution)
    (running : execution.state = .running) (here : execution.position = some id)
    (missing : program.component? execution.chart id = none) :
    step program settings execution = execution.abort ⟨.unknownComponent id, some (execution.locate program id)⟩ := by
  unfold step
  rw [running, here]
  dsimp only
  rw [visit_missing program settings id execution missing]

theorem step_ended (program : Program) (settings : Settings) (execution : Execution)
    (running : execution.state = .running) (nowhere : execution.position = none) :
    step program settings execution = (.ok .done, { execution with state := .done }) := by
  unfold step
  rw [running, nowhere]

theorem step_waiting (program : Program) (settings : Settings) (execution : Execution)
    (waiting : execution.state ≠ .running) : step program settings execution = (.ok execution.state, execution) := by
  unfold step
  cases state : execution.state with
  | running => exact absurd state waiting
  | output text => rfl
  | input prompt => rfl
  | done => rfl

end Execution

end Flowline
