import Flowline.Proofs.Execution.Effects
import Flowline.Proofs.Execution.Unwind
import Flowline.Proofs.Program.Sample
import Flowline.Proofs.Program.Whole

set_option autoImplicit false

namespace Flowline

open Chart (ComponentId Component)

namespace Program

def Has (program : Program) (location : Location) : Prop :=
  ∃ subchart ∈ program.subcharts, subchart.name = location.chart ∧
    ∃ component, subchart.flowchart.get? location.component = some component

theorem component_cases (program : Program) (place : Nat) (id : ComponentId) (component : Component)
    (found : program.component? place id = some component) :
    ∃ subchart, program.subchart? place = some subchart ∧ subchart.flowchart.get? id = some component := by
  unfold component? at found
  cases charted : program.subchart? place with
  | none =>
      rw [charted] at found
      cases found
  | some subchart =>
      rw [charted] at found
      exact ⟨subchart, rfl, found⟩

theorem subchart_valid (program : Program) (place : Nat) (subchart : Subchart)
    (charted : program.subchart? place = some subchart) :
    place < program.subcharts.length ∧ subchart ∈ program.subcharts := by
  obtain ⟨valid, same⟩ := List.getElem?_eq_some_iff.mp charted
  subst same
  exact ⟨valid, List.getElem_mem valid⟩

theorem contains_component (program : Program) (place : Nat) (subchart : Subchart) (id : ComponentId)
    (charted : program.subchart? place = some subchart)
    (present : subchart.flowchart.components.contains id = true) :
    ∃ component, program.component? place id = some component := by
  obtain ⟨component, found⟩ := Option.isSome_iff_exists.mp present
  refine ⟨component, ?_⟩
  rw [component?, charted]
  exact found

theorem knows_links (program : Program) (whole : program.Whole) (place : Nat) (id : ComponentId)
    (component : Component) (found : program.component? place id = some component)
    (next : Option ComponentId) (follows : ∀ link, next = some link → link ∈ component.links) :
    program.Knows place next := by
  intro link some
  obtain ⟨subchart, charted, held⟩ := program.component_cases place id component found
  have chart := whole.charts subchart (program.subchart_valid place subchart charted).2
  exact program.contains_component place subchart link charted (chart.links id component held link (follows link some))

theorem start_known (program : Program) (place : Nat) (start : ComponentId) (root : Component)
    (started : program.start? place = some (start, root)) :
    place < program.subcharts.length ∧ program.Knows place (some start) := by
  unfold start? at started
  cases charted : program.subchart? place with
  | none =>
      rw [charted] at started
      cases started
  | some subchart =>
      rw [charted] at started
      refine ⟨(program.subchart_valid place subchart charted).1, fun id same => ?_⟩
      cases found : subchart.flowchart.rootComponent? with
      | none => simp [found] at started
      | some component =>
          simp only [Option.bind_some, found, Option.map_some, Option.some.injEq, Prod.mk.injEq] at started same
          rw [← same, ← started.1]
          refine ⟨component, ?_⟩
          rw [component?, charted]
          exact found

end Program

namespace Execution

inductive Request where
  | step
  | answer (text : String)
  | resume
  | reset

def Request.serve (program : Program) (settings : Settings) (execution : Execution) :
    Request → Option Failure × Execution
  | .step => noted (Execution.step program settings execution)
  | .answer text => noted (Execution.answer program text execution)
  | .resume => noted execution.resume
  | .reset => (none, initial program settings)
where
  noted {α : Type} : Except Failure α × Execution → Option Failure × Execution
    | (.ok _, reached) => (none, reached)
    | (.error failure, reached) => (some failure, reached)

theorem noted_reached {α : Type} (result : Except Failure α × Execution) :
    (Request.serve.noted result).2 = result.2 := by
  rcases result with ⟨outcome, reached⟩
  cases outcome <;> rfl

def serveAll (program : Program) (settings : Settings) (requests : List Request) (execution : Execution) :
    Execution :=
  requests.foldl (fun reached request => (request.serve program settings reached).2) execution

structure Sound (program : Program) (settings : Settings) (execution : Execution) : Prop
    extends Settled program settings execution where
  asked : ∀ question, execution.question = some question → program.Has question.location

-- A failure with a cause that a component can have, at a place that is there.
structure Rightful (program : Program) (failure : Failure) : Prop where
  cause : failure.cause.Ordinary
  location : ∀ place, failure.location = some place → program.Has place

def Clear (execution : Execution) : Prop :=
  execution.frames = [] ∧ execution.callDepth = 0 ∧ execution.store.env.depth = 1

theorem settled_clear {program : Program} {settings : Settings} {execution : Execution}
    (settled : Settled program settings execution) (ended : execution.position = none) : execution.Clear := by
  have none := settled.ended ended
  have calls := settled.inside.calls
  have scopes := settled.inside.scopes
  rw [none] at calls scopes
  exact ⟨none, calls, scopes⟩

-- What is owed to the host after a request.
structure Served (program : Program) (settings : Settings) (before : Execution)
    (result : Option Failure × Execution) : Prop where
  sound : Sound program settings result.2
  failure : ∀ failure, result.1 = some failure → Rightful program failure
  finish : before.isRunning = true → result.1 = none → result.2.isRunning = false → result.2.Clear

section Steps

variable {program : Program} {settings : Settings} {execution : Execution}

theorem initial_sound (whole : program.Whole) : Sound program settings (initial program settings) := by
  obtain ⟨subchart, first⟩ : ∃ subchart, program.subchart? 0 = some subchart :=
    ⟨program.subcharts.get ⟨0, whole.nonempty⟩, List.getElem?_eq_getElem whole.nonempty⟩
  have valid := program.subchart_valid 0 subchart first
  have placed : (initial program settings).position = some subchart.flowchart.root := by
    simp only [initial, first, Option.map_some]
  exact {
    inside := ⟨whole.nonempty, rfl, rfl, Nat.zero_le _, rfl⟩
    position := by
      intro id at_root
      rw [placed] at at_root
      cases at_root
      exact program.contains_component 0 subchart _ first (whole.charts subchart valid.2).root
    ended := fun _ => rfl
    asked := fun question none => nomatch none }

theorem located (id : ComponentId) (component : Component)
    (found : program.component? execution.chart id = some component) :
    program.Has (execution.locate program id) := by
  obtain ⟨subchart, charted, held⟩ := program.component_cases execution.chart id component found
  refine ⟨subchart, (program.subchart_valid _ subchart charted).2, ?_, component, held⟩
  simp only [locate, charted, Option.map_some, Option.getD_some]

theorem stored_sound (sound : Sound program settings execution) (store : Store)
    (same : SameDepth execution.store store) (state : State) (question : Option Question)
    (asked : ∀ known, question = some known → program.Has known.location) :
    Sound program settings { execution with store, state, question } where
  inside := ⟨sound.inside.chart, sound.inside.fit, sound.inside.calls, sound.inside.bounded,
    same.trans sound.inside.scopes⟩
  position := sound.position
  ended := sound.ended
  asked := asked

theorem frame_closed (id : ComponentId) (phase : Phase) (outer : List Frame)
    (inside : Inside program settings (.loop id phase :: outer) execution) :
    Inside program settings outer execution where
  chart := inside.chart
  fit := inside.fit.2
  calls := by rw [inside.calls, calls_in_cons]; rfl
  bounded := inside.bounded
  scopes := by rw [inside.scopes, scopes_in_cons]; rfl

theorem phase_cases (id : ComponentId) (phase : Phase) (open_loop : execution.phase? id = some phase) :
    ∃ outer, execution.frames = .loop id phase :: outer := by
  simp only [phase?] at open_loop
  split at open_loop
  · rename_i top kind first
    split at open_loop
    · rename_i same
      cases open_loop
      subst same
      obtain ⟨outer, frames⟩ := List.head?_eq_some_iff.mp first
      exact ⟨outer, frames⟩
    · cases open_loop
  · cases open_loop

theorem prepared_inside (inside : Inside program settings execution.frames execution) (id : ComponentId)
    (component : Component) :
    Inside program settings (execution.prepare id component).frames (execution.prepare id component) := by
  simp only [prepare]
  split
  · rename_i phase role looped
    obtain ⟨outer, frames⟩ := phase_cases id phase looped
    rw [frames] at inside
    have closed := frame_closed id phase outer inside
    have rest : execution.closeFrame.frames = outer := by
      simp only [closeFrame, frames, List.tail_cons]
    rw [rest]
    exact ⟨closed.chart, closed.fit, closed.calls, closed.bounded, closed.scopes⟩
  · exact inside

theorem prepare_nil (id : ComponentId) (component : Component) (closed : execution.frames = []) :
    (execution.prepare id component).frames = [] := by
  simp only [prepare]
  split
  · simp only [closeFrame, closed, List.tail_nil]
  · exact closed

theorem restored_inside {frames : List Frame} (inside : Inside program settings frames execution) (store : Store)
    (same : SameDepth execution.store store) (state : State) (question : Option Question) :
    Inside program settings frames { execution with store, state, question } :=
  ⟨inside.chart, inside.fit, inside.calls, inside.bounded, same.trans inside.scopes⟩

theorem opened_inside (inside : Inside program settings execution.frames execution) (frame : Frame)
    (fit : FramesFit program execution.chart (frame :: execution.frames)) (plain : frame.isCall = false)
    (unscoped : frame.ownsScope = false) :
    Inside program settings (frame :: execution.frames) (execution.openFrame frame) where
  chart := inside.chart
  fit := fit
  calls := by
    rw [calls_in_cons, plain]
    exact inside.calls
  bounded := inside.bounded
  scopes := by
    rw [scopes_in_cons, unscoped]
    exact inside.scopes

theorem entered_inside {frames : List Frame} (inside : Inside program settings frames execution) (store : Store)
    (place : Nat) (start : ComponentId) (next : Option ComponentId) (ownScope : Bool)
    (entered : Action.Entered program settings execution.callDepth execution.store place start ownScope store)
    (known : program.Knows execution.chart next) :
    Inside program settings (.call next execution.chart ownScope :: frames)
      ({ execution with store }.enter place next ownScope) := by
  obtain ⟨shallow, ⟨root, started⟩, scopes⟩ := entered
  exact {
    chart := (program.start_known place start root started).1
    fit := ⟨inside.chart, known, inside.fit⟩
    calls := by
      rw [calls_in_cons, ← inside.calls]
      rfl
    bounded := shallow
    scopes := by
      rw [scopes_in_cons]
      change store.env.depth = 1 + (scopesIn frames + ownScope.toNat)
      rw [scopes, inside.scopes]
      omega }

theorem reach_inside (whole : program.Whole) (id : ComponentId) (component : Component)
    (found : program.component? execution.chart id = some component)
    (inside : Inside program settings execution.frames execution) (move : Move) (store : Store)
    (fits : move.Fits program settings id component execution.callDepth execution.store store) :
    Inside program settings (reach program id component execution move store).frames
        (reach program id component execution move store) ∧
      program.Knows (reach program id component execution move store).chart (move.link component) := by
  have prepared := prepared_inside inside id component
  have here : program.Knows execution.chart (some id) := by
    intro link same
    cases same
    exact ⟨component, found⟩
  have links := program.knows_links whole execution.chart id component found
  have onward := links component.successor (successor_follows component)
  rw [← prepare_store execution id component] at fits
  rw [← prepare_depth execution id component] at fits
  rw [← prepare_chart execution id component] at here links onward
  simp only [reach]
  generalize execution.prepare id component = ready at fits prepared here links onward
  cases move with
  | go next =>
      exact ⟨restored_inside prepared store fits.2 ready.state ready.question, links next fits.1⟩
  | into frame next =>
      obtain ⟨kind, follows, same⟩ := fits
      have kept := restored_inside prepared store same ready.state ready.question
      refine ⟨?_, links next follows⟩
      rcases kind with decision | ⟨phase, loop⟩
      · subst decision
        exact opened_inside kept _ ⟨onward, kept.fit⟩ rfl rfl
      · subst loop
        exact opened_inside kept _ ⟨here, kept.fit⟩ rfl rfl
  | enter place start ownScope =>
      obtain ⟨root, started⟩ := fits.2.1
      exact ⟨entered_inside prepared store place start component.successor ownScope fits onward,
        (program.start_known place start root started).2⟩
  | «show» text =>
      exact ⟨restored_inside prepared store fits (.output text) ready.question, onward⟩
  | ask target prompt =>
      exact ⟨restored_inside prepared store fits (.input prompt) _, onward⟩

theorem reach_asked (sound : Sound program settings execution) (id : ComponentId) (component : Component)
    (found : program.component? execution.chart id = some component) (move : Move) (store : Store)
    (question : Question) (asked : (reach program id component execution move store).question = some question) :
    program.Has question.location := by
  have before : ∀ known, (execution.prepare id component).question = some known → program.Has known.location := by
    intro known same
    rw [prepare_question] at same
    exact sound.asked known same
  cases move with
  | ask target prompt =>
      cases asked
      change program.Has (Location.mk _ id)
      rw [← prepare_chart execution id component] at found
      exact @located program { execution.prepare id component with store } id component found
  | _ => exact before question asked

theorem advance_settled (next : Option ComponentId) (inside : Inside program settings execution.frames execution)
    (known : program.Knows execution.chart next) : Settled program settings (execution.advance next) := by
  have settled := unwind_settled program settings execution.frames execution next inside known
  simp only [advance, settle]
  split
  · obtain ⟨kept, position, ended⟩ := settled
    exact ⟨⟨kept.chart, kept.fit, kept.calls, kept.bounded, kept.scopes⟩, position, ended⟩
  · exact settled

theorem advance_question (next : Option ComponentId) : (execution.advance next).question = execution.question := by
  simp only [advance, settle]
  split
  · exact (unwind_state execution next execution.frames).2
  · exact (unwind_state execution next execution.frames).2

theorem advance_state (next : Option ComponentId) :
    (execution.advance next).state = execution.state ∨
      (execution.advance next).state = .done ∧ (execution.advance next).position = none := by
  simp only [advance, settle]
  split
  · rename_i finished
    exact Or.inr ⟨rfl, finished.2⟩
  · exact Or.inl (unwind_state execution next execution.frames).1

theorem reach_state (id : ComponentId) (component : Component) (move : Move) (store : Store)
    (running : execution.state = .running) :
    (reach program id component execution move store).state ≠ .done := by
  have ready : (execution.prepare id component).state ≠ .done := by
    rw [prepare_state, running]
    exact fun finished => nomatch finished
  simp only [reach]
  cases move with
  | «show» text => exact fun finished => nomatch finished
  | ask target prompt => exact fun finished => nomatch finished
  | _ => exact ready

theorem moved_served (whole : program.Whole) (sound : Sound program settings execution)
    (running : execution.state = .running) (id : ComponentId) (component : Component)
    (found : program.component? execution.chart id = some component) (move : Move) (store : Store)
    (fits : move.Fits program settings id component execution.callDepth execution.store store) :
    Served program settings execution
      (none, (reach program id component execution move store).advance (move.link component)) := by
  obtain ⟨inside, known⟩ := reach_inside whole id component found sound.inside move store fits
  have settled := advance_settled (move.link component) inside known
  exact {
    sound := {
      toSettled := settled
      asked := by
        intro question asked
        rw [advance_question] at asked
        exact reach_asked sound id component found move store question asked }
    failure := fun _ none => nomatch none
    finish := by
      intro _ _ finished
      have done : ((reach program id component execution move store).advance (move.link component)).state = .done := by
        simpa [isRunning] using finished
      rcases @advance_state (reach program id component execution move store) (move.link component)
        with same | ended
      · rw [same] at done
        exact absurd done (reach_state id component move store running)
      · exact settled_clear settled ended.2 }

theorem failed_served (sound : Sound program settings execution) (id : ComponentId) (component : Component)
    (found : program.component? execution.chart id = some component) (fault : Fault) (store : Store)
    (aborted : Action.Aborts execution.store fault store) :
    Served program settings execution
      (some ⟨fault, some (execution.locate program id)⟩,
        { execution.prepare id component with store, state := .done }) where
  sound := by
    have prepared := prepared_inside sound.inside id component
    have same : SameDepth (execution.prepare id component).store store := by
      rw [prepare_store]
      exact aborted.2
    exact {
      inside := restored_inside prepared store same .done _
      position := by
        change program.Knows (execution.prepare id component).chart (execution.prepare id component).position
        rw [prepare_chart, prepare_position]
        exact sound.position
      ended := by
        intro nowhere
        have before : execution.position = none := (execution.prepare_position id component).symm.trans nowhere
        exact prepare_nil id component (sound.ended before)
      asked := by
        intro question asked
        exact sound.asked question ((execution.prepare_question id component).symm.trans asked) }
  failure := by
    intro failure same
    cases same
    refine ⟨aborted.1, fun place same => ?_⟩
    cases same
    exact located id component found
  finish := fun _ none => nomatch none

theorem unchanged_served (sound : Sound program settings execution) :
    Served program settings execution (none, execution) where
  sound := sound
  failure := fun _ none => nomatch none
  finish := by
    intro running _ finished
    rw [running] at finished
    cases finished

theorem refused_served (sound : Sound program settings execution) (cause : Fault) (ordinary : cause.Ordinary) :
    Served program settings execution (some ⟨cause, none⟩, execution) where
  sound := sound
  failure := by
    intro failure same
    cases same
    exact ⟨ordinary, fun place none => nomatch none⟩
  finish := fun _ none => nomatch none

theorem step_served (whole : program.Whole) (sound : Sound program settings execution) :
    Served program settings execution (Request.serve program settings execution .step) := by
  rw [Request.serve]
  by_cases running : execution.state = .running
  · cases here : execution.position with
    | none =>
        rw [step_ended program settings execution running here]
        have ended := stored_sound sound execution.store rfl .done execution.question sound.asked
        exact {
          sound := ended
          failure := fun _ none => nomatch none
          finish := fun _ _ _ => settled_clear ended.toSettled here }
    | some id =>
        obtain ⟨component, found⟩ := sound.position id here
        rw [step_run program settings id component execution running here found]
        have yields := move_of_yields program settings id component execution.callDepth (execution.phase? id)
          execution.store
        rcases result : moveOf program settings id component execution.callDepth (execution.phase? id)
          execution.store with ⟨outcome, store⟩
        cases outcome with
        | ok move =>
            exact moved_served whole sound running id component found move store (Action.yields_ok yields result)
        | error fault =>
            exact failed_served sound id component found fault store (Action.yields_error yields result)
  · rw [step_waiting program settings execution running]
    exact unchanged_served sound

theorem store_answer_served (sound : Sound program settings execution) (question : Question) (text : String)
    (asked : execution.question = some question) (waiting : execution.isRunning = true) :
    Served program settings execution
      (Request.serve.noted (storeAnswer program question text execution)) := by
  have calm := calm_closed.assign_holds program.registry question.target (answerValue text)
  have depth := calm.depth execution.store
  have faults := calm.faults execution.store
  have place := sound.asked question asked
  simp only [storeAnswer]
  rcases result : assign program.registry question.target (answerValue text) execution.store with ⟨outcome, store⟩
  rw [result] at depth faults
  cases outcome with
  | ok value =>
      exact {
        sound := stored_sound sound store depth execution.state _ fun known same => by
          cases same
          exact place
        failure := fun _ none => nomatch none
        finish := by
          intro _ _ finished
          change execution.isRunning = false at finished
          rw [waiting] at finished
          cases finished }
  | error fault =>
      exact {
        sound := stored_sound sound store depth .done none fun _ none => nomatch none
        failure := by
          intro failure same
          cases same
          refine ⟨faults fault rfl, fun other same => ?_⟩
          cases same
          exact place
        finish := fun _ none => nomatch none }

theorem answer_served (sound : Sound program settings execution) (text : String) :
    Served program settings execution (Request.serve program settings execution (.answer text)) := by
  rw [Request.serve]
  simp only [answer]
  split
  · rename_i prompt question state asked
    have waiting : execution.isRunning = true := by
      rw [isRunning, state]
      rfl
    exact store_answer_served sound question text asked waiting
  · exact refused_served sound _ fun id same => nomatch same

theorem resume_served (sound : Sound program settings execution) :
    Served program settings execution (Request.serve program settings execution .resume) := by
  have going : ∀ question : Option Question, (∀ known, question = some known → program.Has known.location) →
      Served program settings execution (none, { execution with state := .running, question }) := fun question known => {
    sound := stored_sound sound execution.store rfl .running question known
    failure := fun _ none => nomatch none
    finish := fun _ _ finished => nomatch finished }
  rw [Request.serve]
  simp only [resume]
  split
  · exact going execution.question sound.asked
  · split
    · exact going none fun _ none => nomatch none
    · exact refused_served sound _ fun id same => nomatch same
  · exact unchanged_served sound
  · exact unchanged_served sound

theorem reset_served (whole : program.Whole) :
    Served program settings execution (Request.serve program settings execution .reset) where
  sound := initial_sound whole
  failure := fun _ none => nomatch none
  finish := fun _ _ finished => nomatch finished

theorem serve_served (whole : program.Whole) (sound : Sound program settings execution) (request : Request) :
    Served program settings execution (request.serve program settings execution) := by
  cases request with
  | step => exact step_served whole sound
  | answer text => exact answer_served sound text
  | resume => exact resume_served sound
  | reset => exact reset_served whole

theorem serve_all_sound (whole : program.Whole) (requests : List Request) (sound : Sound program settings execution) :
    Sound program settings (serveAll program settings requests execution) := by
  induction requests generalizing execution with
  | nil => exact sound
  | cons request rest ih => exact ih (serve_served whole sound request).sound

theorem visit_inside (whole : program.Whole) (sound : Sound program settings execution) (id : ComponentId)
    (next : Option ComponentId) (reached : Execution) (here : execution.position = some id)
    (visited : visit program settings id execution = (.ok next, reached)) :
    Inside program settings reached.frames reached := by
  obtain ⟨component, found⟩ := sound.position id here
  rw [visit_run program settings id component execution found] at visited
  have yields := move_of_yields program settings id component execution.callDepth (execution.phase? id)
    execution.store
  rcases result : moveOf program settings id component execution.callDepth (execution.phase? id) execution.store with
    ⟨outcome, store⟩
  rw [result] at visited
  cases outcome with
  | error fault => cases visited
  | ok move =>
      cases visited
      exact (reach_inside whole id component found sound.inside move store (Action.yields_ok yields result)).1

end Steps

-- Whatever a host asks for, and whatever fails, the parts of a running program fit together, no call or scope
-- is given up that is not there, failures are at places that are there, and a program that ends well has left
-- all that it went into.
theorem reachable_sound (bytes : List UInt8) (program : Program) (settings : Settings) (requests : List Request)
    (loaded : Program.load bytes = .ok program) :
    let reached := serveAll program settings requests (initial program settings)
    Sound program settings reached ∧
      (∀ request : Request, Served program settings reached (request.serve program settings reached)) ∧
      ∀ id next visited, reached.position = some id → visit program settings id reached = (.ok next, visited) →
        underflows visited.callDepth visited.store.env.depth next visited.frames = false := by
  intro reached
  have whole := Program.load_whole bytes program loaded
  have sound : Sound program settings reached := serve_all_sound whole requests (initial_sound whole)
  refine ⟨sound, serve_served whole sound, fun id next visited here done => ?_⟩
  have inside := visit_inside whole sound id next visited here done
  exact unwind_counted _ _ _ _ inside.calls inside.scopes

theorem reachable_sound_asking :
    let program := Sample.loaded Sample.asking Sample.asking_loads
    let reached := serveAll program .standard [.answer "1", .step, .step, .step, .step, .answer "7", .resume, .step]
      (initial program .standard)
    Program.load Sample.asking = .ok program ∧ Sound program .standard reached ∧
      (∀ request : Request, Served program .standard reached (request.serve program .standard reached)) ∧
      ∀ id next visited, reached.position = some id → visit program .standard id reached = (.ok next, visited) →
        underflows visited.callDepth visited.store.env.depth next visited.frames = false :=
  ⟨Sample.load_loaded _ _, reachable_sound Sample.asking _ .standard _ (Sample.load_loaded _ _)⟩

end Execution

end Flowline
