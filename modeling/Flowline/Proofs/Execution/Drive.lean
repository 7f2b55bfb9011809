import Flowline.Proofs.Execution.Effects
import Flowline.Proofs.Execution.Structured

set_option autoImplicit false

namespace Flowline

open Chart (ComponentId Component)

structure Play where
  execution : Execution
  events : List Event
  answered : Nat
  failure : Option Failure

namespace Play

open Execution

def start (program : Program) (settings : Settings) : Play := ⟨initial program settings, [], 0, none⟩

def note (play : Play) (event : Event) (reached : Execution) : Play :=
  { play with execution := reached, events := play.events ++ [event] }

def reply (program : Program) (answers : Nat → String) (play : Play) : Play :=
  match answer program (answers play.answered) play.execution with
  | (.ok _, reached) =>
      { play with execution := reached.resume.2, answered := play.answered + 1 }
  | (.error failure, reached) =>
      { play with execution := reached, answered := play.answered + 1, failure := some failure }

def turn (program : Program) (settings : Settings) (answers : Nat → String) (play : Play) : Play :=
  match step program settings play.execution with
  | (.ok (.output text), reached) => play.note (.output text) reached.resume.2
  | (.ok (.input text), reached) => (play.note (.prompt text) reached).reply program answers
  | (.ok _, reached) => { play with execution := reached }
  | (.error failure, reached) => { play with execution := reached, failure := some failure }

def turns (program : Program) (settings : Settings) (answers : Nat → String) : Nat → Play → Play
  | 0, play => play
  | count + 1, play => turns program settings answers count (play.turn program settings answers)

def ending (play : Play) : Ending :=
  match play.failure, play.execution.position with
  | some failure, _ => .failed failure
  | none, none => .finished
  | none, some _ => .paused

def Unclosed (program : Program) (settings : Settings) (play : Play) : Prop :=
  ∀ text, (step program settings play.execution).1 = .ok (.input text) →
    (step program settings play.execution).2.store.env.depth = play.execution.store.env.depth

instance (program : Program) (settings : Settings) (play : Play) : Decidable (Unclosed program settings play) :=
  match result : (step program settings play.execution).1 with
  | .ok (.input text) =>
      decidable_of_iff ((step program settings play.execution).2.store.env.depth = play.execution.store.env.depth)
        ⟨fun same _ _ => same, fun all => all text result⟩
  | .ok .running | .ok (.output _) | .ok .done | .error _ =>
      isTrue fun text asked => by
        rw [result] at asked
        cases asked

end Play

namespace Execution

-- A program around a chain: inside of its open constructs, and on its way to a link.
def base (session : Session) (chart depth : Nat) (frames : List Frame) : Execution where
  store := session.store
  chart := chart
  position := none
  frames := frames
  callDepth := depth
  state := .running
  question := none

def around (session : Session) (chart depth : Nat) (frames : List Frame) (link : Option ComponentId) : Execution :=
  (base session chart depth frames).unwind link frames

def placed (session : Session) (chart depth : Nat) (frames : List Frame) (id : ComponentId) : Execution :=
  { base session chart depth frames with position := some id }

theorem unwind_some (execution : Execution) (id : ComponentId) (frames : List Frame) :
    execution.unwind (some id) frames = { execution with frames := frames, position := some id } := by
  cases frames <;> rfl

-- A change that calls are left with alike is seen only where the program comes to rest.
theorem unwind_changed (change later : Execution → Execution)
    (leaves : ∀ execution caller ownScope,
      (change execution).leave caller ownScope = change (execution.leave caller ownScope))
    (rests : ∀ execution frames position,
      ({ change execution with frames, position } : Execution) = later { execution with frames, position })
    (execution : Execution) (link : Option ComponentId) (frames : List Frame) :
    (change execution).unwind link frames = later (execution.unwind link frames) := by
  induction frames generalizing execution link with
  | nil => exact rests execution [] link
  | cons frame outer ih =>
      cases link with
      | some id => exact rests execution (frame :: outer) (some id)
      | none =>
          cases frame with
          | decision next => exact ih execution next
          | loop id phase => exact rests execution (.loop id phase :: outer) (some id)
          | call next caller ownScope =>
              rw [unwind, unwind, leaves]
              exact ih (execution.leave caller ownScope) next

theorem unwind_moved (execution : Execution) (position : Option ComponentId) (kept : List Frame)
    (link : Option ComponentId) (frames : List Frame) :
    ({ execution with position := position, frames := kept } : Execution).unwind link frames =
      execution.unwind link frames :=
  unwind_changed (fun execution => { execution with position := position, frames := kept }) id
    (fun _ _ ownScope => by cases ownScope <;> rfl) (fun _ _ _ => rfl) execution link frames

theorem unwind_marked (execution : Execution) (state : State) (question : Option Question)
    (link : Option ComponentId) (frames : List Frame) :
    ({ execution with state := state, question := question } : Execution).unwind link frames =
      { execution.unwind link frames with state := state, question := question } := by
  let mark := fun execution : Execution => { execution with state := state, question := question }
  exact unwind_changed mark mark (fun _ _ ownScope => by cases ownScope <;> rfl) (fun _ _ _ => rfl) execution link frames

theorem unwind_stored (execution : Execution) (store : Store) (link : Option ComponentId) (frames : List Frame) :
    ({ execution with store := store } : Execution).unwind link frames =
      { execution.unwind link frames with store := store.close (closings link frames) } := by
  induction frames generalizing execution store link with
  | nil => rfl
  | cons frame outer ih =>
      cases link with
      | some id => rfl
      | none =>
          cases frame with
          | decision next => exact ih execution store next
          | loop id phase => rfl
          | call next caller ownScope =>
              have inner := ih (execution.leave caller ownScope) (store.close ownScope.toNat) next
              rw [unwind, unwind, closings, ← Store.close_close, ← inner]
              cases ownScope <;> rfl

theorem around_some (session : Session) (chart depth : Nat) (frames : List Frame) (id : ComponentId) :
    around session chart depth frames (some id) = placed session chart depth frames id := unwind_some _ id frames

theorem around_loop (session : Session) (chart depth : Nat) (id : ComponentId) (phase : Phase) (outer : List Frame) :
    around session chart depth (.loop id phase :: outer) none =
      placed session chart depth (.loop id phase :: outer) id := rfl

theorem around_decision (session : Session) (chart depth : Nat) (next : Option ComponentId) (outer : List Frame) :
    around session chart depth (.decision next :: outer) none = around session chart depth outer next := by
  change (base session chart depth (.decision next :: outer)).unwind next outer = _
  exact unwind_moved (base session chart depth outer) none (.decision next :: outer) next outer

theorem around_call (session : Session) (chart depth : Nat) (next : Option ComponentId) (caller : Nat)
    (ownScope : Bool) (outer : List Frame) :
    around session chart (depth + 1) (.call next caller ownScope :: outer) none =
      around (session.close ownScope.toNat) caller depth outer next := by
  rw [around, unwind, ← unwind_moved _ none outer]
  cases ownScope <;> rfl

theorem around_state (session : Session) (chart depth : Nat) (frames : List Frame) (link : Option ComponentId) :
    (around session chart depth frames link).state = .running ∧
      (around session chart depth frames link).question = none :=
  unwind_state (base session chart depth frames) link frames

theorem around_store (session : Session) (chart depth : Nat) (frames : List Frame) (link : Option ComponentId) :
    (around session chart depth frames link).store = session.store.close (closings link frames) :=
  unwind_store (base session chart depth frames) link frames

theorem placed_unwind (session : Session) (chart depth : Nat) (frames : List Frame) (id : ComponentId)
    (link : Option ComponentId) :
    (placed session chart depth frames id).unwind link frames = around session chart depth frames link :=
  unwind_moved (base session chart depth frames) (some id) frames link frames

theorem advance_marked (session : Session) (chart depth : Nat) (frames : List Frame) (id : ComponentId)
    (link : Option ComponentId) (state : State) (question : Option Question) (waiting : state ≠ .running) :
    ({ placed session chart depth frames id with state := state, question := question } : Execution).advance link =
      { around session chart depth frames link with state := state, question := question } := by
  change settle (unwind _ link frames) = _
  rw [unwind_marked, placed_unwind]
  exact if_neg fun idle => waiting idle.1

theorem around_marked (session : Session) (chart depth : Nat) (frames : List Frame) (link : Option ComponentId) :
    { around session chart depth frames link with state := .running, question := none } =
      around session chart depth frames link :=
  (unwind_marked (base session chart depth frames) .running none link frames).symm

theorem around_stored (session : Session) (chart depth : Nat) (frames : List Frame) (link : Option ComponentId)
    (store : Store) :
    around { session with store } chart depth frames link =
      { around session chart depth frames link with store := store.close (closings link frames) } :=
  unwind_stored (base session chart depth frames) store link frames

theorem settle_settle (execution : Execution) : execution.settle.settle = execution.settle := by
  unfold settle
  split
  · rename_i idle
    exact if_neg fun again => nomatch again.1
  · rfl

theorem settle_placed (execution : Execution) (id : ComponentId) (here : execution.position = some id) :
    execution.settle = execution := by
  unfold settle
  rw [here]
  exact if_neg fun idle => nomatch idle.2

theorem settle_position (execution : Execution) : execution.settle.position = execution.position := by
  simp only [settle]
  split <;> rfl

theorem settle_store (execution : Execution) : execution.settle.store = execution.store := by
  simp only [settle]
  split <;> rfl

end Execution

namespace Play

open Execution

structure Meets (play : Play) (session : Session) (there : Execution) : Prop where
  place : play.execution.settle = there.settle
  events : play.events = session.events
  answered : play.answered = session.answered
  failure : play.failure = none

structure Fails (play : Play) (session : Session) (failure : Failure) : Prop where
  store : play.execution.store = session.store
  events : play.events = session.events
  failure : play.failure = some failure
  state : play.execution.state = .done

section Turns

variable {program : Program} {settings : Settings} {answers : Nat → String}

theorem turns_add (first second : Nat) (play : Play) :
    play.turns program settings answers (first + second) =
      (play.turns program settings answers first).turns program settings answers second := by
  induction first generalizing play with
  | zero => rw [Nat.zero_add, turns]
  | succ first ih => rw [Nat.succ_add, turns, turns, ih]

theorem turn_done (play : Play) (done : play.execution.state = .done) :
    play.turn program settings answers = play := by
  simp only [turn]
  rw [step_waiting program settings play.execution (by rw [done]; exact fun running => nomatch running), done]

theorem turns_done (count : Nat) (play : Play) (done : play.execution.state = .done) :
    play.turns program settings answers count = play := by
  induction count with
  | zero => rfl
  | succ count ih => rw [turns, turn_done play done, ih]

theorem turns_settled (last : Nat) (play : Play)
    (running : ∀ count < last, (play.turns program settings answers count).execution.isRunning = true)
    (done : (play.turns program settings answers last).execution.state = .done) (count : Nat)
    (ended : (play.turns program settings answers count).execution.isRunning = false) :
    play.turns program settings answers count = play.turns program settings answers last := by
  have late : last ≤ count := by
    refine Nat.le_of_not_lt fun early => ?_
    rw [running count early] at ended
    cases ended
  rw [← Nat.add_sub_cancel' late, turns_add, turns_done _ _ done]

theorem meets_placed {play : Play} {session : Session} {chart depth : Nat} {frames : List Frame} {id : ComponentId}
    (meets : Meets play session (placed session chart depth frames id)) :
    play.execution = placed session chart depth frames id := by
  have there := meets.place
  rw [settle_placed (placed session chart depth frames id) id rfl] at there
  have here : play.execution.position = some id := by
    rw [← settle_position, there]
    rfl
  rw [settle_placed play.execution id here] at there
  exact there

section Visits

variable {play : Play} {session : Session} {chart depth : Nat} {frames rest : List Frame} {id : ComponentId}
  {component : Component} {store : Store}

structure Ready (program : Program) (play : Play) (session : Session) (chart depth : Nat) (frames rest : List Frame)
    (id : ComponentId) (component : Component) : Prop where
  meets : Meets play session (placed session chart depth frames id)
  found : program.component? chart id = some component
  prepared : (placed session chart depth frames id).prepare id component = placed session chart depth rest id

theorem ready_step (ready : Ready program play session chart depth frames rest id component) :
    step program settings play.execution =
      match moveOf program settings id component depth ((placed session chart depth frames id).phase? id)
        session.store with
      | (.ok move, store) =>
          let reached := (move.make program id component (placed { session with store } chart depth rest id)).advance
            (move.link component)
          (.ok reached.state, reached)
      | (.error fault, store) =>
          abort (placed { session with store } chart depth rest id) ⟨fault, some ⟨named program chart, id⟩⟩ := by
  rw [meets_placed ready.meets, step_run program settings id component _ rfl rfl ready.found]
  simp only [reach, ready.prepared]
  rfl

theorem turn_fails (ready : Ready program play session chart depth frames rest id component) (fault : Fault)
    (failed : moveOf program settings id component depth ((placed session chart depth frames id).phase? id)
      session.store = (.error fault, store)) :
    Fails (play.turn program settings answers) { session with store } ⟨fault, some ⟨named program chart, id⟩⟩ := by
  have stepped : step program settings play.execution = _ := ready_step ready
  rw [failed] at stepped
  simp only [turn]
  rw [stepped]
  exact ⟨rfl, ready.meets.events, rfl, rfl⟩

theorem turn_quiet (ready : Ready program play session chart depth frames rest id component) (move : Move)
    (moved : moveOf program settings id component depth ((placed session chart depth frames id).phase? id)
      session.store = (.ok move, store)) (reached : Execution)
    (quiet : (move.make program id component (placed { session with store } chart depth rest id)).advance
      (move.link component) = reached.settle)
    (state : reached.state = .running) :
    Meets (play.turn program settings answers) { session with store } reached := by
  have stepped : step program settings play.execution = _ := ready_step ready
  rw [moved] at stepped
  dsimp only at stepped
  rw [quiet] at stepped
  have settled : reached.settle.state = .running ∨ reached.settle.state = .done := by
    simp only [settle]
    split
    · exact Or.inr rfl
    · exact Or.inl state
  have next : play.turn program settings answers = { play with execution := reached.settle } := by
    simp only [turn]
    rw [stepped]
    rcases settled with running | done
    · simp only [running]
    · simp only [done]
  rw [next]
  exact ⟨settle_settle reached, ready.meets.events, ready.meets.answered, ready.meets.failure⟩

theorem turn_go (ready : Ready program play session chart depth frames rest id component) (next : Option ComponentId)
    (moved : moveOf program settings id component depth ((placed session chart depth frames id).phase? id)
      session.store = (.ok (.go next), store)) :
    Meets (play.turn program settings answers) { session with store }
      (around { session with store } chart depth rest next) := by
  refine turn_quiet ready _ moved _ ?_ (around_state _ _ _ _ _).1
  exact congrArg settle (unwind_moved (base { session with store } chart depth rest) (some id) rest next rest)

theorem turn_into (ready : Ready program play session chart depth frames rest id component) (frame : Frame)
    (next : Option ComponentId)
    (moved : moveOf program settings id component depth ((placed session chart depth frames id).phase? id)
      session.store = (.ok (.into frame next), store)) :
    Meets (play.turn program settings answers) { session with store }
      (around { session with store } chart depth (frame :: rest) next) := by
  refine turn_quiet ready _ moved _ ?_ (around_state _ _ _ _ _).1
  exact congrArg settle (unwind_moved (base { session with store } chart depth (frame :: rest)) (some id) (frame :: rest)
    next (frame :: rest))

theorem turn_enter (ready : Ready program play session chart depth frames rest id component) (place : Nat)
    (start : ComponentId) (ownScope : Bool)
    (moved : moveOf program settings id component depth ((placed session chart depth frames id).phase? id)
      session.store = (.ok (.enter place start ownScope), store)) :
    Meets (play.turn program settings answers) { session with store }
      (around { session with store } place (depth + 1) (.call component.successor chart ownScope :: rest)
        (some start)) := by
  refine turn_quiet ready _ moved _ ?_ (around_state _ _ _ _ _).1
  exact congrArg settle (unwind_moved (base { session with store } place (depth + 1)
    (.call component.successor chart ownScope :: rest)) (some id) (.call component.successor chart ownScope :: rest)
    (some start) (.call component.successor chart ownScope :: rest))

theorem turn_show (ready : Ready program play session chart depth frames rest id component) (text : String)
    (moved : moveOf program settings id component depth ((placed session chart depth frames id).phase? id)
      session.store = (.ok (.show text), store)) :
    Meets (play.turn program settings answers) (Session.note { session with store } (.output text))
      (around { session with store } chart depth rest component.successor) := by
  have stepped : step program settings play.execution = _ := ready_step ready
  rw [moved] at stepped
  have shown := advance_marked { session with store } chart depth rest id component.successor (.output text) none
    fun running => nomatch running
  have reached : step program settings play.execution = (.ok (.output text),
      { around { session with store } chart depth rest component.successor with
        state := .output text, question := none }) :=
    stepped.trans (congrArg (fun reached : Execution => ((.ok reached.state : Except Failure State), reached)) shown)
  have next : play.turn program settings answers =
      play.note (.output text) (around { session with store } chart depth rest component.successor) := by
    simp only [turn]
    rw [reached]
    exact congrArg (play.note (.output text)) (around_marked _ _ _ _ _)
  rw [next]
  exact ⟨rfl, congrArg (· ++ [Event.output text]) ready.meets.events, ready.meets.answered, ready.meets.failure⟩

theorem step_asks_at (ready : Ready program play session chart depth frames rest id component) (target : Label.Expr)
    (prompt : String)
    (moved : moveOf program settings id component depth ((placed session chart depth frames id).phase? id)
      session.store = (.ok (.ask target prompt), store)) :
    step program settings play.execution = (.ok (.input prompt),
      { around { session with store } chart depth rest component.successor with
        state := .input prompt
        question := some ⟨target, ⟨named program chart, id⟩, false⟩ }) := by
  have stepped : step program settings play.execution = _ := ready_step ready
  rw [moved] at stepped
  have asking := advance_marked { session with store } chart depth rest id component.successor (.input prompt)
    (some ⟨target, ⟨named program chart, id⟩, false⟩) fun running => nomatch running
  exact stepped.trans
    (congrArg (fun reached : Execution => ((.ok reached.state : Except Failure State), reached)) asking)

theorem asked_unclosed (ready : Ready program play session chart depth frames rest id component) (target : Label.Expr)
    (prompt : String) (unclosed : Unclosed program settings play) (same : SameDepth session.store store)
    (moved : moveOf program settings id component depth ((placed session chart depth frames id).phase? id)
      session.store = (.ok (.ask target prompt), store)) (other : Store) (like : SameDepth store other) :
    other.close (closings component.successor rest) = other := by
  have reached := step_asks_at ready target prompt moved
  have level := unclosed prompt (by rw [reached])
  rw [reached, meets_placed ready.meets] at level
  dsimp only at level
  rw [around_store] at level
  have whole : (store.env.close (closings component.successor rest)).depth = store.env.depth := level.trans same.symm
  unfold Store.close
  rw [store.env.close_same other.env _ whole like]

-- A prompt that closes no scope on its way is answered as if it were answered at once.
theorem turn_ask (answers : Nat → String) (ready : Ready program play session chart depth frames rest id component)
    (target : Label.Expr)
    (prompt : String) (unclosed : Unclosed program settings play) (same : SameDepth session.store store)
    (moved : moveOf program settings id component depth ((placed session chart depth frames id).phase? id)
      session.store = (.ok (.ask target prompt), store)) :
    match assign program.registry target (answerValue (answers session.answered)) store with
    | (.ok (), after) =>
        Meets (play.turn program settings answers) ⟨after, session.events ++ [.prompt prompt], session.answered + 1⟩
          (around ⟨after, session.events ++ [.prompt prompt], session.answered + 1⟩ chart depth rest
            component.successor)
    | (.error fault, after) =>
        Fails (play.turn program settings answers) ⟨after, session.events ++ [.prompt prompt], session.answered + 1⟩
          ⟨fault, some ⟨named program chart, id⟩⟩ := by
  have closed := asked_unclosed ready target prompt unclosed same moved
  have kept := closed store rfl
  have calm := (calm_closed.assign_holds program.registry target (answerValue (answers session.answered))).depth store
  unfold turn
  rw [step_asks_at ready target prompt moved]
  dsimp only
  unfold reply note answer storeAnswer
  dsimp only
  rw [around_store, ready.meets.answered]
  dsimp only
  rw [kept]
  rcases result : assign program.registry target (answerValue (answers session.answered)) store with ⟨outcome, after⟩
  rw [result] at calm
  cases outcome with
  | ok value =>
      refine ⟨congrArg settle ?_, congrArg (· ++ [Event.prompt prompt]) ready.meets.events, rfl, ready.meets.failure⟩
      have placing : around ⟨after, session.events ++ [.prompt prompt], session.answered + 1⟩ chart depth rest
          component.successor =
            { around { session with store } chart depth rest component.successor with store := after } := by
        change around { session with store := after } chart depth rest component.successor = _
        rw [around_stored session _ _ _ _ after, around_stored session _ _ _ _ store, closed after calm]
      rw [placing, ← around_marked { session with store } chart depth rest component.successor]
      rfl
  | error fault =>
      exact ⟨rfl, congrArg (· ++ [Event.prompt prompt]) ready.meets.events, rfl, rfl⟩

end Visits

end Turns

end Play

end Flowline
