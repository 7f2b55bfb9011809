import Flowline.Proofs.Execution.Answer
import Flowline.Proofs.Execution.Drive

set_option autoImplicit false

namespace Flowline

open Chart (ComponentId Component)

namespace Play

open Execution

structure Pauses (play : Play) (session : Session) : Prop where
  store : play.execution.store = session.store
  events : play.events = session.events
  failure : play.failure = none
  position : play.execution.position ≠ none
  state : play.execution.state = .running

section Simulation

variable {program : Program} {settings : Settings} {answers : Nat → String}

-- No prompt of the next turns closes a scope on its way.
def Smooth (program : Program) (settings : Settings) (answers : Nat → String) (budget : Nat) (play : Play) : Prop :=
  ∀ count, count < budget → Unclosed program settings (play.turns program settings answers count)

-- A run that uses up some of a budget takes a play as many turns.
def Simulates (program : Program) (settings : Settings) (answers : Nat → String) (play : Play) {budget : Nat}
    (ran : Ran budget) (there : Session → Execution) : Prop :=
  match ran.ending with
  | .finished => Meets (play.turns program settings answers (budget - ran.left)) ran.session (there ran.session)
  | .failed failure => Fails (play.turns program settings answers budget) ran.session failure
  | .paused => Pauses (play.turns program settings answers budget) ran.session

variable {play : Play} {session : Session} {there : Session → Execution}

theorem smooth_turns (count budget : Nat) (smooth : Smooth program settings answers (count + budget) play) :
    Smooth program settings answers budget (play.turns program settings answers count) := by
  intro later below
  rw [← turns_add]
  exact smooth (count + later) (Nat.add_lt_add_left below count)

theorem simulates_finish (budget : Nat) (meets : Meets play session (there session)) :
    Simulates program settings answers play (Ran.finish session budget) there := by
  change Meets (play.turns program settings answers (budget - budget)) session (there session)
  rw [Nat.sub_self]
  exact meets

theorem simulates_fail (budget : Nat) (failure : Failure) (fails : Fails play session failure) :
    Simulates program settings answers play (Ran.fail failure session budget) there := by
  change Fails (play.turns program settings answers budget) session failure
  rw [turns_done budget play fails.state]
  exact fails

theorem simulates_weaken (count budget larger : Nat) (ran : Ran budget) (le : budget ≤ larger)
    (total : larger = count + budget)
    (simulates : Simulates program settings answers (play.turns program settings answers count) ran there) :
    Simulates program settings answers play (ran.weaken le) there := by
  subst total
  rcases ran with ⟨ending, session, left, within⟩
  cases ending with
  | finished =>
      have total : count + budget - left = count + (budget - left) := Nat.add_sub_assoc within count
      change Meets (play.turns program settings answers (count + budget - left)) session (there session)
      rw [total, turns_add]
      exact simulates
  | failed failure =>
      change Fails (play.turns program settings answers (count + budget)) session failure
      rw [turns_add]
      exact simulates
  | paused =>
      change Pauses (play.turns program settings answers (count + budget)) session
      rw [turns_add]
      exact simulates

theorem simulates_and_then {budget : Nat} (ran : Ran budget) {middle : Session → Execution}
    (next : Session → (left : Nat) → left ≤ budget → Ran left)
    (first : Simulates program settings answers play ran middle)
    (smooth : Smooth program settings answers budget play)
    (rest : ∀ (session : Session) (left : Nat) (within : left ≤ budget) (reached : Play),
      Meets reached session (middle session) → Smooth program settings answers left reached →
      Simulates program settings answers reached (next session left within) there) :
    Simulates program settings answers play (ran.andThen next) there := by
  rcases ran with ⟨ending, session, left, within⟩
  cases ending with
  | finished =>
      have total : budget = budget - left + left := (Nat.sub_add_cancel within).symm
      refine simulates_weaken (budget - left) left budget _ within total ?_
      refine rest session left within _ first (smooth_turns (budget - left) left ?_)
      rw [← total]
      exact smooth
  | failed failure => exact first
  | paused => exact first

theorem simulates_spend {chart depth : Nat} {frames : List Frame} {id : ComponentId} (budget : Nat)
    (next : (left : Nat) → left < budget → Ran left)
    (meets : Meets play session (placed session chart depth frames id))
    (rest : ∀ (left : Nat) (less : left < budget), left + 1 = budget →
      Simulates program settings answers (play.turn program settings answers) (next left less) there) :
    Simulates program settings answers play (spend session budget next) there := by
  cases budget with
  | zero =>
      have here := meets_placed meets
      exact {
        store := by
          change play.execution.store = session.store
          rw [here]
          rfl
        events := meets.events
        failure := meets.failure
        position := by
          change play.execution.position ≠ none
          rw [here]
          exact fun nowhere => nomatch nowhere
        state := by
          change play.execution.state = .running
          rw [here]
          rfl }
  | succ left =>
      exact simulates_weaken 1 left (left + 1) (next left (Nat.lt_succ_self left)) (Nat.le_succ left)
        (Nat.add_comm left 1) (rest left (Nat.lt_succ_self left) rfl)

section Components

variable {chart depth : Nat} {frames rest : List Frame} {id : ComponentId} {component : Component}

theorem simulates_act {α : Type} {budget : Nat}
    (ready : Ready program play session chart depth frames rest id component) (action : Action α) (move : α → Move)
    (shape : moveOf program settings id component depth ((placed session chart depth frames id).phase? id) =
      (do let value ← action; pure (move value)))
    (next : α → Session → Ran budget)
    (goes : ∀ value store, action session.store = (.ok value, store) →
      moveOf program settings id component depth ((placed session chart depth frames id).phase? id) session.store =
        (.ok (move value), store) →
      Simulates program settings answers (play.turn program settings answers) (next value { session with store }) there) :
    Simulates program settings answers (play.turn program settings answers)
      (session.act ⟨named program chart, id⟩ budget action next) there := by
  have moved : moveOf program settings id component depth ((placed session chart depth frames id).phase? id)
      session.store = (do let value ← action; pure (move value) : Action Move) session.store := by rw [shape]
  rw [run_bind] at moved
  simp only [Session.act]
  rcases result : action session.store with ⟨outcome, store⟩
  rw [result] at moved
  cases outcome with
  | ok value => exact goes value store result moved
  | error fault => exact simulates_fail budget _ (turn_fails ready fault moved)

theorem moved_depth (store : Store) (phase : Option Phase) (move : Move) (after : Store)
    (moved : moveOf program settings id component depth phase store = (.ok move, after)) :
    move.Fits program settings id component depth store after :=
  Action.yields_ok (move_of_yields program settings id component depth phase store) moved

theorem simulates_input {budget : Nat} (ready : Ready program play session chart depth frames rest id component)
    (prompt : String) (role : component.role = .input prompt) (unclosed : Unclosed program settings play)
    (links : ∀ session, there session = around session chart depth rest component.successor) :
    Simulates program settings answers (play.turn program settings answers)
      (session.act ⟨named program chart, id⟩ budget (Action.parsed (Label.parseTarget component.label))
        fun target session => session.act ⟨named program chart, id⟩ budget (Action.promptOf program prompt)
          fun text session => Session.act { session.note (.prompt text) with answered := session.answered + 1 }
            ⟨named program chart, id⟩ budget
            (assign program.registry target (answerValue (answers session.answered)))
            fun _ session => Ran.finish session budget) there := by
  have moved : moveOf program settings id component depth ((placed session chart depth frames id).phase? id)
      session.store = (do
        let target ← Action.parsed (Label.parseTarget component.label)
        let text ← Action.promptOf program prompt
        pure (.ask target text) : Action Move) session.store := by
    simp only [moveOf, role]
  rw [run_bind] at moved
  simp only [Session.act]
  rcases aimed : Action.parsed (Label.parseTarget component.label) session.store with ⟨outcome, parsed⟩
  rw [aimed] at moved
  cases outcome with
  | error fault => exact simulates_fail budget _ (turn_fails ready fault moved)
  | ok target =>
      dsimp only at moved ⊢
      rw [run_bind] at moved
      rcases shown : Action.promptOf program prompt parsed with ⟨outcome, store⟩
      rw [shown] at moved
      cases outcome with
      | error fault => exact simulates_fail budget _ (turn_fails ready fault moved)
      | ok text =>
          have asked := turn_ask answers ready target text unclosed
            (moved_depth session.store _ _ store moved) moved
          dsimp only [Session.note]
          rcases bound : assign program.registry target (answerValue (answers session.answered)) store with
            ⟨outcome, after⟩
          rw [bound] at asked
          cases outcome with
          | ok value =>
              refine simulates_finish budget ?_
              rw [links]
              exact asked
          | error fault => exact simulates_fail budget _ asked

end Components

def homeOf (frames : List Frame) : Option ComponentId :=
  match frames.head? with
  | some (.loop id _) => some id
  | _ => none

theorem phase_elsewhere (session : Session) (chart depth : Nat) (frames : List Frame) (id : ComponentId)
    (elsewhere : homeOf frames ≠ some id) : (placed session chart depth frames id).phase? id = none := by
  cases frames with
  | nil => rfl
  | cons frame outer =>
      cases frame with
      | loop top phase =>
          have apart : top ≠ id := fun same => elsewhere (by rw [homeOf, List.head?_cons, same])
          exact if_neg apart
      | decision next => rfl
      | call next caller ownScope => rfl

theorem phase_home (session : Session) (chart depth : Nat) (id : ComponentId) (phase : Phase) (outer : List Frame) :
    (placed session chart depth (.loop id phase :: outer) id).phase? id = some phase := if_pos rfl

-- A link to the loop that a chain is a branch of leads where the end of the chain leads.
theorem around_home (session : Session) (chart depth : Nat) (frames : List Frame) (id : ComponentId)
    (home : homeOf frames = some id) :
    around session chart depth frames (some id) = around session chart depth frames none := by
  rw [around_some]
  cases frames with
  | nil => cases home
  | cons frame outer =>
      cases frame with
      | loop top phase =>
          cases home
          rw [around_loop]
      | decision next => cases home
      | call next caller ownScope => cases home

def ChainsSimulate (program : Program) (settings : Settings) (answers : Nat → String) (budget : Nat) : Prop :=
  ∀ (chart depth : Nat) (frames : List Frame) (link : Option ComponentId) (session : Session) (play : Play),
    Meets play session (around session chart depth frames link) →
    Smooth program settings answers budget play →
    Simulates program settings answers play
      (runChain program settings answers true chart depth (homeOf frames) link session budget)
      fun session => around session chart depth frames none

section Loops

variable {chart depth : Nat} {frames : List Frame} {id : ComponentId} {component : Component}
  {before after : Option ComponentId}

theorem ready_loop (found : program.component? chart id = some component) (role : component.role = .loop before after)
    (phase : Phase) (meets : Meets play session (around session chart depth (.loop id phase :: frames) none)) :
    Ready program play session chart depth (.loop id phase :: frames) frames id component where
  meets := by
    rw [around_loop] at meets
    exact meets
  found := found
  prepared := by
    simp only [prepare]
    rw [role, phase_home]
    rfl

theorem again_opens (found : program.component? chart id = some component)
    (role : component.role = .loop before after)
    (meets : Meets play session (around session chart depth (.loop id .again :: frames) none)) :
    Meets (play.turn program settings answers) session
      (around session chart depth (.loop id .test :: frames) before) := by
  refine turn_into (ready_loop found role .again meets) (.loop id .test) before ?_
  rw [phase_home]
  simp only [moveOf, role]
  rfl

theorem smooth_turn (left budget : Nat) (total : left + 1 = budget)
    (smooth : Smooth program settings answers budget play) :
    Smooth program settings answers left (play.turn program settings answers) := by
  refine smooth_turns 1 left ?_
  rw [Nat.add_comm, total]
  exact smooth

theorem loop_simulates (budget : Nat) (chains : ∀ left, left ≤ budget → ChainsSimulate program settings answers left)
    (found : program.component? chart id = some component) (role : component.role = .loop before after)
    (session : Session) (play : Play)
    (meets : Meets play session (around session chart depth (.loop id .test :: frames) before))
    (smooth : Smooth program settings answers budget play) :
    Simulates program settings answers play
      (runLoop program settings answers true chart depth id component.label before after session budget)
      fun session => around session chart depth frames component.successor := by
  induction budget using Nat.strongRecOn generalizing session play with
  | ind budget ih =>
      rw [runLoop]
      refine simulates_and_then _ _
        (chains budget (Nat.le_refl _) chart depth _ before session play meets smooth) smooth ?_
      intro session rest within play meets smooth
      refine simulates_spend rest _ meets fun left less total => ?_
      have ready := ready_loop found role .test meets
      refine simulates_act ready _
        (fun holds => if holds then .go component.successor else .into (.loop id .again) after) ?_ _ ?_
      · rw [phase_home]
        simp only [moveOf, role]
      · intro holds store _ moved
        have later := smooth_turn left rest total smooth
        cases holds with
        | true => exact simulates_finish left (turn_go ready component.successor moved)
        | false =>
            rw [if_neg Bool.false_ne_true]
            refine simulates_and_then _ _ (chains left (by omega) chart depth _ after { session with store } _
              (turn_into ready (.loop id .again) after moved) later) later ?_
            intro session rest within play meets smooth
            refine simulates_spend rest _ meets fun left less total => ?_
            exact ih left (by omega) (fun other le => chains other (by omega)) session _
              (again_opens found role meets)
              (smooth_turn left rest total smooth)

end Loops

section Chains

variable {chart depth : Nat} {frames : List Frame} {id : ComponentId} {component : Component}

theorem component_simulates (budget : Nat)
    (chains : ∀ left, left ≤ budget → ChainsSimulate program settings answers left)
    (ready : Ready program play session chart depth frames frames id component)
    (elsewhere : homeOf frames ≠ some id) (unclosed : Unclosed program settings play)
    (smooth : Smooth program settings answers budget (play.turn program settings answers)) :
    Simulates program settings answers (play.turn program settings answers)
      (runComponent program settings answers true chart depth id component session budget)
      fun session => around session chart depth frames component.successor := by
  have phase := phase_elsewhere session chart depth frames id elsewhere
  rw [runComponent]
  cases role : component.role with
  | terminal =>
      refine simulates_act ready _ (fun _ => .go component.successor) ?_ _ ?_
      · simp only [moveOf, role]
      · exact fun _ store _ moved => simulates_finish budget (turn_go ready _ moved)
  | entry =>
      refine simulates_finish budget (turn_go ready component.successor ?_)
      simp only [moveOf, role]
      rfl
  | assignment =>
      refine simulates_act ready _ (fun _ => .go component.successor) ?_ _ ?_
      · simp only [moveOf, role]
      · exact fun _ store _ moved => simulates_finish budget (turn_go ready _ moved)
  | output prompt =>
      refine simulates_act ready _ .show ?_ _ ?_
      · simp only [moveOf, role]
      · exact fun text store _ moved => simulates_finish budget (turn_show ready text moved)
  | input prompt => exact simulates_input ready prompt role unclosed fun _ => rfl
  | decision yes no =>
      refine simulates_act ready _
        (fun holds => .into (.decision component.successor) (if holds then yes else no)) ?_ _ ?_
      · simp only [moveOf, role]
      · intro holds store _ moved
        have run := chains budget (Nat.le_refl _) chart depth (.decision component.successor :: frames)
          (if holds then yes else no) { session with store } _ (turn_into ready _ _ moved) smooth
        simp only [around_decision] at run
        exact run
  | loop before after =>
      have opened : Meets (play.turn program settings answers) session
          (around session chart depth (.loop id .test :: frames) before) := by
        refine turn_into ready (.loop id .test) before ?_
        rw [phase]
        simp only [moveOf, role]
        rfl
      exact loop_simulates budget chains ready.found role session _ opened smooth
  | call =>
      refine simulates_act ready _ (fun entered => .enter entered.1 entered.2.1 entered.2.2) ?_ _ ?_
      · simp only [moveOf, role]
      · intro entered store _ moved
        have run := chains budget (Nat.le_refl _) entered.1 (depth + 1)
          (.call component.successor chart entered.2.2 :: frames) (some entered.2.1) { session with store } _
          (turn_enter ready entered.1 entered.2.1 entered.2.2 moved) smooth
        refine simulates_and_then _ _ run smooth fun session left within reached meets _ => ?_
        rw [around_call] at meets
        exact simulates_finish left ⟨meets.place, meets.events, meets.answered, meets.failure⟩

theorem turn_missing (missing : program.component? chart id = none)
    (meets : Meets play session (placed session chart depth frames id)) :
    Fails (play.turn program settings answers) session ⟨.unknownComponent id, some ⟨named program chart, id⟩⟩ := by
  have missed : visit program settings id (placed session chart depth frames id) =
      (.error (.unknownComponent id), placed session chart depth frames id) := by
    rw [visit, run_bind]
    have here : program.component? (placed session chart depth frames id).chart id = none := missing
    simp only [Turn.look, here]
    rfl
  have stepped : step program settings play.execution =
      abort (placed session chart depth frames id) ⟨.unknownComponent id, some ⟨named program chart, id⟩⟩ := by
    rw [meets_placed meets]
    have running : (placed session chart depth frames id).state = .running := rfl
    have here : (placed session chart depth frames id).position = some id := rfl
    unfold step
    rw [running, here]
    dsimp only
    rw [missed]
    rfl
  simp only [turn]
  rw [stepped]
  exact ⟨rfl, meets.events, rfl, rfl⟩

theorem chain_simulates (budget : Nat) : ChainsSimulate program settings answers budget := by
  induction budget using Nat.strongRecOn with
  | ind budget ih =>
      intro chart depth frames link session play meets smooth
      cases link with
      | none =>
          rw [runChain]
          exact simulates_finish budget meets
      | some id =>
          rw [runChain]
          by_cases home : homeOf frames = some id
          · rw [if_pos (by simp [home])]
            refine simulates_finish budget ?_
            rw [← around_home session chart depth frames id home]
            exact meets
          · rw [if_neg (by simp [home])]
            rw [around_some] at meets
            refine simulates_spend budget _ meets fun left less total => ?_
            have later := smooth_turn left budget total smooth
            cases found : program.component? chart id with
            | none => exact simulates_fail left _ (turn_missing found meets)
            | some component =>
                have ready : Ready program play session chart depth frames frames id component := by
                  refine ⟨meets, found, ?_⟩
                  simp only [prepare]
                  rw [phase_elsewhere session chart depth frames id home]
                  cases component.role <;> rfl
                have unclosed := smooth 0 (by omega)
                have run := component_simulates left (fun other le => ih other (by omega)) ready home unclosed later
                refine simulates_and_then _ _ run later fun session rest within reached meets smooth => ?_
                exact ih rest (by omega) chart depth frames component.successor session reached meets smooth

end Chains

structure Rests (play : Play) (session : Session) : Prop where
  store : play.execution.store = session.store
  events : play.events = session.events
  failure : play.failure = none
  position : play.execution.position = none
  state : play.execution.state = .running ∨ play.execution.state = .done

theorem meets_rests (meets : Meets play session (around session 0 0 [] none)) : Rests play session where
  store := by
    rw [← settle_store, meets.place]
    rfl
  events := meets.events
  failure := meets.failure
  position := by
    rw [← settle_position, meets.place]
    rfl
  state := by
    have done : play.execution.settle.state = .done := by
      rw [meets.place]
      rfl
    unfold settle at done
    split at done
    · rename_i idle
      exact Or.inl idle.1
    · exact Or.inr done

theorem turn_rests (rests : Rests play session) : Rests (play.turn program settings answers) session := by
  rcases rests.state with running | done
  · have stepped := step_ended program settings play.execution running rests.position
    simp only [turn]
    rw [stepped]
    exact ⟨rests.store, rests.events, rests.failure, rests.position, Or.inr rfl⟩
  · rw [turn_done play done]
    exact rests

theorem turns_rests (program : Program) (settings : Settings) (answers : Nat → String) (count : Nat)
    (rests : Rests play session) :
    Rests (play.turns program settings answers count) session := by
  induction count generalizing play with
  | zero => exact rests
  | succ count ih => exact ih (turn_rests rests)

end Simulation

def Stands (play : Play) {budget : Nat} (ran : Ran budget) : Prop :=
  match ran.ending with
  | .finished => Rests play ran.session
  | .failed failure => Fails play ran.session failure
  | .paused => Pauses play ran.session

theorem turns_stand (program : Program) (settings : Settings) (answers : Nat → String) (budget : Nat)
    (smooth : Smooth program settings answers budget (start program settings)) :
    Stands ((start program settings).turns program settings answers budget)
      (runProgram program settings answers true budget) := by
  have begun : Meets (start program settings) ⟨.initial settings.seed, [], 0⟩
      (around ⟨.initial settings.seed, [], 0⟩ 0 0 [] (initial program settings).position) :=
    ⟨rfl, rfl, rfl, rfl⟩
  have run := chain_simulates budget 0 0 [] (initial program settings).position _ _ begun smooth
  change Simulates program settings answers (start program settings) (runProgram program settings answers true budget) _
    at run
  unfold Simulates at run
  unfold Stands
  generalize runProgram program settings answers true budget = ran at run ⊢
  cases ending : ran.ending with
  | finished =>
      rw [ending] at run
      have later := turns_rests program settings answers ran.left
        (meets_rests run)
      rw [← turns_add, Nat.sub_add_cancel ran.within] at later
      exact later
  | failed failure =>
      rw [ending] at run
      exact run
  | paused =>
      rw [ending] at run
      exact run

theorem stands_same (play : Play) {budget : Nat} (ran : Ran budget) (stands : Stands play ran) :
    play.events = ran.session.events ∧ play.execution.store = ran.session.store ∧ play.ending = ran.ending := by
  unfold Stands at stands
  unfold Play.ending
  cases ending : ran.ending with
  | finished =>
      rw [ending] at stands
      rw [stands.failure, stands.position]
      exact ⟨stands.events, stands.store, rfl⟩
  | failed failure =>
      rw [ending] at stands
      rw [stands.failure]
      exact ⟨stands.events, stands.store, rfl⟩
  | paused =>
      rw [ending] at stands
      rw [stands.failure]
      refine ⟨stands.events, stands.store, ?_⟩
      cases here : play.execution.position with
      | none => exact absurd here stands.position
      | some id => rfl

-- A play without a failure is done exactly if the structured run has finished, which it notices a turn later.
theorem stands_done (play : Play) {budget : Nat} (ran : Ran budget) (stands : Stands play ran)
    (intact : play.failure = none) (done : play.execution.isRunning = false) : ran.ending = .finished := by
  have state : play.execution.state = .done := by simpa [isRunning] using done
  unfold Stands at stands
  cases ending : ran.ending with
  | finished => rfl
  | failed failure =>
      rw [ending] at stands
      rw [stands.failure] at intact
      cases intact
  | paused =>
      rw [ending] at stands
      rw [stands.state] at state
      cases state

theorem rests_done {program : Program} {settings : Settings} {answers : Nat → String} {play : Play}
    {session : Session} (rests : Rests play session) :
    (play.turn program settings answers).failure = none ∧
      (play.turn program settings answers).execution.isRunning = false := by
  refine ⟨(turn_rests rests).failure, ?_⟩
  rcases rests.state with running | done
  · have stepped := step_ended program settings play.execution running rests.position
    simp only [turn]
    rw [stepped]
    rfl
  · rw [turn_done play done, isRunning, done]
    rfl

-- A program that is stepped through shows, leaves behind and ends as its structured run does, and one finishes
-- exactly when the other does, if no prompt closes a scope on its way.
theorem turns_structured (program : Program) (settings : Settings) (answers : Nat → String) :
    (∀ budget, Smooth program settings answers budget (start program settings) →
        let played := (start program settings).turns program settings answers budget
        let ran := runProgram program settings answers true budget
        played.events = ran.session.events ∧ played.execution.store = ran.session.store ∧
          played.ending = ran.ending) ∧
      ((∀ budget, Smooth program settings answers budget (start program settings)) →
        ((∃ budget, (runProgram program settings answers true budget).ending = .finished) ↔
          ∃ count, ((start program settings).turns program settings answers count).failure = none ∧
            ((start program settings).turns program settings answers count).execution.isRunning = false)) := by
  have stands := turns_stand program settings answers
  refine ⟨fun budget smooth => stands_same _ _ (stands budget smooth), fun smooth => ⟨?_, ?_⟩⟩
  · rintro ⟨budget, finished⟩
    have standing := stands budget (smooth budget)
    unfold Stands at standing
    rw [finished] at standing
    refine ⟨budget + 1, ?_⟩
    rw [turns_add]
    exact rests_done standing
  · rintro ⟨count, intact, done⟩
    exact ⟨count, stands_done _ _ (stands count (smooth count)) intact done⟩

def looping : Program := Sample.loaded Sample.back Sample.back_loads

def zeros : Nat → String := fun _ => "0"

def looped (count : Nat) : Play := (start looping .standard).turns looping .standard zeros count

theorem looping_runs :
    (∀ count < 9, Unclosed looping .standard (looped count) ∧ (looped count).execution.isRunning = true) ∧
      (looped 9).execution.state = .done ∧
      (runProgram looping .standard zeros false 12).ending = .finished ∧
      (looped 9).events ≠ (runProgram looping .standard zeros false 12).session.events := by
  decide +kernel

theorem looping_smooth (budget : Nat) : Smooth looping .standard zeros budget (start looping .standard) := by
  intro count _
  by_cases early : count < 9
  · exact (looping_runs.1 count early).1
  · have done := looping_runs.2.1
    have late : looped count = looped 9 := by
      simp only [looped] at done ⊢
      rw [← Nat.add_sub_cancel' (Nat.le_of_not_lt early), turns_add, turns_done _ _ done]
    change Unclosed looping .standard (looped count)
    intro text asked
    rw [late, step_waiting looping .standard (looped 9).execution (by rw [done]; exact fun running => nomatch running),
      done] at asked
    cases asked

theorem turns_structured_looping :
    (∀ budget,
        let ran := runProgram looping .standard zeros true budget
        (looped budget).events = ran.session.events ∧ (looped budget).execution.store = ran.session.store ∧
          (looped budget).ending = ran.ending) ∧
      ((∃ budget, (runProgram looping .standard zeros true budget).ending = .finished) ↔
        ∃ count, (looped count).failure = none ∧ (looped count).execution.isRunning = false) :=
  ⟨fun budget => (turns_structured looping .standard zeros).1 budget (looping_smooth budget),
    (turns_structured looping .standard zeros).2 looping_smooth⟩

def Agrees (rejoins : Bool) : Prop :=
  ∀ (bytes : List UInt8) (program : Program) (settings : Settings) (answers : Nat → String) (budget : Nat),
    Program.load bytes = .ok program → (runProgram program settings answers rejoins budget).ending = .finished →
      ∃ count, ((start program settings).turns program settings answers count).execution.isRunning = false ∧
        ((start program settings).turns program settings answers count).events =
          (runProgram program settings answers rejoins budget).session.events

def sevens : Nat → String := fun _ => "7"

def asked (count : Nat) : Play := (start asker .standard).turns asker .standard sevens count

theorem asker_plays :
    (∀ count < 6, (asked count).execution.isRunning = true) ∧ (asked 6).execution.state = .done ∧
      (runProgram asker .standard sevens true 6).ending = .finished ∧
      (asked 6).events ≠ (runProgram asker .standard sevens true 6).session.events := by
  decide +kernel

-- A branch that leads back to its loop is no run of the loop inside of the branch, and an answer at the end of a
-- procedure is not bound inside of the procedure.
theorem turns_unstructured : ¬ Agrees false ∧ ¬ Agrees true := by
  constructor
  · intro agrees
    obtain ⟨early, done, finished, different⟩ := looping_runs
    obtain ⟨count, ended, same⟩ := agrees Sample.back looping .standard zeros 12 (Sample.load_loaded _ _) finished
    have last := turns_settled 9 (start looping .standard) (fun count below => (early count below).2) done count ended
    rw [last] at same
    exact different same
  · intro agrees
    obtain ⟨early, done, finished, different⟩ := asker_plays
    obtain ⟨count, ended, same⟩ := agrees Sample.asking asker .standard sevens 6 (Sample.load_loaded _ _) finished
    have last := turns_settled 6 (start asker .standard) early done count ended
    rw [last] at same
    exact different same

end Play

end Flowline
