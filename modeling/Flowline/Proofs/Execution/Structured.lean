import Flowline.Proofs.Execution.Closing

set_option autoImplicit false

namespace Flowline

open Chart (ComponentId Component)

inductive Event where
  | output (text : String)
  | prompt (text : String)
deriving DecidableEq

structure Session where
  store : Store
  events : List Event
  answered : Nat

namespace Session

def note (session : Session) (event : Event) : Session := { session with events := session.events ++ [event] }

def close (session : Session) (count : Nat) : Session := { session with store := session.store.close count }

end Session

-- How a run comes to its end. A run is paused when its budget is used up.
inductive Ending where
  | finished
  | failed (failure : Failure)
  | paused
deriving DecidableEq

structure Ran (budget : Nat) where
  ending : Ending
  session : Session
  left : Nat
  within : left ≤ budget

namespace Ran

def finish (session : Session) (budget : Nat) : Ran budget := ⟨.finished, session, budget, Nat.le_refl _⟩

def fail (failure : Failure) (session : Session) (budget : Nat) : Ran budget :=
  ⟨.failed failure, session, budget, Nat.le_refl _⟩

def pause (session : Session) (budget : Nat) : Ran budget := ⟨.paused, session, budget, Nat.le_refl _⟩

def weaken {budget larger : Nat} (ran : Ran budget) (le : budget ≤ larger) : Ran larger :=
  ⟨ran.ending, ran.session, ran.left, Nat.le_trans ran.within le⟩

def andThen {budget : Nat} (ran : Ran budget) (next : Session → (left : Nat) → left ≤ budget → Ran left) :
    Ran budget :=
  match ran.ending with
  | .finished => (next ran.session ran.left ran.within).weaken ran.within
  | _ => ran

end Ran

def Session.act {α : Type} (session : Session) (location : Location) (budget : Nat) (action : Action α)
    (next : α → Session → Ran budget) : Ran budget :=
  match action session.store with
  | (.ok value, store) => next value { session with store }
  | (.error cause, store) => .fail ⟨cause, some location⟩ { session with store } budget

def spend (session : Session) (budget : Nat) (next : (left : Nat) → left < budget → Ran left) : Ran budget :=
  match budget with
  | 0 => .pause session 0
  | left + 1 => (next left (Nat.lt_succ_self left)).weaken (Nat.le_succ left)

namespace Execution

section Structured

-- `rejoins` says whether a link from the end of a branch of a loop to the loop itself ends the branch.
variable (program : Program) (settings : Settings) (answers : Nat → String) (rejoins : Bool)

def named (chart : Nat) : String := ((program.subchart? chart).map Program.Subchart.name).getD ""

-- `home` is the loop that a chain is a branch of, if there is one.
mutual

def runChain (chart depth : Nat) (home link : Option ComponentId) (session : Session) (budget : Nat) : Ran budget :=
  match link with
  | none => .finish session budget
  | some id =>
      if rejoins && decide (home = some id) then .finish session budget
      else
        spend session budget fun left _ =>
          match program.component? chart id with
          | none => .fail ⟨.unknownComponent id, some ⟨named program chart, id⟩⟩ session left
          | some component =>
              (runComponent chart depth id component session left).andThen fun session rest _ =>
                runChain chart depth home component.successor session rest
termination_by 3 * budget
decreasing_by all_goals omega

def runComponent (chart depth : Nat) (id : ComponentId) (component : Component) (session : Session)
    (budget : Nat) : Ran budget :=
  let here : Location := ⟨named program chart, id⟩
  match component.role with
  | .terminal =>
      session.act here budget (Action.passTerminal component.label) fun _ session => .finish session budget
  | .entry => .finish session budget
  | .assignment =>
      session.act here budget (Action.perform program component.label) fun _ session => .finish session budget
  | .output _ =>
      session.act here budget (Action.textOf program component.label) fun text session =>
        .finish (session.note (.output text)) budget
  | .input prompt =>
      session.act here budget (Action.parsed (Label.parseTarget component.label)) fun target session =>
      session.act here budget (Action.promptOf program prompt) fun text session =>
      let asked : Session := { session.note (.prompt text) with answered := session.answered + 1 }
      asked.act here budget (assign program.registry target (answerValue (answers session.answered))) fun _ session =>
        .finish session budget
  | .decision yes no =>
      session.act here budget (Action.holds program component.label) fun holds session =>
        runChain chart depth none (if holds then yes else no) session budget
  | .loop before after => runLoop chart depth id component.label before after session budget
  | .call =>
      session.act here budget (Action.enterCall program settings depth component.label) fun entered session =>
        (runChain entered.1 (depth + 1) none (some entered.2.1) session budget).andThen fun session rest _ =>
          .finish (session.close entered.2.2.toNat) rest
termination_by 3 * budget + 2
decreasing_by all_goals omega

def runLoop (chart depth : Nat) (id : ComponentId) (label : String) (before after : Option ComponentId)
    (session : Session) (budget : Nat) : Ran budget :=
  (runChain chart depth (some id) before session budget).andThen fun session rest _ =>
    spend session rest fun left _ =>
      session.act ⟨named program chart, id⟩ left (Action.holds program label) fun holds session =>
        if holds then .finish session left
        else
          (runChain chart depth (some id) after session left).andThen fun session rest _ =>
            spend session rest fun left _ => runLoop chart depth id label before after session left
termination_by 3 * budget + 1
decreasing_by all_goals omega

end

def runProgram (budget : Nat) : Ran budget :=
  runChain program settings answers rejoins 0 0 none (initial program settings).position
    ⟨.initial settings.seed, [], 0⟩ budget

end Structured

end Execution

end Flowline
