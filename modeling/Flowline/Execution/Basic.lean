import Flowline.Evaluate
import Flowline.Program.Basic

set_option autoImplicit false

namespace Flowline

open Chart (ComponentId)

structure Location where
  chart : String
  component : ComponentId
deriving DecidableEq, Repr

structure Failure where
  cause : Fault
  location : Option Location
deriving DecidableEq

def Failure.message (failure : Failure) : String :=
  match failure.location with
  | some location =>
      failure.cause.message ++ " (in subchart '" ++ location.chart ++ "', component " ++
        toString location.component ++ ")"
  | none => failure.cause.message

structure Settings where
  seed : UInt64
  maxCallDepth : Nat
deriving DecidableEq, Repr

def Settings.standard : Settings := ⟨0, 1024⟩

namespace Execution

inductive Phase where
  | test
  | again
deriving DecidableEq, Repr

inductive Frame where
  | decision (next : Option ComponentId)
  | loop (id : ComponentId) (phase : Phase)
  | call (next : Option ComponentId) (caller : Nat) (ownScope : Bool)
deriving DecidableEq, Repr

-- The kind of an open construct. A procedure has variables of its own, a plain subchart has not.
inductive Block where
  | decision
  | procedure
  | subchart
  | loopStart
  | loopBody
deriving DecidableEq, Repr

def Frame.block : Frame → Block
  | .decision _ => .decision
  | .loop _ .test => .loopStart
  | .loop _ .again => .loopBody
  | .call _ _ true => .procedure
  | .call _ _ false => .subchart

inductive State where
  | running
  | output (text : String)
  | input (prompt : String)
  | done
deriving DecidableEq, Repr

structure Question where
  target : Label.Expr
  location : Location
  isAnswered : Bool

end Execution

open Execution

structure Execution where
  store : Store
  chart : Nat
  position : Option ComponentId
  frames : List Frame
  callDepth : Nat
  state : State
  question : Option Question

namespace Execution

def initial (program : Program) (settings : Settings) : Execution where
  store := .initial settings.seed
  chart := 0
  position := (program.subchart? 0).map fun subchart => subchart.flowchart.root
  frames := []
  callDepth := 0
  state := .running
  question := none

def isRunning (execution : Execution) : Bool := execution.state ≠ .done

def blocks (execution : Execution) : List Block := (execution.frames.map Frame.block).reverse

def locate (program : Program) (execution : Execution) (id : ComponentId) : Location :=
  ⟨((program.subchart? execution.chart).map Program.Subchart.name).getD "", id⟩

def location? (program : Program) (execution : Execution) : Option Location :=
  execution.position.map (execution.locate program)

def global? (execution : Execution) (name : String) : Option Value :=
  (execution.store.env.outermost.get? (Text.foldName name)).map execution.store.env.valueOf

def phase? (execution : Execution) (id : ComponentId) : Option Phase :=
  match execution.frames.head? with
  | some (.loop top phase) => if top = id then some phase else none
  | _ => none

def openFrame (execution : Execution) (frame : Frame) : Execution :=
  { execution with frames := frame :: execution.frames }

def closeFrame (execution : Execution) : Execution := { execution with frames := execution.frames.tail }

def enter (execution : Execution) (place : Nat) (next : Option ComponentId) (ownScope : Bool) : Execution :=
  { execution.openFrame (.call next execution.chart ownScope) with
    chart := place
    callDepth := execution.callDepth + 1 }

def closeScope (execution : Execution) : Execution :=
  { execution with store := { execution.store with env := execution.store.env.pop.2 } }

def leave (execution : Execution) (caller : Nat) (ownScope : Bool) : Execution :=
  let outside := if ownScope then execution.closeScope else execution
  { outside with chart := caller, callDepth := outside.callDepth - 1 }

end Execution

end Flowline
