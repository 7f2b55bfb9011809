import Flowline.Execution.Visit

set_option autoImplicit false

namespace Flowline.Execution

open Chart (ComponentId)

-- Moves to a component, or to where the open constructs say when a chain has ended.
def unwind (execution : Execution) (next : Option ComponentId) : List Frame → Execution
  | [] => { execution with frames := [], position := next }
  | frame :: outer =>
      match next, frame with
      | some id, frame => { execution with frames := frame :: outer, position := some id }
      | none, .decision next => unwind execution next outer
      | none, .loop id phase => { execution with frames := .loop id phase :: outer, position := some id }
      | none, .call next caller ownScope => unwind (execution.leave caller ownScope) next outer

def settle (execution : Execution) : Execution :=
  if execution.state = .running ∧ execution.position = none then { execution with state := .done }
  else execution

def advance (execution : Execution) (next : Option ComponentId) : Execution :=
  (execution.unwind next execution.frames).settle

def abort (execution : Execution) (failure : Failure) : Except Failure State × Execution :=
  (.error failure, { execution with state := .done })

def step (program : Program) (settings : Settings) (execution : Execution) :
    Except Failure State × Execution :=
  match execution.state, execution.position with
  | .running, some id =>
      match visit program settings id execution with
      | (.ok next, reached) =>
          let advanced := reached.advance next
          (.ok advanced.state, advanced)
      | (.error cause, reached) => reached.abort ⟨cause, some (reached.locate program id)⟩
  | .running, none => (.ok .done, { execution with state := .done })
  | state, _ => (.ok state, execution)

def answerValue (answer : String) : Value :=
  match Number.parse? answer with
  | some number => .number number
  | none => .text answer

def refuse {α : Type} (execution : Execution) (cause : Fault) : Except Failure α × Execution :=
  (.error ⟨cause, none⟩, execution)

def storeAnswer (program : Program) (question : Question) (answer : String) (execution : Execution) :
    Except Failure Unit × Execution :=
  match assign program.registry question.target (answerValue answer) execution.store with
  | (.ok (), store) =>
      (.ok (), { execution with store, question := some { question with isAnswered := true } })
  | (.error cause, store) =>
      (.error ⟨cause, some question.location⟩, { execution with store, question := none, state := .done })

def answer (program : Program) (text : String) (execution : Execution) :
    Except Failure Unit × Execution :=
  match execution.state, execution.question with
  | .input _, some question => storeAnswer program question text execution
  | _, _ => execution.refuse .notAwaitingInput

def resume (execution : Execution) : Except Failure Unit × Execution :=
  match execution.state with
  | .output _ => (.ok (), { execution with state := .running })
  | .input _ =>
      if execution.question.any Question.isAnswered then
        (.ok (), { execution with state := .running, question := none })
      else execution.refuse .inputNotProvided
  | .running | .done => (.ok (), execution)

end Flowline.Execution
