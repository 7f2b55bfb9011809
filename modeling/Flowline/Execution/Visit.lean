import Flowline.Execution.Basic
import Flowline.Label.Parse
import Flowline.Value.Render

set_option autoImplicit false

namespace Flowline.Execution

open Chart (ComponentId Component)

abbrev Turn (α : Type) := ExceptT Fault (StateM Execution) α

namespace Turn

def fail {α : Type} (fault : Fault) : Turn α := throw fault

def parsed {α : Type} : Except Label.Error α → Turn α
  | .ok value => return value
  | .error error => fail (.label error)

def act {α : Type} (action : Action α) : Turn α := fun execution =>
  let (outcome, store) := action execution.store
  (outcome, { execution with store })

def look {α : Type} (view : Execution → α) : Turn α := fun execution => (.ok (view execution), execution)

def change (next : Execution → Execution) : Turn Unit := fun execution => (.ok (), next execution)

end Turn

def marksTerminal (label : String) : Bool :=
  let word := String.ofList (Text.lowerEach (Text.trim label.toList))
  word = "start" || word = "end"

def condition (program : Program) (label : String) : Turn Bool := do
  let expr ← Turn.parsed (Label.parseExpr label)
  let value ← Turn.act (evaluate program.registry expr)
  Turn.act (Action.lift value.toBool)

def shownText (program : Program) (label : String) : Turn String := do
  let expr ← Turn.parsed (Label.parseExpr label)
  let value ← Turn.act (evaluate program.registry expr)
  Turn.look fun execution => value.toText execution.store.heap

def visitTerminal (component : Component) : Turn (Option ComponentId) :=
  if marksTerminal component.label then return component.successor
  else Turn.fail (.unknownCommand component.label)

def visitAssignment (program : Program) (component : Component) : Turn (Option ComponentId) := do
  let expr ← Turn.parsed (Label.parseAssignment component.label)
  let _ ← Turn.act (evaluate program.registry expr)
  return component.successor

def visitDecision (program : Program) (component : Component) (yes no : Option ComponentId) :
    Turn (Option ComponentId) := do
  let holds ← condition program component.label
  Turn.change (openFrame · (.decision component.successor))
  return if holds then yes else no

-- A loop is open while its chains run. It is closed for the test.
def visitLoop (program : Program) (id : ComponentId) (component : Component)
    (before after : Option ComponentId) : Turn (Option ComponentId) := do
  match ← Turn.look (phase? · id) with
  | none => do
      Turn.change (openFrame · (.loop id .test))
      return before
  | some .again => do
      Turn.change closeFrame
      Turn.change (openFrame · (.loop id .test))
      return before
  | some .test => do
      Turn.change closeFrame
      let holds ← condition program component.label
      if holds then return component.successor
      else do
        Turn.change (openFrame · (.loop id .again))
        return after

def visitOutput (program : Program) (component : Component) : Turn (Option ComponentId) := do
  let text ← shownText program component.label
  Turn.change fun execution => { execution with state := .output text }
  return component.successor

def promptText (program : Program) (prompt : String) : Turn String :=
  if (Text.trim prompt.toList).isEmpty then return "" else shownText program prompt

def visitInput (program : Program) (id : ComponentId) (component : Component) (prompt : String) :
    Turn (Option ComponentId) := do
  let target ← Turn.parsed (Label.parseTarget component.label)
  let text ← promptText program prompt
  Turn.change fun execution =>
    { execution with
      question := some ⟨target, execution.locate program id, false⟩
      state := .input text }
  return component.successor

def bindParam (registry : Registry) (param : Label.Param) (arg : Label.Expr) : Action Binding :=
  match param.mode, arg with
  | .value, arg => do
      let value ← evaluate registry arg
      return .own value
  | _, .var name => Action.shareVariable name
  | _, _ => Action.fail (.refArgNotVariable param.name)

def bindParams (registry : Registry) (scope : Scope) : List (Label.Param × Label.Expr) → Action Scope
  | [] => return scope
  | (param, arg) :: rest => do
      let binding ← bindParam registry param arg
      bindParams registry (scope.insert param.name binding) rest

def checkDepth (settings : Settings) : Turn Unit := do
  let depth ← Turn.look callDepth
  if settings.maxCallDepth ≤ depth then Turn.fail (.callDepthLimit settings.maxCallDepth) else return ()

-- Binds the arguments of a call to the parameters of a procedure. A plain subchart has no parameters.
-- Says whether variables of its own have been made for the call.
def bindArguments (program : Program) (name : String) (args : List Label.Expr) (root : Component) :
    Turn Bool :=
  match root.role with
  | .entry => do
      let header ← Turn.parsed (Label.parseHeader root.label)
      if header.params.length ≠ args.length then
        Turn.fail (.argCount name (.exactly header.params.length) args.length)
      else do
        let scope ← Turn.act (bindParams program.registry ∅ (header.params.zip args))
        Turn.change fun execution =>
          { execution with store := { execution.store with env := execution.store.env.push scope } }
        return true
  | _ => if args.isEmpty then return false else Turn.fail (.argCount name (.exactly 0) args.length)

def visitCall (program : Program) (settings : Settings) (component : Component) :
    Turn (Option ComponentId) := do
  let (name, args) ← Turn.parsed (Label.parseCall component.label)
  match program.registry.subchart? name with
  | none => Turn.fail (.undefinedSubchart name)
  | some place => do
      checkDepth settings
      match program.start? place with
      | none => Turn.fail (.undefinedSubchart name)
      | some (start, root) => do
          let ownScope ← bindArguments program name args root
          Turn.change (enter · place component.successor ownScope)
          return some start

def visitComponent (program : Program) (settings : Settings) (id : ComponentId) (component : Component) :
    Turn (Option ComponentId) :=
  match component.role with
  | .terminal => visitTerminal component
  | .entry => return component.successor
  | .assignment => visitAssignment program component
  | .call => visitCall program settings component
  | .decision yes no => visitDecision program component yes no
  | .loop before after => visitLoop program id component before after
  | .output _ => visitOutput program component
  | .input prompt => visitInput program id component prompt

def visit (program : Program) (settings : Settings) (id : ComponentId) : Turn (Option ComponentId) := do
  match ← Turn.look fun execution => program.component? execution.chart id with
  | some component => visitComponent program settings id component
  | none => Turn.fail (.unknownComponent id)

end Flowline.Execution
