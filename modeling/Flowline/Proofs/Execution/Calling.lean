import Flowline.Proofs.Execution.Arguments
import Flowline.Proofs.Execution.Frames
import Flowline.Proofs.Execution.Outer
import Flowline.Proofs.Label.Built

set_option autoImplicit false

namespace Flowline.Execution

open Chart (ComponentId Component)

structure ProcedureCall (program : Program) (settings : Settings) (before : Execution) where
  id : ComponentId
  component : Component
  name : String
  args : List Label.Expr
  place : Nat
  start : ComponentId
  root : Component
  header : Label.Header
  running : before.state = .running
  here : before.position = some id
  found : program.component? before.chart id = some component
  role : component.role = .call
  label : Label.parseCall component.label = .ok (name, args)
  callee : program.registry.subchart? name = some place
  started : program.start? place = some (start, root)
  procedure : root.role = .entry
  parsed : Label.parseHeader root.label = .ok header
  succeeds : (step program settings before).1.isOk = true

namespace ProcedureCall

variable {program : Program} {settings : Settings} {before : Execution}

def entered (_call : ProcedureCall program settings before) : Execution := (step program settings before).2

def frames (call : ProcedureCall program settings before) : List Frame :=
  .call call.component.successor before.chart true :: before.frames

def pairs (call : ProcedureCall program settings before) : List (Label.Param × Label.Expr) :=
  call.header.params.zip call.args

def created (call : ProcedureCall program settings before) : List String :=
  (call.pairs.flatMap refersTo).filter fun name => before.store.env.lookup name = none

theorem scope_opened (call : ProcedureCall program settings before) :
    (call.header.params.length = call.args.length ∧
      ∃ made after, bindParams program.registry ∅ call.pairs before.store = (.ok made, after) ∧
        Action.openScope program call.name call.args call.root before.store =
          (.ok true, { after with env := after.env.push made })) ∨
    ∃ fault after, Action.openScope program call.name call.args call.root before.store = (.error fault, after) := by
  have parsed : Action.parsed (Label.parseHeader call.root.label) before.store = (.ok call.header, before.store) := by
    rw [call.parsed]
    rfl
  simp only [Action.openScope, call.procedure]
  rw [run_bind, parsed]
  dsimp only
  by_cases count : call.header.params.length = call.args.length
  · rw [if_neg (not_not_intro count), run_bind]
    rcases bound : bindParams program.registry ∅ (call.header.params.zip call.args) before.store with ⟨outcome, after⟩
    cases outcome with
    | error fault => exact Or.inr ⟨fault, after, rfl⟩
    | ok made => exact Or.inl ⟨count, made, after, bound, rfl⟩
  · rw [if_pos count]
    exact Or.inr ⟨_, _, rfl⟩

theorem opened (call : ProcedureCall program settings before) :
    call.header.params.length = call.args.length ∧ call.entered.frames = call.frames ∧
      ∃ made after, bindParams program.registry ∅ call.pairs before.store = (.ok made, after) ∧
        call.entered.store.env = after.env.push made := by
  have succeeds := call.succeeds
  have stepped := step_run program settings call.id call.component before call.running call.here call.found
  have labelled : Action.parsed (Label.parseCall call.component.label) before.store =
      (.ok (call.name, call.args), before.store) := by
    rw [call.label]
    rfl
  simp only [moveOf, call.role, run_bind, Action.enterCall, labelled, call.callee, call.started] at stepped
  by_cases deep : settings.maxCallDepth ≤ before.callDepth
  · rw [if_pos deep] at stepped
    rw [stepped] at succeeds
    cases succeeds
  · rw [if_neg deep, run_bind] at stepped
    rcases call.scope_opened with ⟨count, made, after, bound, pushed⟩ | ⟨fault, after, failed⟩
    · rw [pushed] at stepped
      have entered : call.entered =
          ({ before with store := { after with env := after.env.push made } }.enter call.place call.component.successor
            true).advance (some call.start) := by
        rw [ProcedureCall.entered, stepped]
        simp only [run_pure, reach, Move.make, Move.link, prepare, call.role]
      rw [entered]
      refine ⟨count, ?_, made, after, bound, ?_⟩
      · simp only [advance, enter, openFrame, unwind, settle, reduceCtorEq, and_false, if_false, frames]
      · rw [advance_store]
        rfl
    · rw [failed] at stepped
      rw [stepped] at succeeds
      cases succeeds

theorem shared (call : ProcedureCall program settings before) (rooted : before.store.env.Rooted) (made : Scope)
    (after : Store) (bound : bindParams program.registry ∅ call.pairs before.store = (.ok made, after)) :
    Environment.Shares (call.pairs.flatMap refersTo) before.store.env after.env := by
  have plain := Label.call_args_plain call.component.label call.name call.args call.label
  refine bind_params_share program.registry ∅ call.pairs (fun pair member => ?_) before.store after made rooted bound
  exact plain pair.2 (List.of_mem_zip member).2

theorem entered_depth (call : ProcedureCall program settings before) (rooted : before.store.env.Rooted) :
    call.entered.store.env.depth = before.store.env.depth + 1 := by
  obtain ⟨-, -, made, after, bound, pushed⟩ := call.opened
  rw [pushed, Environment.depth_push, (call.shared rooted made after bound).depth]

theorem entered_values (call : ProcedureCall program settings before) (rooted : before.store.env.Rooted) (height : Nat)
    (low : height < before.store.env.depth) (name : String) :
    call.entered.store.env.valueAt height name =
      if height + 1 = before.store.env.depth ∧ name ∈ call.created then some .undefined
      else before.store.env.valueAt height name := by
  obtain ⟨-, -, made, after, bound, pushed⟩ := call.opened
  have shared := call.shared rooted made after bound
  have under : (after.env.push made).valueAt height name = after.env.valueAt height name := by
    rw [Environment.valueAt, Environment.binding_push, shared.depth, if_neg (Nat.ne_of_lt low)]
    rfl
  rw [pushed, under, shared.values]
  simp only [created, List.mem_filter, decide_eq_true_eq]

theorem entered_defines (call : ProcedureCall program settings before) (rooted : before.store.env.Rooted) (height : Nat)
    (low : height < before.store.env.depth) (name : String) :
    call.entered.store.env.Defines height name ↔
      before.store.env.Defines height name ∨ height + 1 = before.store.env.depth ∧ name ∈ call.created := by
  rw [Environment.defines_value, Environment.defines_value, call.entered_values rooted height low]
  split
  · rename_i new
    exact iff_of_true (Option.some_ne_none _) (Or.inr new)
  · rename_i old
    exact ⟨Or.inl, fun known => known.resolve_right old⟩

theorem parameters_known (call : ProcedureCall program settings before) (rooted : before.store.env.Rooted)
    (param : Label.Param) (member : param ∈ call.header.params) :
    call.entered.store.env.Defines before.store.env.depth param.name := by
  obtain ⟨count, -, made, after, bound, pushed⟩ := call.opened
  obtain ⟨arg, paired⟩ : ∃ arg, (param, arg) ∈ call.pairs := by
    obtain ⟨place, inside, same⟩ := List.mem_iff_getElem.mp member
    refine ⟨call.args[place], List.mem_iff_getElem.mpr ⟨place, ?_, ?_⟩⟩
    · rw [pairs, List.length_zip, ← count, Nat.min_self]
      exact inside
    · simp only [pairs, List.getElem_zip, same]
  obtain ⟨binding, known⟩ := bind_params_know program.registry ∅ made call.pairs before.store after bound param.name
    (Or.inr ⟨(param, arg), paired, rfl⟩)
  rw [pushed, Environment.Defines, Environment.binding_push, (call.shared rooted made after bound).depth, if_pos rfl,
    known]
  exact Option.some_ne_none binding

theorem entered_rooted (call : ProcedureCall program settings before) (rooted : before.store.env.Rooted) :
    call.entered.store.env.Rooted := by
  obtain ⟨env, count, kept, reached⟩ := step_keeps program settings rooted_lasting before rooted
  rw [entered, reached]
  exact env.close_rooted count kept

end ProcedureCall

theorem enter_call_cases (program : Program) (settings : Settings) (depth : Nat) (label : String) (store after : Store)
    (place : Nat) (start : ComponentId) (ownScope : Bool)
    (entered : Action.enterCall program settings depth label store = (.ok (place, start, ownScope), after)) :
    ∃ name args root, Label.parseCall label = .ok (name, args) ∧ program.registry.subchart? name = some place ∧
      program.start? place = some (start, root) ∧
      Action.openScope program name args root store = (.ok ownScope, after) := by
  obtain ⟨call, reached, parsed, behind⟩ := bind_done _ _ _ _ _ entered
  obtain ⟨labelled, rfl⟩ := parsed_ok _ _ _ _ parsed
  dsimp only at behind
  cases callee : program.registry.subchart? call.1 with
  | none =>
      rw [callee] at behind
      cases behind
  | some found =>
      rw [callee] at behind
      dsimp only at behind
      split at behind
      · cases behind
      · cases started : program.start? found with
        | none =>
            rw [started] at behind
            cases behind
        | some first =>
            rw [started] at behind
            obtain ⟨own, _, scope, made⟩ := bind_done _ _ _ _ _ behind
            cases made
            exact ⟨call.1, call.2, first.2, labelled, callee, started, scope⟩

theorem open_scope_cases (program : Program) (name : String) (args : List Label.Expr) (root : Component)
    (store after : Store) (opened : Action.openScope program name args root store = (.ok true, after)) :
    root.role = .entry ∧ ∃ header, Label.parseHeader root.label = .ok header := by
  cases role : root.role with
  | entry =>
      simp only [Action.openScope, role, run_bind] at opened
      cases parsed : Label.parseHeader root.label with
      | error error =>
          rw [parsed] at opened
          cases opened
      | ok header => exact ⟨rfl, header, rfl⟩
  | _ =>
      simp only [Action.openScope, role] at opened
      split at opened <;> cases opened

theorem called_of_enter (program : Program) (settings : Settings) (id : ComponentId) (component : Component)
    (depth : Nat) (phase : Option Phase) (store after : Store) (place : Nat) (start : ComponentId) (ownScope : Bool)
    (moved : moveOf program settings id component depth phase store = (.ok (.enter place start ownScope), after)) :
    component.role = .call ∧
      Action.enterCall program settings depth component.label store = (.ok (place, start, ownScope), after) := by
  have role : component.role = .call := by
    cases move_makes program settings id component depth phase store _ after moved with
    | enter role => exact role
  simp only [moveOf, role] at moved
  obtain ⟨found, reached, entered, made⟩ := bind_done _ _ _ _ _ moved
  cases made
  exact ⟨role, entered⟩

theorem scope_opens (program : Program) (settings : Settings) (id : ComponentId) (component : Component)
    (execution : Execution) (move : Move) (store : Store)
    (fits : move.Fits program settings id component execution.callDepth execution.store store)
    (next : Option ComponentId) (caller : Nat)
    (suffix : .call next caller true :: execution.frames <:+ (reach program id component execution move store).frames) :
    ∃ place start, move = .enter place start true ∧ next = component.successor ∧ caller = execution.chart := by
  have short := prepare_length execution id component
  cases move with
  | go link => exact absurd suffix (not_suffix_of_length short)
  | «show» text => exact absurd suffix (not_suffix_of_length short)
  | ask target prompt => exact absurd suffix (not_suffix_of_length short)
  | into frame link =>
      rcases List.suffix_cons_iff.mp suffix with same | inner
      · injection same with opened
        rcases fits.1 with decision | ⟨phase, loop⟩
        · rw [decision] at opened
          cases opened
        · rw [loop] at opened
          cases opened
      · exact absurd inner (not_suffix_of_length short)
  | enter place start ownScope =>
      rcases List.suffix_cons_iff.mp suffix with same | inner
      · injection same with opened
        rw [prepare_chart] at opened
        cases opened
        exact ⟨place, start, rfl, rfl, rfl⟩
      · exact absurd inner (not_suffix_of_length short)

theorem entering_call (program : Program) (settings : Settings) (before : Execution)
    (known : ∀ id, before.position = some id → ∃ component, program.component? before.chart id = some component)
    (next : Option ComponentId) (caller : Nat)
    (enters : (step program settings before).2.frames = .call next caller true :: before.frames) :
    ∃ call : ProcedureCall program settings before, call.frames = .call next caller true :: before.frames := by
  have longer {frames : List Frame} (short : frames.length ≤ before.frames.length) :
      frames ≠ .call next caller true :: before.frames := fun same =>
    not_suffix_of_length short ⟨[], same.symm⟩
  by_cases running : before.state = .running
  · cases here : before.position with
    | none =>
        rw [step_ended program settings before running here] at enters
        exact absurd enters (longer (Nat.le_refl _))
    | some id =>
        obtain ⟨component, found⟩ := known id here
        have yields := move_of_yields program settings id component before.callDepth (before.phase? id) before.store
        have stepped := step_run program settings id component before running here found
        rcases moved : moveOf program settings id component before.callDepth (before.phase? id) before.store with
          ⟨outcome, store⟩
        rw [moved] at stepped
        cases outcome with
        | error fault =>
            rw [stepped] at enters
            exact absurd enters (longer (prepare_length before id component))
        | ok move =>
            have suffix := advance_suffix (reach program id component before move store) (move.link component)
            rw [stepped] at enters
            dsimp only at enters
            rw [enters] at suffix
            obtain ⟨place, start, rfl, rfl, rfl⟩ := scope_opens program settings id component before move store
              (Action.yields_ok yields moved) next caller suffix
            obtain ⟨role, entered⟩ := called_of_enter program settings id component _ _ _ _ place start true moved
            obtain ⟨name, args, root, label, callee, started, scope⟩ := enter_call_cases _ _ _ _ _ _ _ _ _ entered
            obtain ⟨procedure, header, parsed⟩ := open_scope_cases _ _ _ _ _ _ scope
            have succeeds : (step program settings before).1.isOk = true := by
              rw [stepped]
              rfl
            exact ⟨⟨id, component, name, args, place, start, root, header, running, here, found, role, label, callee,
              started, procedure, parsed, succeeds⟩, rfl⟩
  · rw [step_waiting program settings before running] at enters
    exact absurd enters (longer (Nat.le_refl _))

end Flowline.Execution
