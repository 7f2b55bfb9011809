import Flowline.Proofs.Chart.Reached
import Flowline.Proofs.Execution.Calling
import Flowline.Proofs.Label.Callee
import Flowline.Proofs.Program.Shape
import Flowline.Proofs.Record.Narrow

set_option autoImplicit false

namespace Flowline.Program

open Flowline.Chart (Component ComponentId)
open Flowline.Graph (Message)
open Flowline.Text (Narrow lowerEach)

theorem header_name_narrow (header : Header) (messages : List Message)
    (narrow : ∀ message ∈ messages, Record.NarrowStrings message.graph) (heads : Heads header messages) :
    Narrow header.name.toList := by
  cases heads with
  | short named kind rooted => exact narrow named List.mem_cons_self _ header.name rooted
  | long named kind number rooted => exact narrow named List.mem_cons_self _ header.name rooted

theorem label_narrow (graph : Graph) (id : ComponentId) (component : Component)
    (narrow : Record.NarrowStrings graph) (read : Chart.readComponent graph id = .ok component) :
    Narrow component.label.toList := by
  obtain ⟨object, _, describes⟩ := (Chart.read_component_ok_iff graph id component).mp read
  have spelt := describes.label
  generalize component.label = label at spelt
  cases spelt with
  | nothing => exact Text.narrow_nil
  | string target _ _ found => exact narrow target label found

theorem bears_label_narrow (subchart : Subchart) (messages : List Message)
    (narrow : ∀ message ∈ messages, Record.NarrowStrings message.graph) (bears : Bears subchart messages)
    (id : ComponentId) (component : Component) (found : subchart.flowchart.get? id = some component) :
    Narrow component.label.toList := by
  cases bears with
  | pair chart made =>
      have read := (Chart.chart_read chart.graph chart.rootId subchart.flowchart made id component found).1
      exact label_narrow chart.graph id component (narrow chart List.mem_cons_self) read

theorem forall₂_mem_left {α β : Type} {relation : α → β → Prop} {left : List α} {right : List β}
    (related : List.Forall₂ relation left right) (one : α) (member : one ∈ left) :
    ∃ other ∈ right, relation one other := by
  induction related with
  | nil => cases member
  | cons first _ ih =>
      rcases List.mem_cons.mp member with same | later
      · subst same
        exact ⟨_, List.mem_cons_self, first⟩
      · obtain ⟨other, inside, holds⟩ := ih later
        exact ⟨other, List.mem_cons_of_mem _ inside, holds⟩

theorem loaded_narrow (bytes : List UInt8) (program : Program) (loaded : load bytes = .ok program) (subchart : Subchart)
    (member : subchart ∈ program.subcharts) :
    Narrow subchart.name.toList ∧
      ∀ id component, subchart.flowchart.get? id = some component → Narrow component.label.toList := by
  obtain ⟨messages, decoded, made⟩ := (load_ok_iff bytes program).mp loaded
  obtain ⟨rest, taken⟩ := (of_messages_ok_iff messages program).mp made
  obtain ⟨pieces, rfl, spell⟩ := (take_program_spells messages rest program taken).1
  have narrow := Record.decode_narrow bytes pieces.messages decoded
  obtain ⟨heading, inHeaders, heads⟩ := forall₂_mem_left spell.headers subchart.header (List.mem_map_of_mem member)
  obtain ⟨body, inBodies, bears⟩ := forall₂_mem_left spell.bodies subchart member
  constructor
  · refine header_name_narrow subchart.header heading (fun message inside => narrow message ?_) heads
    have known := List.mem_flatten_of_mem inHeaders inside
    simp [Pieces.messages, known]
  · refine bears_label_narrow subchart body (fun message inside => narrow message ?_) bears
    have known := List.mem_flatten_of_mem inBodies inside
    simp [Pieces.messages, known]

theorem loaded_lists (bytes : List UInt8) (program : Program) (loaded : load bytes = .ok program) :
    Lists program.registry (program.subcharts.map Subchart.key) := by
  obtain ⟨messages, _, made⟩ := (load_ok_iff bytes program).mp loaded
  obtain ⟨rest, taken⟩ := (of_messages_ok_iff messages program).mp made
  exact (take_program_spells messages rest program taken).2

section Calls

theorem call_finds_iff (bytes : List UInt8) (program : Program) (loaded : load bytes = .ok program) (place : Nat)
    (id : ComponentId) (component : Component) (found : program.component? place id = some component) (index : Nat) :
    program.registry.subchart? (String.ofList (lowerEach (Label.callee component.label))) = some index ↔
      ∃ subchart, program.subchart? index = some subchart ∧
        lowerEach (Label.callee component.label) = lowerEach subchart.name.toList := by
  obtain ⟨caller, here, inside⟩ := Option.bind_eq_some_iff.mp found
  have label := (loaded_narrow bytes program loaded caller (List.mem_of_getElem? here)).2 id component inside
  have word : Narrow (Label.callee component.label) :=
    Text.narrow_sublist _ _ ((List.takeWhile_sublist _).trans (List.dropWhile_sublist _)) label
  rw [Registry.subchart?, loaded_lists bytes program loaded, List.getElem?_map, Option.map_eq_some_iff]
  refine exists_congr fun subchart => and_congr_right fun there => ?_
  have name := (loaded_narrow bytes program loaded subchart (List.mem_of_getElem? there)).1
  rw [Subchart.key, Text.fold_name_eq_iff subchart.name _ name word]
  exact eq_comm

theorem call_enters (program : Program) (settings : Settings) (execution : Execution) (id : ComponentId)
    (component : Component) (running : execution.state = .running) (here : execution.position = some id)
    (found : program.component? execution.chart id = some component) (role : component.role = .call)
    (succeeds : (Execution.step program settings execution).1.isOk = true) :
    ∃ name args, Label.parseCall component.label = .ok (name, args) ∧
      program.registry.subchart? name = some (Execution.step program settings execution).2.chart := by
  rw [Execution.step_run program settings id component execution running here found] at succeeds ⊢
  rcases moved : Execution.moveOf program settings id component execution.callDepth (execution.phase? id)
    execution.store with ⟨outcome, store⟩
  rw [moved] at succeeds
  simp only [Execution.moveOf, role, run_bind] at moved
  rcases entered : Action.enterCall program settings execution.callDepth component.label execution.store with
    ⟨opened, reached⟩
  rw [entered] at moved
  cases opened with
  | error fault =>
      cases moved
      cases succeeds
  | ok call =>
      obtain ⟨index, start, ownScope⟩ := call
      cases moved
      obtain ⟨name, args, root, parsed, known, _, _⟩ := Execution.enter_call_cases _ _ _ _ _ _ _ _ _ entered
      refine ⟨name, args, parsed, ?_⟩
      simpa [Execution.reach, Execution.Move.make, Execution.Move.link, Execution.enter, Execution.openFrame,
        Execution.advance, Execution.unwind, Execution.settle] using known

/-- In a program that has been loaded, a call finds the subchart whose name is the word that its label begins with,
where both are put into lower case character by character; and where it leads control to is what it finds. -/
theorem calls_found (bytes : List UInt8) (program : Program) (loaded : load bytes = .ok program) (place : Nat)
    (id : ComponentId) (component : Component) (found : program.component? place id = some component)
    (role : component.role = .call) (name : String) (args : List Label.Expr)
    (parsed : Label.parseCall component.label = .ok (name, args)) :
    name = String.ofList (lowerEach (Label.callee component.label)) ∧
      (∀ index, program.registry.subchart? name = some index ↔
        ∃ subchart, program.subchart? index = some subchart ∧
          lowerEach (Label.callee component.label) = lowerEach subchart.name.toList) ∧
      ∀ settings execution, execution.state = .running → execution.chart = place → execution.position = some id →
        (Execution.step program settings execution).1.isOk = true →
          ∃ subchart, program.subchart? (Execution.step program settings execution).2.chart = some subchart ∧
            lowerEach (Label.callee component.label) = lowerEach subchart.name.toList := by
  have spelt := Label.call_spelt component.label name args parsed
  have finds := call_finds_iff bytes program loaded place id component found
  rw [← spelt] at finds
  refine ⟨spelt, finds, fun settings execution running chart here succeeds => ?_⟩
  subst chart
  obtain ⟨called, given, same, known⟩ :=
    call_enters program settings execution id component running here found role succeeds
  rw [parsed] at same
  cases same
  exact (finds _).mp known

theorem calls_found_echoing :
    ∃ program component args, load Sample.echoing = .ok program ∧ program.component? 0 2 = some component ∧
      component.label = " (ÉCHO)(x)" ∧ component.role = .call ∧
      Label.parseCall component.label = .ok ("écho", args) ∧ program.registry.subchart? "écho" = some 1 := by
  let program := Sample.loaded Sample.echoing Sample.echoing_loads
  have loaded : load Sample.echoing = .ok program := Sample.load_loaded Sample.echoing Sample.echoing_loads
  have found : program.component? 0 2 = some ⟨.call, " (ÉCHO)(x)", none⟩ := by decide +kernel
  have called : (Label.parseCall " (ÉCHO)(x)").toOption.map Prod.fst = some "écho" := by decide +kernel
  have named : (program.subchart? 1).map Subchart.name = some "Écho" := by decide +kernel
  obtain ⟨⟨_, args⟩, parses, rfl⟩ := Option.map_eq_some_iff.mp called
  obtain ⟨subchart, there, same⟩ := Option.map_eq_some_iff.mp named
  cases parsed : Label.parseCall " (ÉCHO)(x)" with
  | error error =>
      rw [parsed] at parses
      cases parses
  | ok call =>
      rw [parsed] at parses
      cases parses
      have calls := calls_found Sample.echoing program loaded 0 2 _ found rfl "écho" args parsed
      refine ⟨program, _, args, loaded, found, rfl, rfl, parsed, (calls.2.1 1).mpr ⟨subchart, there, ?_⟩⟩
      rw [same]
      decide +kernel

end Calls

end Flowline.Program
