import Flowline.Proofs.Execution.Enclosed
import Mathlib.Algebra.Order.BigOperators.Group.List
import Mathlib.Data.List.Perm.Subperm

set_option autoImplicit false

namespace Flowline

open Chart (ComponentId Component)

namespace Chart

def Component.isConstruct (component : Component) : Bool :=
  match component.role with
  | .decision _ _ | .loop _ _ => true
  | _ => false

end Chart

namespace Program

def constructs (program : Program) (place : Nat) : List ComponentId :=
  match program.subchart? place with
  | some subchart => (subchart.flowchart.components.entries.filter fun entry => entry.2.isConstruct).map Prod.fst
  | none => []

theorem mem_constructs (program : Program) (place : Nat) (id : ComponentId) (component : Component)
    (found : program.component? place id = some component) (construct : component.isConstruct = true) :
    id ∈ program.constructs place := by
  obtain ⟨subchart, charted, held⟩ := program.component_cases place id component found
  have listed := Table.mem_of_seek_ascending id component subchart.flowchart.components.entries held
  rw [constructs, charted]
  exact List.mem_map.mpr ⟨(id, component), List.mem_filter.mpr ⟨listed, construct⟩, rfl⟩

end Program

namespace Execution

structure Activation where
  place : Nat
  frames : List Frame
deriving DecidableEq

-- All calls that have not come to their ends, the innermost first, when some constructs of it have been met.
def activations (place : Nat) (met : List Frame) : List Frame → List Activation
  | [] => [⟨place, met⟩]
  | .call _ caller _ :: outer => ⟨place, met⟩ :: activations caller [] outer
  | frame :: outer => activations place (met ++ [frame]) outer

variable {program : Program}

theorem opens_construct (id : ComponentId) (component : Component) (frame : Frame) (opens : Opens id component frame) :
    component.isConstruct = true ∧ frame.isCall = false := by
  cases opens with
  | decision yes no role => simp [Component.isConstruct, role, Frame.isCall]
  | loop before after role phase => simp [Component.isConstruct, role, Frame.isCall]

theorem nested_behind (place : Nat) (path : List ComponentId) (frames : List Frame)
    (nested : Nested program place path frames) (id : ComponentId) (within : Within program place path id) :
    ∀ around ∈ path, program.Behind place around id := by
  induction nested generalizing id with
  | outermost | call => exact fun around member => nomatch member
  | construct place path first component frame outer found opens inside nested ih =>
      have behind : program.Behind place first id := within first rfl
      intro around member
      rcases List.mem_cons.mp member with same | later
      · subst same
        exact behind
      · exact (ih first inside around later).trans behind

theorem nested_nodup (acyclic : program.Acyclic) (place : Nat) (path : List ComponentId) (frames : List Frame)
    (nested : Nested program place path frames) : path.Nodup ∧ path ⊆ program.constructs place := by
  induction nested with
  | outermost | call => exact ⟨List.nodup_nil, List.nil_subset _⟩
  | construct place path id component frame outer found opens within nested ih =>
      obtain ⟨distinct, known⟩ := ih
      have fresh : id ∉ path := fun again => acyclic place id (nested_behind place path outer nested id within id again)
      have construct := (opens_construct id component frame opens).1
      exact ⟨List.nodup_cons.mpr ⟨fresh, distinct⟩,
        List.cons_subset.mpr ⟨program.mem_constructs place id component found construct, known⟩⟩

theorem nested_length (acyclic : program.Acyclic) (place : Nat) (path : List ComponentId) (frames : List Frame)
    (nested : Nested program place path frames) : path.length ≤ (program.constructs place).length := by
  obtain ⟨distinct, known⟩ := nested_nodup acyclic place path frames nested
  exact (List.subperm_of_subset distinct known).length_le

theorem activations_bounded (acyclic : program.Acyclic) (place : Nat) (path : List ComponentId) (frames : List Frame)
    (nested : Nested program place path frames) (met : List Frame)
    (short : met.length + path.length ≤ (program.constructs place).length) :
    ∀ activation ∈ activations place met frames,
      activation.frames.length ≤ (program.constructs activation.place).length := by
  induction nested generalizing met with
  | outermost place =>
      intro activation member
      rw [List.mem_singleton.mp member]
      exact short
  | construct place path id component frame outer found opens within nested ih =>
      have grown : (met ++ [frame]).length + path.length ≤ (program.constructs place).length := by
        simp only [List.length_append, List.length_cons, List.length_nil] at short ⊢
        omega
      cases opens with
      | decision => exact ih (met ++ [_]) grown
      | loop => exact ih (met ++ [_]) grown
  | call place caller path next ownScope outer back nested ih =>
      have outside := nested_length acyclic caller path outer nested
      intro activation member
      rcases List.mem_cons.mp member with same | later
      · rw [same]
        exact short
      · exact ih [] (by simpa using outside) activation later

theorem activations_length (place : Nat) (met frames : List Frame) :
    met.length + frames.length =
      callsIn frames + ((activations place met frames).map fun activation => activation.frames.length).sum := by
  induction frames generalizing place met with
  | nil => simp [activations, callsIn]
  | cons frame outer ih =>
      rw [calls_in_cons]
      cases frame with
      | call next caller ownScope =>
          have rest := ih caller []
          simp only [activations, List.map_cons, List.sum_cons, List.length_cons, List.length_nil, Frame.isCall,
            Bool.toNat_true] at rest ⊢
          omega
      | decision next =>
          have rest := ih place (met ++ [.decision next])
          simp only [activations, List.length_append, List.length_cons, List.length_nil, Frame.isCall,
            Bool.toNat_false] at rest ⊢
          omega
      | loop id phase =>
          have rest := ih place (met ++ [.loop id phase])
          simp only [activations, List.length_append, List.length_cons, List.length_nil, Frame.isCall,
            Bool.toNat_false] at rest ⊢
          omega

/-- In a program without cycles of links, the constructs that are open in a call are at most as many as there are in
its subchart, whatever has been asked for and however long the program has run. So all blocks that are open are
bounded by the depth of calls and the constructs of the subcharts that are called. -/
theorem blocks_bounded (bytes : List UInt8) (program : Program) (settings : Settings) (requests : List Request)
    (loaded : Program.load bytes = .ok program) (acyclic : program.Acyclic) :
    let reached := serveAll program settings requests (initial program settings)
    (∀ activation ∈ activations reached.chart [] reached.frames,
        activation.frames.length ≤ (program.constructs activation.place).length) ∧
      reached.blocks.length ≤ reached.callDepth +
        ((activations reached.chart [] reached.frames).map fun activation =>
          (program.constructs activation.place).length).sum := by
  intro reached
  have whole := Program.load_whole bytes program loaded
  have sound : Sound program settings reached := serve_all_sound whole requests (initial_sound whole)
  obtain ⟨path, enclosed⟩ : ∃ path, Enclosed program reached path :=
    serve_all_enclosed whole requests (initial_sound whole) (initial_enclosed program settings)
  have short := nested_length acyclic reached.chart path reached.frames enclosed.nested
  have bounded := activations_bounded acyclic reached.chart path reached.frames enclosed.nested []
    (by simpa using short)
  refine ⟨bounded, ?_⟩
  have all := activations_length reached.chart [] reached.frames
  have most := List.sum_le_sum bounded
  rw [blocks, List.length_reverse, List.length_map, sound.inside.calls]
  simp only [List.length_nil, Nat.zero_add] at all
  omega

def rises (program : Program) : Bool :=
  program.subcharts.all fun subchart => subchart.flowchart.components.entries.all fun entry =>
    entry.2.links.all fun target => entry.1 < target

theorem acyclic_of_rises (program : Program) (rising : rises program = true) : program.Acyclic := by
  have link_rises : ∀ place id target, program.Links place id target → id < target := by
    rintro place id target ⟨component, found, linked⟩
    obtain ⟨subchart, charted, held⟩ := program.component_cases place id component found
    have chart := List.all_eq_true.mp rising subchart (program.subchart_valid place subchart charted).2
    have listed := Table.mem_of_seek_ascending id component subchart.flowchart.components.entries held
    have links := List.all_eq_true.mp (List.all_eq_true.mp chart (id, component) listed) target linked
    exact of_decide_eq_true links
  have behind_rises : ∀ place id target, program.Behind place id target → id < target := by
    intro place id target behind
    induction behind with
    | single link => exact link_rises place id _ link
    | tail _ link ih => exact Int32.lt_trans ih (link_rises place _ _ link)
  exact fun place id behind => Int32.lt_irrefl (behind_rises place id id behind)

theorem blocks_bounded_nesting :
    let program := Sample.loaded Sample.nesting Sample.nesting_loads
    let reached := serveAll program .standard (List.replicate 8 .step) (initial program .standard)
    let calls := activations reached.chart [] reached.frames
    program.Acyclic ∧ reached.blocks = [.loopBody, .decision, .subchart, .loopStart] ∧ reached.callDepth = 1 ∧
      calls = [⟨1, [.loop 2 .test]⟩, ⟨0, [.decision none, .loop 3 .again]⟩] ∧
      (∀ activation ∈ calls, activation.frames.length ≤ (program.constructs activation.place).length) ∧
      reached.blocks.length ≤
        reached.callDepth + (calls.map fun activation => (program.constructs activation.place).length).sum := by
  intro program reached calls
  have opened : rises program = true ∧ reached.blocks = [.loopBody, .decision, .subchart, .loopStart] ∧
      reached.callDepth = 1 ∧
      calls = [⟨1, [.loop 2 .test]⟩, ⟨0, [.decision none, .loop 3 .again]⟩] := by
    decide +kernel
  have acyclic := acyclic_of_rises program opened.1
  exact ⟨acyclic, opened.2.1, opened.2.2.1, opened.2.2.2,
    blocks_bounded Sample.nesting program .standard _ (Sample.load_loaded _ _) acyclic⟩

end Execution

end Flowline
