import Flowline.Proofs.Chart.Described
import Flowline.Proofs.Chart.Whole
import Mathlib.Logic.Relation

set_option autoImplicit false

namespace Flowline.Chart

open Flowline.Graph (ClassKind Instance Member Object)

section Links

variable (graph : Graph)

def Leads (id target : ComponentId) : Prop :=
  ∃ object : Instance, graph.get? id = some (.record object) ∧
    ∃ name ∈ linkNames object.kind, object.member? name = some (.ref target)

def Reaches : ComponentId → ComponentId → Prop := Relation.ReflTransGen (Leads graph)

theorem leads_iff (id : ComponentId) (component : Component) (read : readComponent graph id = .ok component)
    (target : ComponentId) : Leads graph id target ↔ target ∈ component.links := by
  obtain ⟨object, held, describes⟩ := (read_component_ok_iff graph id component).mp read
  rw [links_iff component describes target]
  constructor
  · rintro ⟨other, same, linked⟩
    rw [held] at same
    cases same
    exact linked
  · intro linked
    exact ⟨object, held, linked⟩

theorem leads_component (id : ComponentId) (component : Component) (read : readComponent graph id = .ok component)
    (target : ComponentId) (leads : Leads graph id target) :
    ∃ object : Instance, graph.get? target = some (.record object) ∧ object.kind.isComponent = true := by
  obtain ⟨object, held, describes⟩ := (read_component_ok_iff graph id component).mp read
  obtain ⟨other, same, name, member, linked⟩ := leads
  rw [held] at same
  cases same
  obtain ⟨link, links⟩ := (described_well_formed describes).2.links name member
  cases links with
  | nothing bare =>
      rw [bare] at linked
      cases linked
  | component found object again held component =>
      rw [again] at linked
      cases linked
      exact ⟨object, held, component⟩

end Links

section Search

variable (graph : Graph)

theorem read_components_known (id : ComponentId) (rest : List ComponentId)
    (known : Table ComponentId Component .ascending) (met : known.contains id = true) :
    readComponents graph (id :: rest) known = readComponents graph rest known := by
  rw [readComponents, dif_pos met]

theorem read_components_failed (id : ComponentId) (rest : List ComponentId)
    (known : Table ComponentId Component .ascending) (fresh : ¬ known.contains id = true) (fault : Fault)
    (failed : readComponent graph id = .error fault) : readComponents graph (id :: rest) known = .error fault := by
  rw [readComponents, dif_neg fresh]
  split
  · rename_i other again
    rw [failed] at again
    cases again
    rfl
  · rename_i component done
    rw [failed] at done
    cases done

theorem read_components_read (id : ComponentId) (rest : List ComponentId)
    (known : Table ComponentId Component .ascending) (fresh : ¬ known.contains id = true) (component : Component)
    (done : readComponent graph id = .ok component) :
    readComponents graph (id :: rest) known =
      readComponents graph (component.children.reverse ++ component.successor.toList ++ rest)
        (known.insert id component) := by
  rw [readComponents, dif_neg fresh]
  split
  · rename_i other failed
    rw [done] at failed
    cases failed
  · rename_i other again
    rw [done] at again
    cases again
    rfl

-- Some of the objects that are to do lead to this one.
def Ahead (todo : List ComponentId) (id : ComponentId) : Prop := ∃ start ∈ todo, Reaches graph start id

theorem ahead_pushed (id : ComponentId) (component : Component) (read : readComponent graph id = .ok component)
    (rest : List ComponentId) (target : ComponentId)
    (ahead : Ahead graph (component.children.reverse ++ component.successor.toList ++ rest) target) :
    Ahead graph (id :: rest) target := by
  obtain ⟨start, member, reaches⟩ := ahead
  rcases List.mem_append.mp member with pushed | waiting
  · have linked : start ∈ component.links := by
      simp only [Component.links, List.mem_append, List.mem_reverse] at pushed ⊢
      exact pushed
    have leads := (leads_iff graph id component read start).mpr linked
    exact ⟨id, List.mem_cons_self, .head leads reaches⟩
  · exact ⟨start, List.mem_cons_of_mem id waiting, reaches⟩

theorem read_components_found (todo : List ComponentId) (known result : Table ComponentId Component .ascending)
    (done : readComponents graph todo known = .ok result) (id : ComponentId) (component : Component)
    (found : result.get? id = some component) :
    known.get? id = some component ∨ readComponent graph id = .ok component ∧ Ahead graph todo id := by
  induction todo, known using readComponents.induct graph with
  | case1 known =>
      rw [readComponents] at done
      cases done
      exact Or.inl found
  | case2 known first rest met ih =>
      rw [read_components_known graph first rest known met] at done
      rcases ih done with before | ⟨read, start, member, reaches⟩
      · exact Or.inl before
      · exact Or.inr ⟨read, start, List.mem_cons_of_mem first member, reaches⟩
  | case3 known first rest fresh fault failed =>
      rw [read_components_failed graph first rest known fresh fault failed] at done
      cases done
  | case4 known first rest fresh other read ih =>
      rw [read_components_read graph first rest known fresh other read] at done
      rcases ih done with before | ⟨later, ahead⟩
      · by_cases same : id = first
        · subst same
          rw [Table.get?_insert_self] at before
          cases before
          exact Or.inr ⟨read, id, List.mem_cons_self, .refl⟩
        · rw [Table.get?_insert_of_ne known first id other same] at before
          exact Or.inl before
      · exact Or.inr ⟨later, ahead_pushed graph first other read rest id ahead⟩

theorem read_components_succeed (todo : List ComponentId) (known : Table ComponentId Component .ascending)
    (good : ∀ id, Ahead graph todo id → ∃ component, readComponent graph id = .ok component) :
    ∃ result, readComponents graph todo known = .ok result := by
  induction todo, known using readComponents.induct graph with
  | case1 known => exact ⟨known, by rw [readComponents]⟩
  | case2 known first rest met ih =>
      rw [read_components_known graph first rest known met]
      refine ih fun id ahead => good id ?_
      obtain ⟨start, member, reaches⟩ := ahead
      exact ⟨start, List.mem_cons_of_mem first member, reaches⟩
  | case3 known first rest fresh fault failed =>
      obtain ⟨component, read⟩ := good first ⟨first, List.mem_cons_self, .refl⟩
      rw [failed] at read
      cases read
  | case4 known first rest fresh component read ih =>
      rw [read_components_read graph first rest known fresh component read]
      exact ih fun id ahead => good id (ahead_pushed graph first component read rest id ahead)

end Search

section Turns

variable (graph : Graph)

-- The search when it may look at a limited number of objects only, if that is enough.
def searchWithin : Nat → List ComponentId → Table ComponentId Component .ascending →
    Option (Except Fault (Table ComponentId Component .ascending))
  | _, [], known => some (.ok known)
  | 0, _ :: _, _ => none
  | turns + 1, id :: rest, known =>
      if known.contains id then searchWithin turns rest known
      else
        match readComponent graph id with
        | .error fault => some (.error fault)
        | .ok component =>
            searchWithin turns (component.children.reverse ++ component.successor.toList ++ rest)
              (known.insert id component)

theorem unmet_read (id : ComponentId) (component : Component) (known : Table ComponentId Component .ascending)
    (fresh : ¬ known.contains id = true) (read : readComponent graph id = .ok component) :
    unmet graph.keys (known.insert id component).contains < unmet graph.keys known.contains := by
  obtain ⟨object, found⟩ := contains_of_read_component graph id component read
  refine unmet_lt _ _ _ id ?_ ?_ ?_ ?_
  · exact fun other => Table.contains_insert_of_contains known id other component
  · exact Table.mem_keys_of_get? graph id object found
  · simpa using fresh
  · exact Table.contains_insert_self known id component

-- Each object that is read for the first time puts at most three others on the list.
theorem search_ends (turns : Nat) (todo : List ComponentId) (known : Table ComponentId Component .ascending)
    (enough : 4 * unmet graph.keys known.contains + todo.length ≤ turns) :
    searchWithin graph turns todo known = some (readComponents graph todo known) := by
  induction turns generalizing todo known with
  | zero =>
      cases todo with
      | nil => rw [searchWithin, readComponents]
      | cons id rest => simp at enough
  | succ turns ih =>
      cases todo with
      | nil => rw [searchWithin, readComponents]
      | cons id rest =>
          rw [List.length_cons] at enough
          rw [searchWithin]
          by_cases met : known.contains id = true
          · rw [if_pos met, read_components_known graph id rest known met]
            exact ih rest known (by omega)
          · rw [if_neg met]
            cases read : readComponent graph id with
            | error fault => rw [read_components_failed graph id rest known met fault read]
            | ok component =>
                rw [read_components_read graph id rest known met component read]
                have fewer := unmet_read graph id component known met read
                have short := component.length_links_le
                refine ih _ _ ?_
                simp only [Component.links, List.length_append, List.length_reverse] at short ⊢
                omega

end Turns

section Charts

variable (graph : Graph) (root : ComponentId)

def Starts : Prop :=
  ∃ object : Instance, graph.get? root = some (.record object) ∧ (object.kind = .oval ∨ object.kind = .ovalProcedure)

def AllFormed : Prop :=
  ∀ id (object : Instance), Reaches graph root id → graph.get? id = some (.record object) →
    object.kind.isComponent = true → WellFormed graph object

theorem starts_component (starts : Starts graph root) :
    ∃ object : Instance, graph.get? root = some (.record object) ∧ object.kind.isComponent = true := by
  obtain ⟨object, held, oval | entry⟩ := starts
  · exact ⟨object, held, by rw [oval]; rfl⟩
  · exact ⟨object, held, by rw [entry]; rfl⟩

theorem read_of_formed (id : ComponentId) (object : Instance) (held : graph.get? id = some (.record object))
    (component : object.kind.isComponent = true) (formed : WellFormed graph object) :
    ∃ component, readComponent graph id = .ok component := by
  obtain ⟨component, describes⟩ := well_formed_described component formed
  exact ⟨component, (read_component_ok_iff graph id component).mpr ⟨object, held, describes⟩⟩

theorem reached_read (starts : Starts graph root) (formed : AllFormed graph root) (id : ComponentId)
    (reaches : Reaches graph root id) : ∃ component, readComponent graph id = .ok component := by
  have component : ∃ object : Instance, graph.get? id = some (.record object) ∧ object.kind.isComponent = true := by
    induction reaches with
    | refl => exact starts_component graph root starts
    | tail reaches leads ih =>
        obtain ⟨object, held, kind⟩ := ih
        obtain ⟨component, read⟩ := read_of_formed graph _ object held kind (formed _ object reaches held kind)
        exact leads_component graph _ component read _ leads
  obtain ⟨object, held, kind⟩ := component
  exact read_of_formed graph id object held kind (formed id object reaches held kind)

theorem starts_iff :
    ((Graph.instance? graph root).map Instance.kind).any startsChart = true ↔ Starts graph root := by
  simp only [Option.any_eq_true, Option.map_eq_some_iff, instance_eq_some, startsChart, Bool.or_eq_true,
    decide_eq_true_eq]
  constructor
  · rintro ⟨kind, ⟨object, held, rfl⟩, oval⟩
    exact ⟨object, held, oval⟩
  · rintro ⟨object, held, oval⟩
    exact ⟨object.kind, ⟨object, held, rfl⟩, oval⟩

theorem of_graph_ok_iff (chart : Flowchart) :
    Flowchart.ofGraph graph root = .ok chart ↔
      Starts graph root ∧ readComponents graph [root] ∅ = .ok chart.components ∧ chart.root = root := by
  rw [← starts_iff, Flowchart.ofGraph]
  split
  · rename_i starts
    rw [both_ok]
    constructor
    · rintro ⟨components, done, made⟩
      cases made
      exact ⟨starts, done, rfl⟩
    · rintro ⟨_, done, rfl⟩
      exact ⟨chart.components, done, rfl⟩
  · rename_i other
    exact ⟨nofun, fun good => absurd good.1 other⟩

theorem chart_read (chart : Flowchart) (made : Flowchart.ofGraph graph root = .ok chart) (id : ComponentId)
    (component : Component) (found : chart.get? id = some component) :
    readComponent graph id = .ok component ∧ Reaches graph root id := by
  obtain ⟨_, done, _⟩ := (of_graph_ok_iff graph root chart).mp made
  rcases read_components_found graph [root] ∅ chart.components done id component found with
    nothing | ⟨read, start, member, reaches⟩
  · cases nothing
  · rw [List.mem_singleton.mp member] at reaches
    exact ⟨read, reaches⟩

theorem chart_reaches (chart : Flowchart) (made : Flowchart.ofGraph graph root = .ok chart) (id : ComponentId)
    (reaches : Reaches graph root id) : ∃ component, chart.get? id = some component := by
  have whole := Flowchart.of_graph_whole graph root chart made
  have same := ((of_graph_ok_iff graph root chart).mp made).2.2
  induction reaches with
  | refl =>
      have present := whole.root
      rw [same] at present
      exact Option.isSome_iff_exists.mp present
  | tail reaches leads ih =>
      obtain ⟨component, found⟩ := ih
      obtain ⟨read, _⟩ := chart_read graph root chart made _ component found
      have linked := (leads_iff graph _ component read _).mp leads
      exact Option.isSome_iff_exists.mp (whole.links _ component found _ linked)

/-- The search for the components of a flowchart ends on every graph. It succeeds exactly if it starts at a terminal
or an entry and all components that are reached from there are well formed. The flowchart has just these, each as its
object describes it, so that no link leads out of it. -/
theorem charts_reached :
    searchWithin graph (4 * graph.size + 1) [root] ∅ = some (readComponents graph [root] ∅) ∧
      ((∃ chart, Flowchart.ofGraph graph root = .ok chart) ↔ Starts graph root ∧ AllFormed graph root) ∧
      ∀ chart, Flowchart.ofGraph graph root = .ok chart →
        chart.root = root ∧ chart.Whole ∧
          (∀ id, chart.components.contains id = true ↔ Reaches graph root id) ∧
          ∀ id component, chart.get? id = some component ↔
            Reaches graph root id ∧
              ∃ object, graph.get? id = some (.record object) ∧ Describes graph object component := by
  refine ⟨?_, ⟨?_, ?_⟩, fun chart made => ?_⟩
  · have bound : unmet graph.keys (∅ : Table ComponentId Component .ascending).contains ≤ graph.size := by
      rw [Table.size, ← List.length_map Prod.fst]
      exact List.countP_le_length
    refine search_ends graph _ [root] ∅ ?_
    rw [List.length_singleton]
    omega
  · rintro ⟨chart, made⟩
    refine ⟨((of_graph_ok_iff graph root chart).mp made).1, fun id object reaches held _ => ?_⟩
    obtain ⟨component, found⟩ := chart_reaches graph root chart made id reaches
    obtain ⟨read, _⟩ := chart_read graph root chart made id component found
    obtain ⟨other, same, describes⟩ := (read_component_ok_iff graph id component).mp read
    rw [held] at same
    cases same
    exact (described_well_formed describes).2
  · rintro ⟨starts, formed⟩
    have ahead : ∀ id, Ahead graph [root] id → ∃ component, readComponent graph id = .ok component := by
      rintro id ⟨start, member, reaches⟩
      rw [List.mem_singleton.mp member] at reaches
      exact reached_read graph root starts formed id reaches
    obtain ⟨components, done⟩ := read_components_succeed graph [root] ∅ ahead
    exact ⟨⟨root, components⟩, (of_graph_ok_iff graph root _).mpr ⟨starts, done, rfl⟩⟩
  · have reached := chart_reaches graph root chart made
    have read := chart_read graph root chart made
    refine ⟨((of_graph_ok_iff graph root chart).mp made).2.2, Flowchart.of_graph_whole graph root chart made, ?_, ?_⟩
    · intro id
      constructor
      · intro present
        obtain ⟨component, found⟩ := Option.isSome_iff_exists.mp present
        exact (read id component found).2
      · intro reaches
        exact Option.isSome_iff_exists.mpr (reached id reaches)
    · intro id component
      constructor
      · intro found
        exact ⟨(read id component found).2, (read_component_ok_iff graph id component).mp (read id component found).1⟩
      · rintro ⟨reaches, described⟩
        obtain ⟨other, found⟩ := reached id reaches
        have again := (read_component_ok_iff graph id component).mpr described
        rw [(read id other found).1] at again
        cases again
        exact found

end Charts

-- A terminal and a loop that lead to each other, beside a rectangle that says nothing.
def ring : Graph :=
  Table.ofList [(1, record .oval [("_text_str", .null), ("_Successor", .ref 2)]),
    (2, record .loop
      [("_text_str", .null), ("_Successor", .null), ("_before_Child", .ref 1), ("_after_Child", .ref 2)]),
    (3, record .rectangle [])]
where
  record (kind : ClassKind) (members : List (String × Member)) : Object :=
    .record ⟨⟨kind.name, kind, kind.library, members.map fun member => ⟨member.1, .object⟩⟩,
      (members.map Prod.snd).toArray⟩

theorem charts_reached_ring : AllFormed ring 1 ∧ Reaches ring 1 2 ∧ ¬ Reaches ring 1 3 := by
  have holds : (Flowchart.ofGraph ring 1).toOption.map
      (fun chart => (chart.components.contains 2, chart.components.contains 3)) = some (true, false) := by
    decide +kernel
  cases made : Flowchart.ofGraph ring 1 with
  | error fault =>
      rw [made] at holds
      cases holds
  | ok chart =>
      rw [made] at holds
      obtain ⟨two, three⟩ := Prod.mk.inj (Option.some.inj holds)
      obtain ⟨_, succeeds, exactly⟩ := charts_reached ring 1
      obtain ⟨_, _, reached, _⟩ := exactly chart made
      refine ⟨(succeeds.mp ⟨chart, made⟩).2, (reached 2).mp two, fun reaches => ?_⟩
      have absent := (reached 3).mpr reaches
      rw [three] at absent
      cases absent

end Flowline.Chart
