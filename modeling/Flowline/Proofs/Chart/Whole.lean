import Flowline.Chart.OfGraph

set_option autoImplicit false

namespace Flowline

open Chart (ComponentId Component)

namespace Flowchart

structure Whole (chart : Flowchart) : Prop where
  root : chart.components.contains chart.root = true
  links : ∀ id component, chart.get? id = some component →
    ∀ link ∈ component.links, chart.components.contains link = true

end Flowchart

namespace Chart

-- Where the links of the components read so far lead to: what is read, and what is still to read.
def Covered (todo : List ComponentId) (known : Table ComponentId Component .ascending) : Prop :=
  ∀ id component, known.get? id = some component → ∀ link ∈ component.links,
    link ∈ todo ∨ known.contains link = true

theorem covered_empty (todo : List ComponentId) : Covered todo ∅ := by
  intro id component found
  cases found

theorem covered_skip (todo : List ComponentId) (known : Table ComponentId Component .ascending)
    (first : ComponentId) (read : known.contains first = true) (covered : Covered (first :: todo) known) :
    Covered todo known := by
  intro id component found link member
  rcases covered id component found link member with waiting | present
  · rcases List.mem_cons.mp waiting with same | later
    · subst same
      exact Or.inr read
    · exact Or.inl later
  · exact Or.inr present

theorem mem_pushed_links (component : Component) (link : ComponentId) (todo : List ComponentId)
    (member : link ∈ component.links) :
    link ∈ component.children.reverse ++ component.successor.toList ++ todo := by
  simp only [Component.links, List.mem_append, List.mem_reverse] at member ⊢
  exact Or.inl member

theorem covered_read (todo : List ComponentId) (known : Table ComponentId Component .ascending)
    (first : ComponentId) (component : Component) (covered : Covered (first :: todo) known) :
    Covered (component.children.reverse ++ component.successor.toList ++ todo) (known.insert first component) := by
  intro id other found link member
  by_cases same : id = first
  · subst same
    rw [Table.get?_insert_self] at found
    cases found
    exact Or.inl (mem_pushed_links component link todo member)
  · rw [Table.get?_insert_of_ne known first id component same] at found
    rcases covered id other found link member with waiting | present
    · rcases List.mem_cons.mp waiting with itself | later
      · subst itself
        exact Or.inr (Table.contains_insert_self known link component)
      · exact Or.inl (List.mem_append_right _ later)
    · exact Or.inr (Table.contains_insert_of_contains known first link component present)

theorem read_components_whole (graph : Graph) (todo : List ComponentId)
    (known result : Table ComponentId Component .ascending)
    (read : readComponents graph todo known = .ok result) (covered : Covered todo known) :
    (∀ id, id ∈ todo ∨ known.contains id = true → result.contains id = true) ∧ Covered [] result := by
  induction todo, known using readComponents.induct graph with
  | case1 known =>
      rw [readComponents] at read
      cases read
      refine ⟨fun id present => ?_, covered⟩
      rcases present with member | present
      · cases member
      · exact present
  | case2 known id rest fresh ih =>
      rw [readComponents, dif_pos fresh] at read
      obtain ⟨kept, closed⟩ := ih read (covered_skip rest known id fresh covered)
      refine ⟨fun other present => kept other ?_, closed⟩
      rcases present with member | present
      · rcases List.mem_cons.mp member with same | later
        · subst same
          exact Or.inr fresh
        · exact Or.inl later
      · exact Or.inr present
  | case3 known id rest fresh fault failed =>
      rw [readComponents, dif_neg fresh] at read
      split at read
      · cases read
      · rename_i component done
        rw [failed] at done
        cases done
  | case4 known id rest fresh component done ih =>
      rw [readComponents, dif_neg fresh] at read
      split at read
      · cases read
      · rename_i other again
        rw [done] at again
        cases again
        obtain ⟨kept, closed⟩ := ih read (covered_read rest known id component covered)
        refine ⟨fun other present => kept other ?_, closed⟩
        rcases present with member | present
        · rcases List.mem_cons.mp member with same | later
          · subst same
            exact Or.inr (Table.contains_insert_self known other component)
          · exact Or.inl (List.mem_append_right _ later)
        · exact Or.inr (Table.contains_insert_of_contains known id other component present)

end Chart

theorem Flowchart.of_graph_whole (graph : Graph) (root : ComponentId) (chart : Flowchart)
    (read : Flowchart.ofGraph graph root = .ok chart) : chart.Whole := by
  unfold Flowchart.ofGraph at read
  dsimp only at read
  split at read
  · cases done : Chart.readComponents graph [root] ∅ with
    | error fault =>
        rw [done] at read
        cases read
    | ok components =>
        rw [done] at read
        cases read
        obtain ⟨kept, closed⟩ :=
          Chart.read_components_whole graph [root] ∅ components done (Chart.covered_empty [root])
        refine ⟨kept root (Or.inl List.mem_cons_self), fun id component found link member => ?_⟩
        rcases closed id component found link member with waiting | present
        · cases waiting
        · exact present
  · cases read

end Flowline
