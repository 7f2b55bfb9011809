import Flowline.Proofs.Chart.Reached
import Flowline.Proofs.Table.Ascending
import Mathlib.Data.List.Nodup

set_option autoImplicit false

namespace Flowline

open Chart (ComponentId Component)

namespace Chart

def Component.first? (component : Component) : Option ComponentId :=
  match component.role with
  | .decision yes _ => yes
  | .loop before _ => before
  | _ => none

def Component.second? (component : Component) : Option ComponentId :=
  match component.role with
  | .decision _ no => no
  | .loop _ after => after
  | _ => none

end Chart

namespace Flowchart

variable (chart : Flowchart)

theorem unmet_listed (listed after : List ComponentId) (id : ComponentId) (component : Component)
    (fresh : id ∉ listed) (found : chart.get? id = some component) (behind : listed ++ [id] <+: after) :
    unmet chart.components.keys after.contains < unmet chart.components.keys listed.contains := by
  refine unmet_lt _ _ _ id (fun other known => ?_) (Table.mem_keys_of_get? chart.components id component found)
    (by simpa using fresh) ?_
  · have member : other ∈ listed := by simpa using known
    simpa using behind.subset (List.mem_append_left [id] member)
  · simpa using behind.subset (List.mem_append_right listed List.mem_cons_self)

abbrev Listed (before : List ComponentId) := { after : List ComponentId // before <+: after }

-- The recursive traversal. A component is listed when it is first come to, before its first child, its second child
-- and its successor are visited one after the other.
def visit (listed : List ComponentId) (link : Option ComponentId) : Listed listed :=
  match link with
  | none => ⟨listed, List.prefix_rfl⟩
  | some id =>
      if _fresh : id ∈ listed then ⟨listed, List.prefix_rfl⟩
      else
        match _found : chart.get? id with
        | none => ⟨listed, List.prefix_rfl⟩
        | some component =>
            let first := visit (listed ++ [id]) component.first?
            let second := visit first.1 component.second?
            let last := visit second.1 component.successor
            ⟨last.1, (List.prefix_append listed [id]).trans (first.2.trans (second.2.trans last.2))⟩
termination_by unmet chart.components.keys listed.contains
decreasing_by
  · exact unmet_listed chart listed _ id component _fresh _found List.prefix_rfl
  · exact unmet_listed chart listed _ id component _fresh _found first.2
  · exact unmet_listed chart listed _ id component _fresh _found (first.2.trans second.2)

section Visits

variable (listed : List ComponentId)

end Visits

section Loop

end Loop

section Listing

end Listing

section Graphs

variable (graph : Graph) (root : ComponentId)

variable (made : Flowchart.ofGraph graph root = .ok chart)

include made

end Graphs

end Flowchart

end Flowline
