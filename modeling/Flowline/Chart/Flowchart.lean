import Flowline.Chart.Component
import Flowline.Search
import Flowline.Table.Lookup

set_option autoImplicit false

namespace Flowline

structure Flowchart where
  root : Chart.ComponentId
  components : Table Chart.ComponentId Chart.Component .ascending

namespace Flowchart

open Chart

def get? (chart : Flowchart) (id : ComponentId) : Option Component := chart.components.get? id

def rootComponent? (chart : Flowchart) : Option Component := chart.get? chart.root

def size (chart : Flowchart) : Nat := chart.components.size

-- The components that can be got to from some of them, each at its first visit: a component comes before
-- those it links to, and all that its first link leads to comes before its next link.
def preorder (chart : Flowchart) (todo seen : List ComponentId) : List ComponentId :=
  match todo with
  | [] => []
  | id :: rest =>
      if _fresh : id ∈ seen then chart.preorder rest seen
      else
        match _found : chart.get? id with
        | none => chart.preorder rest seen
        | some component => id :: chart.preorder (component.links ++ rest) (id :: seen)
termination_by (unmet chart.components.keys seen.contains, todo.length)
decreasing_by
  · exact Prod.Lex.right _ (Nat.lt_succ_self _)
  · exact Prod.Lex.right _ (Nat.lt_succ_self _)
  · refine Prod.Lex.left _ _ (unmet_lt _ _ _ id ?_ ?_ ?_ ?_)
    · intro other known
      simp only [List.contains_cons, Bool.or_eq_true]
      exact Or.inr known
    · exact Table.mem_keys_of_get? chart.components id component _found
    · simpa using _fresh
    · simp

def walk (chart : Flowchart) : List ComponentId := chart.preorder [chart.root] []

end Flowchart

end Flowline
