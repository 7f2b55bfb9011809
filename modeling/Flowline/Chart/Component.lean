import Flowline.Graph.Object

set_option autoImplicit false

namespace Flowline.Chart

abbrev ComponentId := Graph.ObjectId

inductive Role where
  | terminal
  | entry
  | assignment
  | call
  | decision (yes no : Option ComponentId)
  -- A loop that is left when its label holds: `before` comes before each test, `after` after each test
  -- that fails.
  | loop (before after : Option ComponentId)
  | output (prompt : String)
  | input (prompt : String)
deriving DecidableEq, Repr

structure Component where
  role : Role
  label : String
  successor : Option ComponentId
deriving DecidableEq, Repr

namespace Component

def children (component : Component) : List ComponentId :=
  match component.role with
  | .decision first second | .loop first second => first.toList ++ second.toList
  | _ => []

def links (component : Component) : List ComponentId := component.children ++ component.successor.toList

theorem length_to_list_le {α : Type} (link : Option α) : link.toList.length ≤ 1 := by
  cases link <;> simp

theorem length_links_le (component : Component) : component.links.length ≤ 3 := by
  have next := length_to_list_le component.successor
  rw [links, List.length_append]
  unfold children
  split
  · rename_i first second _
    have := length_to_list_le first
    have := length_to_list_le second
    rw [List.length_append]
    omega
  · rename_i first second _
    have := length_to_list_le first
    have := length_to_list_le second
    rw [List.length_append]
    omega
  · rw [List.length_nil]
    omega

end Component

end Flowline.Chart
