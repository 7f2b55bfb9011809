import Flowline.Chart.Fault
import Flowline.Chart.Flowchart

set_option autoImplicit false

namespace Flowline.Chart

open Flowline.Graph (ClassKind Instance Member Primitive)

def readText (graph : Graph) (self : Instance) (id : ComponentId) (name : String) : Except Fault String :=
  match self.member? name with
  | some .null => .ok ""
  | some (.ref target) =>
      match Graph.string? graph target with
      | some text => .ok text
      | none => .error (.badMember id name)
  | _ => .error (.badMember id name)

def readLink (graph : Graph) (self : Instance) (id : ComponentId) (name : String) :
    Except Fault (Option ComponentId) :=
  match self.member? name with
  | some .null => .ok none
  | some (.ref target) =>
      match (Graph.instance? graph target).map Instance.kind with
      | some kind =>
          if kind.isComponent then .ok (some target) else .error (.notComponent target (some kind))
      | none => .error (.notComponent target none)
  | _ => .error (.badMember id name)

-- The value of a member of an enumeration, which may lie in an object of its own.
def enumValue? (graph : Graph) (self : Instance) (name : String) : Option Int32 :=
  match self.member? name with
  | some (.ref target) => (Graph.instance? graph target).bind fun value => value.int? "value__"
  | some (.primitive (.int32 value)) => some value
  | _ => none

def readRectangle (graph : Graph) (self : Instance) (id : ComponentId) : Except Fault Role :=
  match enumValue? graph self "_kind" with
  | none => .error (.badMember id "_kind")
  | some value =>
      if value = 0 then .ok .assignment
      else if value = 1 then .ok .call
      else .error (.unknownRectangle id value)

def readParallelogram (graph : Graph) (self : Instance) (id : ComponentId) : Except Fault Role :=
  match self.boolean? "_is_input" with
  | none => .error (.badMember id "_is_input")
  | some isInput => do
      let prompt ← readText graph self id "_prompt"
      return if isInput then .input prompt else .output prompt

def readRole (graph : Graph) (self : Instance) (id : ComponentId) : Except Fault Role :=
  match self.kind with
  | .oval => .ok .terminal
  | .ovalProcedure => .ok .entry
  | .rectangle => readRectangle graph self id
  | .ifControl => do
      let yes ← readLink graph self id "_left_Child"
      let no ← readLink graph self id "_right_Child"
      return .decision yes no
  | .loop => do
      let before ← readLink graph self id "_before_Child"
      let after ← readLink graph self id "_after_Child"
      return .loop before after
  | .parallelogram => readParallelogram graph self id
  | kind => .error (.notComponent id (some kind))

def readComponent (graph : Graph) (id : ComponentId) : Except Fault Component :=
  match Graph.instance? graph id with
  | none => .error (.notComponent id none)
  | some self => do
      let role ← readRole graph self id
      let label ← readText graph self id "_text_str"
      let successor ← readLink graph self id "_Successor"
      return ⟨role, label, successor⟩

theorem contains_of_read_component (graph : Graph) (id : ComponentId) (component : Component)
    (done : readComponent graph id = .ok component) : ∃ object, graph.get? id = some object := by
  cases found : graph.get? id with
  | some object => exact ⟨object, rfl⟩
  | none =>
      simp only [readComponent, Graph.instance?, found] at done
      cases done

-- Reads the components that are still to do and all that they lead to. The last link of a component is
-- followed first.
def readComponents (graph : Graph) (todo : List ComponentId)
    (known : Table ComponentId Component .ascending) :
    Except Fault (Table ComponentId Component .ascending) :=
  match todo with
  | [] => .ok known
  | id :: rest =>
      if _fresh : known.contains id then readComponents graph rest known
      else
        match _read : readComponent graph id with
        | .error fault => .error fault
        | .ok component =>
            readComponents graph (component.children.reverse ++ component.successor.toList ++ rest)
              (known.insert id component)
termination_by 4 * unmet graph.keys known.contains + todo.length
decreasing_by
  · exact Nat.add_lt_add_left (Nat.lt_succ_self _) _
  · obtain ⟨object, found⟩ := contains_of_read_component graph id component _read
    have fewer : unmet graph.keys (known.insert id component).contains < unmet graph.keys known.contains := by
      refine unmet_lt _ _ _ id ?_ ?_ ?_ ?_
      · exact fun other => Table.contains_insert_of_contains known id other component
      · exact Table.mem_keys_of_get? graph id object found
      · simpa using _fresh
      · exact Table.contains_insert_self known id component
    have short := component.length_links_le
    simp only [Component.links, List.length_append, List.length_reverse, List.length_cons] at short ⊢
    omega

def startsChart (kind : ClassKind) : Bool := kind = .oval || kind = .ovalProcedure

end Flowline.Chart

namespace Flowline

def Flowchart.ofGraph (graph : Graph) (root : Chart.ComponentId) : Except Chart.Fault Flowchart :=
  let kind := (Graph.instance? graph root).map Graph.Instance.kind
  if kind.any Chart.startsChart then do
    let components ← Chart.readComponents graph [root] ∅
    return ⟨root, components⟩
  else .error (.badRoot kind)

end Flowline
