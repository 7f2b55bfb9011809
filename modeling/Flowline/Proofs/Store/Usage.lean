import Flowline.Proofs.Store.Locations

set_option autoImplicit false

namespace Flowline

-- What a name of a new scope stands for: a value, or a variable that a reference has been taken to before.
inductive Entry where
  | value (value : Value)
  | reference (taken : Nat)

inductive Operation where
  | set (name : String) (value : Value)
  | get (name : String)
  | getSoft (name : String)
  | share (name : String)
  | push (table : List (String × Entry))
  | pop

inductive Reply where
  | done
  | required (result : Except Fault Value)
  | found (result : Option Value)
  | popped (closed : Bool)

def Reply.ofRequired (name : String) : Option Value → Reply
  | some value => .required (.ok value)
  | none => .required (.error (.undefinedVariable name))

structure Variables where
  env : Environment
  taken : List Binding

namespace Variables

def start : Variables := ⟨.empty, []⟩

def table (taken : List Binding) (scope : Scope) : List (String × Entry) → Scope
  | [] => scope
  | (name, .value value) :: rest => table taken (scope.insert name (.own value)) rest
  | (name, .reference index) :: rest =>
      match taken[index]? with
      | some binding => table taken (scope.insert name binding) rest
      | none => table taken scope rest

def step (named : Variables) : Operation → Reply × Variables
  | .set name value => (.done, { named with env := named.env.set name value })
  | .get name => (.ofRequired name (named.env.get? name), named)
  | .getSoft name => (.found (named.env.get? name), named)
  | .share name =>
      let (binding, env) := named.env.share name
      (.done, ⟨env, named.taken ++ [binding]⟩)
  | .push entries => (.done, { named with env := named.env.push (table named.taken ∅ entries) })
  | .pop =>
      let (closed, env) := named.env.pop
      (.popped closed.isSome, { named with env })

def run (named : Variables) : List Operation → List Reply × Variables
  | [] => ([], named)
  | operation :: rest =>
      let (reply, next) := named.step operation
      let (replies, last) := next.run rest
      (reply :: replies, last)

end Variables

structure Locations where
  memory : Memory
  taken : List Nat

namespace Locations

def start : Locations := ⟨.empty, []⟩

def fill (taken : List Nat) (memory : Memory) : List (String × Entry) → Memory
  | [] => memory
  | (name, .value value) :: rest => fill taken (memory.define name value) rest
  | (name, .reference index) :: rest =>
      match taken[index]? with
      | some location => fill taken (memory.bind name location) rest
      | none => fill taken memory rest

def step (locations : Locations) : Operation → Reply × Locations
  | .set name value => (.done, { locations with memory := locations.memory.set name value })
  | .get name => (.ofRequired name (locations.memory.get? name), locations)
  | .getSoft name => (.found (locations.memory.get? name), locations)
  | .share name =>
      let (location, memory) := locations.memory.share name
      (.done, ⟨memory, locations.taken ++ [location]⟩)
  | .push entries => (.done, { locations with memory := fill locations.taken locations.memory.push entries })
  | .pop =>
      let (closed, memory) := locations.memory.pop
      (.popped closed, { locations with memory })

def run (locations : Locations) : List Operation → List Reply × Locations
  | [] => ([], locations)
  | operation :: rest =>
      let (reply, next) := locations.step operation
      let (replies, last) := next.run rest
      (reply :: replies, last)

end Locations

structure Taken (env : Environment) (address : Slot → Nat) (cells : List Nat) (bindings : List Binding)
    (locations : List Nat) : Prop where
  bindings : bindings = cells.map Binding.shared
  locations : locations = cells.map fun cell => address (.cell cell)
  below : ∀ cell ∈ cells, cell < env.cells.size

def Agree (named : Variables) (locations : Locations) : Prop :=
  ∃ address cells, Refines named.env locations.memory address ∧
    Taken named.env address cells named.taken locations.taken

theorem taken_kept (env after : Environment) (address larger : Slot → Nat) (cells : List Nat) (bindings : List Binding)
    (locations : List Nat) (taken : Taken env address cells bindings locations)
    (kept : ∀ cell < env.cells.size, larger (.cell cell) = address (.cell cell))
    (grown : env.cells.size ≤ after.cells.size) : Taken after larger cells bindings locations where
  bindings := taken.bindings
  locations := by
    rw [taken.locations]
    exact List.map_congr_left fun cell member => (kept cell (taken.below cell member)).symm
  below := fun cell member => Nat.lt_of_lt_of_le (taken.below cell member) grown

theorem pushed_agree (env : Environment) (cells : List Nat) (bindings : List Binding) (taken : List Nat)
    (entries : List (String × Entry)) (scope : Scope) (memory : Memory) (address : Slot → Nat)
    (refines : Refines (env.push scope) memory address) (same : Taken env address cells bindings taken) :
    ∃ larger, Refines (env.push (Variables.table bindings scope entries)) (Locations.fill taken memory entries) larger ∧
      ∀ cell, larger (.cell cell) = address (.cell cell) := by
  induction entries generalizing scope memory address with
  | nil => exact ⟨address, refines, fun _ => rfl⟩
  | cons entry rest ih =>
      obtain ⟨name, entry⟩ := entry
      cases entry with
      | value value =>
          have defined := refines_defined refines name value
          obtain ⟨larger, whole, kept⟩ := ih (scope.insert name (.own value)) _ _ defined
            (taken_kept env env address _ cells bindings taken same (fun cell _ => by simp) (Nat.le_refl _))
          exact ⟨larger, whole, fun cell => (kept cell).trans (by simp)⟩
      | reference index =>
          simp only [Variables.table, Locations.fill, same.bindings, same.locations, List.getElem?_map]
          cases found : cells[index]? with
          | none =>
              have rest := ih scope memory address refines same
              rw [same.bindings, same.locations] at rest
              exact rest
          | some cell =>
              have below := same.below cell (List.mem_of_getElem? found)
              have linked := refines_linked refines name cell below
              have rest := ih (scope.insert name (.shared cell)) _ address linked same
              rw [same.bindings, same.locations] at rest
              exact rest

theorem step_agree (named : Variables) (locations : Locations) (agree : Agree named locations)
    (operation : Operation) :
    (named.step operation).1 = (locations.step operation).1 ∧
      Agree (named.step operation).2 (locations.step operation).2 := by
  obtain ⟨address, cells, refines, taken⟩ := agree
  cases operation with
  | set name value =>
      obtain ⟨larger, set, kept⟩ := refines_set refines name value
      refine ⟨rfl, larger, cells, set, taken_kept _ _ _ _ _ _ _ taken (fun cell _ => kept cell) ?_⟩
      exact Nat.le_of_eq (Environment.set_cells named.env name value).symm
  | get name => exact ⟨congrArg (Reply.ofRequired name) (refines_get refines name), address, cells, refines, taken⟩
  | getSoft name => exact ⟨congrArg Reply.found (refines_get refines name), address, cells, refines, taken⟩
  | share name =>
      obtain ⟨larger, cell, shared, binding, location, below, kept⟩ := refines_share refines name
      have older := taken_kept _ _ _ _ _ _ _ taken kept (Environment.share_cells named.env name)
      refine ⟨rfl, larger, cells ++ [cell], shared, ?_, ?_, ?_⟩
      · simp only [Variables.step, older.bindings, binding, List.map_append, List.map_cons, List.map_nil]
      · simp only [Locations.step, older.locations, location, List.map_append, List.map_cons, List.map_nil]
      · intro other member
        rcases List.mem_append.mp member with early | last
        · exact older.below other early
        · rw [List.mem_singleton.mp last]
          exact below
  | push entries =>
      obtain ⟨larger, pushed, kept⟩ := pushed_agree named.env cells named.taken locations.taken entries ∅ _
        address (refines_push refines) taken
      exact ⟨rfl, larger, cells, pushed, taken_kept _ _ _ _ _ _ _ taken (fun cell _ => kept cell) (Nat.le_refl _)⟩
  | pop =>
      refine ⟨?_, address, cells, refines_pop refines, ?_⟩
      · have enclosing := (refines_parts refines).2
        cases around : named.env.enclosing <;> rw [around] at enclosing <;>
          simp [Variables.step, Locations.step, Environment.pop, Memory.pop, around, enclosing, namesIn]
      · refine taken_kept _ _ _ _ _ _ _ taken (fun _ _ => rfl) ?_
        exact Nat.le_of_eq (congrArg Array.size (Environment.close_cells named.env 1)).symm

theorem run_agree (operations : List Operation) (named : Variables) (locations : Locations)
    (agree : Agree named locations) :
    (named.run operations).1 = (locations.run operations).1 ∧
      Agree (named.run operations).2 (locations.run operations).2 := by
  induction operations generalizing named locations with
  | nil => exact ⟨rfl, agree⟩
  | cons operation rest ih =>
      obtain ⟨same, next⟩ := step_agree named locations agree operation
      obtain ⟨others, last⟩ := ih _ _ next
      exact ⟨congrArg₂ List.cons same others, last⟩

-- Whatever is done, variables behave as names of locations. A value that is written is found, as soon as enough
-- scopes are closed, under every name of its location, and all other names keep theirs.
theorem variables_agree (operations : List Operation) :
    (Variables.start.run operations).1 = (Locations.start.run operations).1 ∧
      ∀ (name other : String) (value : Value) (count : Nat),
        let env := (Variables.start.run operations).2.env
        let memory := (Locations.start.run operations).2.memory
        ((env.set name value).close count).get? other =
          if ((memory.set name value).close count).locate other = (memory.set name value).locate name then some value
          else (env.close count).get? other := by
  have start : Agree Variables.start Locations.start :=
    ⟨fun _ => 0, [], refines_empty _, rfl, rfl, fun _ member => nomatch member⟩
  obtain ⟨same, address, cells, refines, _⟩ := run_agree operations _ _ start
  refine ⟨same, fun name other value count => ?_⟩
  obtain ⟨larger, written, _⟩ := refines_set refines name value
  dsimp only
  rw [refines_get (refines_close written count), refines_get (refines_close refines count)]
  exact Memory.get_set_close _ (refines_bounded refines) name other value count

end Flowline
