import Flowline.Proofs.Store.Cells
import Flowline.Proofs.Store.Scopes

set_option autoImplicit false

namespace Flowline

inductive Place where
  | cell (ref : Nat)
  | scope (height : Nat)
deriving DecidableEq

namespace Environment

def placeIn (name : String) : List Scope → Option Place
  | [] => none
  | scope :: rest =>
      match scope.get? name with
      | some (.shared cell) => some (.cell cell)
      | some (.own _) => some (.scope rest.length)
      | none => placeIn name rest

def place? (env : Environment) (name : String) : Option Place := placeIn name env.scopes

def close (env : Environment) : Nat → Environment
  | 0 => env
  | count + 1 => env.pop.2.close count

theorem close_add (env : Environment) (first second : Nat) :
    (env.close first).close second = env.close (first + second) := by
  induction first generalizing env with
  | zero => rw [Nat.zero_add, close]
  | succ first ih => rw [Nat.succ_add, close, close, ih]

theorem ext_scopes (left right : Environment) (scopes : left.scopes = right.scopes)
    (cells : left.cells = right.cells) :
    left = right := by
  rcases left with ⟨innermost, enclosing, own⟩
  rcases right with ⟨other, others, theirs⟩
  cases scopes
  cases cells
  rfl

theorem close_cells (env : Environment) (count : Nat) : (env.close count).cells = env.cells := by
  induction count generalizing env with
  | zero => rfl
  | succ count ih =>
      rw [close, ih]
      simp only [pop]
      split <;> rfl

theorem pop_scopes (env : Environment) (inner : 1 < env.depth) : env.pop.2.scopes = env.scopes.tail := by
  rcases env with ⟨innermost, enclosing, cells⟩
  cases enclosing with
  | nil => exact absurd inner (by simp [depth])
  | cons next rest => rfl

theorem close_scopes (env : Environment) (count : Nat) (inner : count < env.depth) :
    (env.close count).scopes = env.scopes.drop count := by
  induction count generalizing env with
  | zero => rfl
  | succ count ih =>
      have popped := env.depth_pop (by omega)
      rw [close, ih env.pop.2 (by omega), pop_scopes env (by omega), List.drop_tail]

theorem close_rooted (env : Environment) (count : Nat) (rooted : env.Rooted) : (env.close count).Rooted := by
  induction count generalizing env with
  | zero => exact rooted
  | succ count ih => exact ih env.pop.2 (pop_rooted env rooted)

theorem close_single (env : Environment) (count : Nat) (single : env.depth = 1) : env.close count = env := by
  induction count with
  | zero => rfl
  | succ count ih =>
      have alone : env.pop.2 = env := by
        rcases env with ⟨innermost, enclosing, cells⟩
        cases enclosing with
        | nil => rfl
        | cons next rest => simp [depth] at single
      rw [close, alone, ih]

theorem depth_close_le (env : Environment) (count : Nat) : (env.close count).depth ≤ env.depth := by
  induction count generalizing env with
  | zero => exact Nat.le_refl _
  | succ count ih =>
      have below := ih env.pop.2
      rw [close]
      by_cases inner : 1 < env.depth
      · have popped := env.depth_pop inner
        omega
      · have single : env.depth = 1 := Nat.le_antisymm (Nat.le_of_not_lt inner) (Nat.succ_le_succ (Nat.zero_le _))
        have kept := env.close_single (count + 1) single
        rw [close] at kept
        exact Nat.le_of_eq (congrArg depth kept)

theorem close_same (env other : Environment) (count : Nat) (same : (env.close count).depth = env.depth)
    (like : other.depth = env.depth) : other.close count = other := by
  cases count with
  | zero => rfl
  | succ count =>
      by_cases inner : 1 < env.depth
      · have popped := env.depth_pop inner
        have below := env.pop.2.depth_close_le count
        rw [close] at same
        omega
      · have single : env.depth = 1 := Nat.le_antisymm (Nat.le_of_not_lt inner) (Nat.succ_le_succ (Nat.zero_le _))
        exact close_single other (count + 1) (like.trans single)

section Lists

variable (name : String)

theorem find_place_none (scopes : List Scope) :
    placeIn name scopes = none ↔ scopes.findSome? (fun scope => scope.get? name) = none := by
  induction scopes with
  | nil => exact ⟨fun _ => rfl, fun _ => rfl⟩
  | cons scope rest ih =>
      rw [placeIn, List.findSome?_cons]
      cases found : scope.get? name with
      | none => exact ih
      | some binding => cases binding <;> exact ⟨fun none => (nomatch none), fun none => (nomatch none)⟩

theorem find_place_cell (scopes : List Scope) (cell : Nat) :
    placeIn name scopes = some (.cell cell) ↔ scopes.findSome? (fun scope => scope.get? name) = some (.shared cell) := by
  induction scopes with
  | nil => exact ⟨fun none => (nomatch none), fun none => (nomatch none)⟩
  | cons scope rest ih =>
      rw [placeIn, List.findSome?_cons]
      cases found : scope.get? name with
      | none => exact ih
      | some binding =>
          cases binding with
          | own value => exact ⟨fun same => (nomatch same), fun same => (nomatch same)⟩
          | shared other =>
              constructor
              · intro same
                cases same
                rfl
              · intro same
                cases same
                rfl

theorem place_height (scopes : List Scope) (height : Nat) (found : placeIn name scopes = some (.scope height)) :
    height < scopes.length := by
  induction scopes with
  | nil => cases found
  | cons scope rest ih =>
      rw [placeIn] at found
      split at found
      · cases found
      · cases found
        exact Nat.lt_succ_self _
      · exact Nat.lt_succ_of_lt (ih found)

theorem place_own (scopes : List Scope) (height : Nat) (found : placeIn name scopes = some (.scope height)) :
    ∃ value, scopes.findSome? (fun scope => scope.get? name) = some (.own value) := by
  induction scopes with
  | nil => cases found
  | cons scope rest ih =>
      rw [placeIn] at found
      rw [List.findSome?_cons]
      split at found
      · cases found
      · rename_i value known
        rw [known]
        exact ⟨value, rfl⟩
      · rename_i unknown
        rw [unknown]
        exact ih found

end Lists

theorem lookup_none_of_place (env : Environment) (name : String) :
    env.place? name = none ↔ env.lookup name = none := find_place_none name env.scopes

theorem lookup_cell_of_place (env : Environment) (name : String) (cell : Nat) :
    env.place? name = some (.cell cell) ↔ env.lookup name = some (.shared cell) :=
  find_place_cell name env.scopes cell

theorem unknown_above (name : String) (scopes : List Scope) (count height : Nat)
    (found : placeIn name scopes = some (.scope height)) (low : height < scopes.length - count) :
    ∀ scope ∈ scopes.take count, scope.get? name = none := by
  induction scopes generalizing count with
  | nil => cases found
  | cons scope rest ih =>
      cases count with
      | zero => exact fun _ member => nomatch member
      | succ count =>
          rw [placeIn] at found
          rw [List.length_cons, Nat.add_sub_add_right] at low
          split at found
          · cases found
          · cases found
            omega
          · rename_i unknown
            intro other member
            rw [List.take_succ_cons] at member
            rcases List.mem_cons.mp member with same | later
            · rw [same]
              exact unknown
            · exact ih count found low other later

theorem rebind_first_drop (name : String) (binding : Binding) (scopes : List Scope) (count : Nat)
    (unknown : ∀ scope ∈ scopes.take count, scope.get? name = none) :
    (rebindFirst name binding scopes).drop count = rebindFirst name binding (scopes.drop count) := by
  induction scopes generalizing count with
  | nil => rw [rebindFirst, List.drop_nil, rebindFirst]
  | cons scope rest ih =>
      cases count with
      | zero => rfl
      | succ count =>
          have first := unknown scope (by rw [List.take_succ_cons]; exact List.mem_cons_self)
          have absent : ¬ scope.contains name = true := by
            rw [Table.contains, first]
            exact Bool.false_ne_true
          rw [rebindFirst, if_neg absent, List.drop_succ_cons, List.drop_succ_cons]
          refine ih count fun other member => unknown other ?_
          rw [List.take_succ_cons]
          exact List.mem_cons_of_mem _ member

theorem set_cell (env : Environment) (name : String) (value : Value) (cell : Nat)
    (found : env.place? name = some (.cell cell)) :
    env.set name value = { env with cells := env.cells.setIfInBounds cell value } := by
  have known := (lookup_cell_of_place env name cell).mp found
  simp only [set, known]

theorem set_scope (env : Environment) (name : String) (value : Value) (height : Nat)
    (found : env.place? name = some (.scope height)) : env.set name value = env.rebind name (.own value) := by
  obtain ⟨old, known⟩ := place_own name env.scopes height found
  have known : env.lookup name = some (.own old) := known
  simp only [set, known]

theorem set_unknown (env : Environment) (name : String) (value : Value) (unknown : env.place? name = none) :
    env.set name value = env.define name (.own value) := by
  have known := (lookup_none_of_place env name).mp unknown
  simp only [set, known]

-- A variable whose place is the same for the scopes that are left is given its value before or after the
-- others are closed.
theorem set_close (env : Environment) (name : String) (value : Value) (count : Nat) (place : Place)
    (inner : count < env.depth) (before : env.place? name = some place)
    (after : (env.close count).place? name = some place) :
    (env.set name value).close count = (env.close count).set name value := by
  have deep : count < (env.set name value).depth := by
    rw [depth_set]
    exact inner
  have left : (env.close count).scopes = env.scopes.drop count := close_scopes env count inner
  apply ext_scopes
  · rw [close_scopes _ count deep]
    cases place with
    | cell ref =>
        rw [set_cell env name value ref before, set_cell (env.close count) name value ref after]
        exact left.symm
    | scope height =>
        have low := place_height name _ height after
        rw [left, List.length_drop] at low
        rw [set_scope env name value height before, set_scope (env.close count) name value height after,
          scopes_rebind, scopes_rebind, left]
        exact rebind_first_drop name _ env.scopes count (unknown_above name env.scopes count height before low)
  · rw [close_cells]
    cases place with
    | cell ref =>
        rw [set_cell env name value ref before, set_cell (env.close count) name value ref after]
        simp only [close_cells]
    | scope height =>
        rw [set_scope env name value height before, set_scope (env.close count) name value height after,
          cells_rebind, cells_rebind, close_cells]

theorem find_rebound (name : String) (binding : Binding) (scopes : List Scope)
    (known : scopes.findSome? (fun scope => scope.get? name) ≠ none) :
    (rebindFirst name binding scopes).findSome? (fun scope => scope.get? name) = some binding := by
  induction scopes with
  | nil => exact absurd rfl known
  | cons scope rest ih =>
      rw [List.findSome?_cons] at known
      simp only [rebindFirst]
      split
      · rw [List.findSome?_cons, Table.get?_insert_self]
      · rename_i absent
        have unknown : scope.get? name = none := by
          rw [Table.contains, Option.not_isSome_iff_eq_none] at absent
          exact absent
        rw [unknown] at known
        rw [List.findSome?_cons, unknown]
        exact ih known

theorem get_set (env : Environment) (name : String) (value : Value) (rooted : env.Rooted) :
    (env.set name value).get? name = some value := by
  cases found : env.place? name with
  | none =>
      rw [set_unknown env name value found]
      have defined : (env.define name (.own value)).lookup name = some (.own value) := by
        rw [lookup, scopes, List.findSome?_cons]
        simp only [define, Table.get?_insert_self]
      rw [get?, defined]
      rfl
  | some place =>
      cases place with
      | cell ref =>
          have known := (lookup_cell_of_place env name ref).mp found
          have below := lookup_rooted env rooted name ref known
          rw [set_cell env name value ref found]
          have same : lookup { env with cells := env.cells.setIfInBounds ref value } name = some (.shared ref) := known
          rw [get?, same]
          simp [valueOf, Array.getD, below]
      | scope height =>
          obtain ⟨old, known⟩ := place_own name env.scopes height found
          rw [set_scope env name value height found, get?, lookup, scopes_rebind,
            find_rebound name _ env.scopes (by rw [known]; exact Option.some_ne_none _)]
          rfl

theorem place_below (name : String) (scopes : List Scope) (count height : Nat)
    (found : placeIn name scopes = some (.scope height)) (low : height < scopes.length - count) :
    placeIn name (scopes.drop count) = some (.scope height) := by
  induction scopes generalizing count with
  | nil => cases found
  | cons scope rest ih =>
      cases count with
      | zero => exact found
      | succ count =>
          rw [placeIn] at found
          rw [List.length_cons, Nat.add_sub_add_right] at low
          rw [List.drop_succ_cons]
          split at found
          · cases found
          · cases found
            omega
          · exact ih count found low

theorem rebind_first_above (name : String) (binding : Binding) (scopes : List Scope) (count height : Nat)
    (found : placeIn name scopes = some (.scope height)) (high : scopes.length - count ≤ height) :
    (rebindFirst name binding scopes).drop count = scopes.drop count := by
  induction scopes generalizing count with
  | nil => cases found
  | cons scope rest ih =>
      have short := place_height name (scope :: rest) height found
      cases count with
      | zero =>
          rw [List.length_cons] at high short
          omega
      | succ count =>
          rw [placeIn] at found
          rw [List.length_cons, Nat.add_sub_add_right] at high
          simp only [rebindFirst]
          split
          · rfl
          · rename_i absent
            have unknown : scope.get? name = none := by
              rw [Table.contains, Option.not_isSome_iff_eq_none] at absent
              exact absent
            rw [unknown] at found
            exact ih count found high

theorem set_apart (env : Environment) (name : String) (value : Value) (count : Nat) (some_closed : 0 < count)
    (inner : count < env.depth)
    (apart : ∀ height, env.place? name = some (.scope height) → env.depth - count ≤ height) :
    ((env.set name value).close count).scopes = (env.close count).scopes := by
  have deep : count < (env.set name value).depth := by
    rw [depth_set]
    exact inner
  rw [close_scopes _ count deep, close_scopes env count inner]
  cases found : env.place? name with
  | none =>
      rw [set_unknown env name value found]
      obtain ⟨less, rfl⟩ := Nat.exists_eq_succ_of_ne_zero (Nat.ne_of_gt some_closed)
      rfl
  | some place =>
      cases place with
      | cell ref =>
          rw [set_cell env name value ref found]
          rfl
      | scope height =>
          rw [set_scope env name value height found, scopes_rebind]
          exact rebind_first_above name _ env.scopes count height found (apart height found)

theorem set_elsewhere (env : Environment) (name : String) (value : Value) (cell : Nat)
    (different : env.place? name ≠ some (.cell cell)) :
    (env.set name value).cells.getD cell .undefined = env.cells.getD cell .undefined := by
  cases found : env.place? name with
  | none =>
      rw [set_unknown env name value found]
      rfl
  | some place =>
      cases place with
      | cell ref =>
          have apart : ref ≠ cell := fun same => different (by rw [found, same])
          rw [set_cell env name value ref found]
          simp [Array.getElem?_setIfInBounds_ne apart]
      | scope height => rw [set_scope env name value height found, cells_rebind]

theorem set_unseen (env : Environment) (name : String) (value : Value) (count : Nat) (some_closed : 0 < count)
    (inner : count < env.depth)
    (different : ∀ place, env.place? name = some place → (env.close count).place? name ≠ some place) :
    ((env.set name value).close count).get? name = (env.close count).get? name := by
  have apart : ∀ height, env.place? name = some (.scope height) → env.depth - count ≤ height := by
    intro height found
    refine Nat.le_of_not_lt fun low => different _ found ?_
    rw [place?, close_scopes env count inner]
    exact place_below name env.scopes count height found low
  have scopes := set_apart env name value count some_closed inner apart
  have known : ((env.set name value).close count).lookup name = (env.close count).lookup name := by
    rw [lookup, lookup, scopes]
  rw [get?, get?, known]
  cases left : (env.close count).lookup name with
  | none => rfl
  | some binding =>
      cases binding with
      | own old => rfl
      | shared cell =>
          have closed := (lookup_cell_of_place (env.close count) name cell).mpr left
          have elsewhere := set_elsewhere env name value cell fun found => different _ found closed
          simp only [Option.map_some, valueOf, close_cells]
          rw [elsewhere]

-- The converse: two values are enough to tell that the place is the same.
theorem place_of_set_close (env : Environment) (name : String) (first second : Value) (different : first ≠ second)
    (count : Nat) (some_closed : 0 < count) (inner : count < env.depth) (rooted : env.Rooted)
    (one : (env.set name first).close count = (env.close count).set name first)
    (other : (env.set name second).close count = (env.close count).set name second) :
    ∃ place, env.place? name = some place ∧ (env.close count).place? name = some place := by
  apply Classical.byContradiction
  intro missing
  have apart : ∀ place, env.place? name = some place → (env.close count).place? name ≠ some place :=
    fun place before after => missing ⟨place, before, after⟩
  have seen : ∀ value, (env.set name value).close count = (env.close count).set name value →
      (env.close count).get? name = some value := by
    intro value same
    rw [← set_unseen env name value count some_closed inner apart, same]
    exact get_set _ name value (close_rooted env count rooted)
  have both := (seen first one).symm.trans (seen second other)
  cases both
  exact different rfl

end Environment

end Flowline
