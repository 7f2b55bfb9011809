import Flowline.Proofs.Store.Elementary
import Flowline.Table.Lookup

set_option autoImplicit false

namespace Flowline

def Scope.Rooted (bound : Nat) (scope : Scope) : Prop :=
  ∀ name cell, scope.get? name = some (.shared cell) → cell < bound

def Binding.Rooted (bound : Nat) (binding : Binding) : Prop := ∀ cell, binding = .shared cell → cell < bound

theorem empty_rooted (bound : Nat) : Scope.Rooted bound ∅ := fun _ _ found => nomatch found

theorem scope_rooted_mono (scope : Scope) (bound larger : Nat) (rooted : scope.Rooted bound) (le : bound ≤ larger) :
    scope.Rooted larger := fun name cell found => Nat.lt_of_lt_of_le (rooted name cell found) le

theorem insert_rooted (scope : Scope) (bound : Nat) (name : String) (binding : Binding)
    (rooted : scope.Rooted bound) (bound_binding : binding.Rooted bound) :
    Scope.Rooted bound (scope.insert name binding) := by
  intro other cell found
  by_cases same : other = name
  · subst same
    rw [Table.get?_insert_self] at found
    cases found
    exact bound_binding cell rfl
  · rw [Table.get?_insert_of_ne scope name other binding same] at found
    exact rooted other cell found

namespace Environment

def Rooted (env : Environment) : Prop := ∀ scope ∈ env.scopes, Scope.Rooted env.cells.size scope

theorem empty_env_rooted : Environment.empty.Rooted := by
  intro scope member
  rw [List.mem_singleton.mp member]
  exact empty_rooted _

theorem lookup_rooted (env : Environment) (rooted : env.Rooted) (name : String) (cell : Nat)
    (known : env.lookup name = some (.shared cell)) : cell < env.cells.size := by
  obtain ⟨scope, member, found⟩ := List.exists_of_findSome?_eq_some known
  exact rooted scope member name cell found

theorem rebind_first_rooted (bound : Nat) (name : String) (binding : Binding) (scopes : List Scope)
    (rooted : ∀ scope ∈ scopes, Scope.Rooted bound scope) (bound_binding : binding.Rooted bound) :
    ∀ scope ∈ rebindFirst name binding scopes, Scope.Rooted bound scope := by
  induction scopes with
  | nil => exact rooted
  | cons scope rest ih =>
      have first := rooted scope List.mem_cons_self
      have others := ih fun other member => rooted other (List.mem_cons_of_mem _ member)
      simp only [rebindFirst]
      split
      · intro other member
        rcases List.mem_cons.mp member with same | later
        · subst same
          exact insert_rooted scope bound name binding first bound_binding
        · exact rooted other (List.mem_cons_of_mem _ later)
      · intro other member
        rcases List.mem_cons.mp member with same | later
        · subst same
          exact first
        · exact others other later

theorem scopes_rebind (env : Environment) (name : String) (binding : Binding) :
    (env.rebind name binding).scopes = rebindFirst name binding env.scopes := by
  by_cases known : env.innermost.contains name
  · simp only [rebind, scopes, rebindFirst, if_pos known]
  · simp only [rebind, scopes, rebindFirst, if_neg known]

theorem cells_rebind (env : Environment) (name : String) (binding : Binding) :
    (env.rebind name binding).cells = env.cells := by
  simp only [rebind]
  split <;> rfl

theorem rebind_rooted (env : Environment) (name : String) (binding : Binding) (rooted : env.Rooted)
    (bound_binding : binding.Rooted env.cells.size) : (env.rebind name binding).Rooted := by
  simp only [Rooted]
  rw [scopes_rebind, cells_rebind]
  exact rebind_first_rooted _ name binding env.scopes rooted bound_binding

theorem define_rooted (env : Environment) (name : String) (binding : Binding) (rooted : env.Rooted)
    (bound_binding : binding.Rooted env.cells.size) : (env.define name binding).Rooted := by
  intro scope member
  rcases List.mem_cons.mp member with same | later
  · subst same
    exact insert_rooted env.innermost _ name binding (rooted _ List.mem_cons_self) bound_binding
  · exact rooted scope (List.mem_cons_of_mem _ later)

theorem push_rooted (env : Environment) (scope : Scope) (rooted : env.Rooted)
    (bound : scope.Rooted env.cells.size) : (env.push scope).Rooted := by
  intro other member
  rcases List.mem_cons.mp member with same | later
  · subst same
    exact bound
  · exact rooted other later

theorem pop_rooted (env : Environment) (rooted : env.Rooted) : env.pop.2.Rooted := by
  simp only [pop]
  split
  · exact rooted
  · rename_i next rest enclosing
    intro scope member
    refine rooted scope (List.mem_cons_of_mem _ ?_)
    rw [enclosing]
    exact member

theorem own_rooted (value : Value) (bound : Nat) : (Binding.own value).Rooted bound := fun _ same => nomatch same

theorem set_rooted (env : Environment) (name : String) (value : Value) (rooted : env.Rooted) :
    (env.set name value).Rooted := by
  simp only [set]
  split
  · intro scope member
    have kept := rooted scope member
    dsimp only
    rw [Array.size_setIfInBounds]
    exact kept
  · exact rebind_rooted env name _ rooted (own_rooted value _)
  · exact define_rooted env name _ rooted (own_rooted value _)

theorem set_cells (env : Environment) (name : String) (value : Value) :
    (env.set name value).cells.size = env.cells.size := by
  simp only [set]
  split
  · exact Array.size_setIfInBounds
  · rw [cells_rebind]
  · rfl

theorem pushed_rooted (env : Environment) (value : Value) (rooted : env.Rooted) :
    Rooted { env with cells := env.cells.push value } := by
  intro scope member
  dsimp only
  rw [Array.size_push]
  exact scope_rooted_mono scope _ _ (rooted scope member) (Nat.le_succ _)

theorem fresh_rooted (env : Environment) (value : Value) :
    (Binding.shared env.cells.size).Rooted (env.cells.push value).size := by
  intro cell same
  cases same
  rw [Array.size_push]
  exact Nat.lt_succ_self _

theorem share_rooted (env : Environment) (name : String) (rooted : env.Rooted) :
    (env.share name).2.Rooted ∧ (env.share name).1.Rooted (env.share name).2.cells.size := by
  unfold share
  dsimp only
  split
  · rename_i known found
    refine ⟨rooted, fun cell same => ?_⟩
    cases same
    exact lookup_rooted env rooted name known found
  · rename_i value found
    refine ⟨rebind_rooted _ name _ (pushed_rooted env value rooted) (fresh_rooted env value), ?_⟩
    dsimp only
    rw [cells_rebind]
    exact fresh_rooted env value
  · exact ⟨define_rooted _ name _ (pushed_rooted env _ rooted) (fresh_rooted env _), fresh_rooted env _⟩

theorem share_cells (env : Environment) (name : String) : env.cells.size ≤ (env.share name).2.cells.size := by
  unfold share
  dsimp only
  split
  · exact Nat.le_refl _
  · dsimp only
    rw [cells_rebind, Array.size_push]
    exact Nat.le_succ _
  · change env.cells.size ≤ (env.cells.push Value.undefined).size
    rw [Array.size_push]
    exact Nat.le_succ _

end Environment

end Flowline
