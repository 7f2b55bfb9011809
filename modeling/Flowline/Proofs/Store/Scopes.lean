import Flowline.Proofs.Store.Walk

set_option autoImplicit false

namespace Flowline

namespace Environment

theorem depth_rebind_first (name : String) (binding : Binding) (scopes : List Scope) :
    (rebindFirst name binding scopes).length = scopes.length := by
  induction scopes with
  | nil => rfl
  | cons scope rest ih =>
      by_cases known : scope.contains name
      · simp only [rebindFirst, if_pos known, List.length_cons]
      · simp only [rebindFirst, if_neg known, List.length_cons, ih]

theorem depth_rebind (env : Environment) (name : String) (binding : Binding) :
    (env.rebind name binding).depth = env.depth := by
  by_cases known : env.innermost.contains name
  · simp only [rebind, if_pos known, depth]
  · simp only [rebind, if_neg known, depth, depth_rebind_first]

theorem depth_set (env : Environment) (name : String) (value : Value) :
    (env.set name value).depth = env.depth := by
  simp only [set]
  split
  · rfl
  · exact depth_rebind env name _
  · rfl

theorem depth_share (env : Environment) (name : String) : (env.share name).2.depth = env.depth := by
  unfold share
  dsimp only
  split
  · rfl
  · exact depth_rebind _ name _
  · rfl

theorem depth_push (env : Environment) (scope : Scope) : (env.push scope).depth = env.depth + 1 := rfl

theorem depth_pop (env : Environment) (inner : 1 < env.depth) : env.pop.2.depth + 1 = env.depth := by
  rcases env with ⟨innermost, enclosing, cells⟩
  cases enclosing with
  | nil => exact absurd inner (by simp [depth])
  | cons next rest => rfl

end Environment

def SameDepth (before after : Store) : Prop := after.env.depth = before.env.depth

theorem same_depth_order : StoreOrder SameDepth where
  refl := fun _ => rfl
  trans := fun _ _ _ first second => second.trans first
  allocates := fun _ _ => rfl
  writes := fun _ _ _ _ => rfl
  sets := fun store name value => Environment.depth_set store.env name value
  draws := fun _ _ => rfl

theorem share_variable_depth (name : String) : Respects SameDepth (Action.shareVariable name) :=
  fun store => Environment.depth_share store.env name

end Flowline
