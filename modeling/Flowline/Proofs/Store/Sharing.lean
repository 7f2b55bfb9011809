import Flowline.Proofs.Store.Heights

set_option autoImplicit false

namespace Flowline.Environment

theorem value_pushed (env : Environment) (value : Value) (binding : Binding) (rooted : binding.Rooted env.cells.size) :
    ({ env with cells := env.cells.push value } : Environment).valueOf binding = env.valueOf binding := by
  cases binding with
  | own held => rfl
  | shared cell =>
      have old := rooted cell rfl
      simp only [valueOf, Array.getD_eq_getD_getElem?]
      rw [Array.getElem?_push_lt old, ← Array.getElem?_eq_getElem old]

theorem value_fresh (env : Environment) (value : Value) :
    ({ env with cells := env.cells.push value } : Environment).valueOf (.shared env.cells.size) = value := by
  simp only [valueOf, Array.getD_eq_getD_getElem?, Array.getElem?_push_size, Option.getD_some]

theorem value_of_rebind (env : Environment) (name : String) (binding : Binding) :
    (env.rebind name binding).valueOf = env.valueOf := by
  funext other
  cases other with
  | own value => rfl
  | shared cell => simp only [valueOf, cells_rebind]

theorem value_none_iff (env : Environment) (height : Nat) (name : String) :
    env.valueAt height name = none ↔ env.bindingAt height name = none := Option.map_eq_none_iff

theorem lookup_none_values (env : Environment) (name : String) :
    env.lookup name = none ↔ ∀ height, env.valueAt height name = none := by
  rw [lookup_none_iff]
  exact forall_congr' fun height => (value_none_iff env height name).symm

structure Shares (names : List String) (before after : Environment) : Prop where
  rooted : after.Rooted
  depth : after.depth = before.depth
  values : ∀ height asked, after.valueAt height asked =
    if height + 1 = before.depth ∧ asked ∈ names ∧ before.lookup asked = none then some .undefined
    else before.valueAt height asked

theorem shares_nil (env : Environment) (rooted : env.Rooted) : Shares [] env env where
  rooted := rooted
  depth := rfl
  values := fun height asked => by simp

theorem innermost_known (env : Environment) (name : String) (height : Nat) (binding : Binding)
    (inner : env.Innermost name height binding) : env.lookup name ≠ none := by
  intro missing
  have absent := (lookup_none_iff env name).mp missing height
  rw [inner.1] at absent
  cases absent

theorem values_pushed (env : Environment) (value : Value) (rooted : env.Rooted) (height : Nat) (asked : String) :
    ({ env with cells := env.cells.push value } : Environment).valueAt height asked = env.valueAt height asked := by
  refine Option.map_congr fun binding held => value_pushed env value binding fun cell same => ?_
  subst same
  exact binding_rooted env asked rooted height cell held

theorem value_share_known (env : Environment) (name : String) (rooted : env.Rooted) (known : env.lookup name ≠ none)
    (height : Nat) (asked : String) : (env.share name).2.valueAt height asked = env.valueAt height asked := by
  rcases share_cases env name with ⟨place, cell, _, shared⟩ | ⟨place, old, found, inner, shared⟩ | ⟨missing, _⟩
  · rw [shared]
  · have moved := binding_rebind { env with cells := env.cells.push old } name (.shared env.cells.size) place found
      height asked
    rw [shared]
    simp only [valueAt, value_of_rebind, moved]
    by_cases here : height = place ∧ asked = name
    · rw [if_pos here, here.1, here.2, inner.1]
      exact congrArg some (value_fresh env old)
    · rw [if_neg here]
      exact values_pushed env old rooted height asked
  · exact absurd missing known

theorem value_share_new (env : Environment) (name : String) (rooted : env.Rooted) (missing : env.lookup name = none)
    (height : Nat) (asked : String) :
    (env.share name).2.valueAt height asked =
      if height + 1 = env.depth ∧ asked = name then some .undefined else env.valueAt height asked := by
  rcases share_cases env name with ⟨place, cell, inner, _⟩ | ⟨place, old, _, inner, _⟩ | ⟨_, shared⟩
  · exact absurd missing (innermost_known env name place _ inner)
  · exact absurd missing (innermost_known env name place _ inner)
  · have made := binding_define { env with cells := env.cells.push .undefined } name (.shared env.cells.size) height
      asked
    rw [shared]
    simp only [valueAt, made]
    by_cases here : height + 1 = env.depth ∧ asked = name
    · rw [if_pos here]
      refine (congrArg (Option.map _) (if_pos here)).trans ?_
      exact congrArg some (value_fresh env .undefined)
    · rw [if_neg here]
      refine (congrArg (Option.map _) (if_neg here)).trans ?_
      exact values_pushed env .undefined rooted height asked

theorem shares_one (env : Environment) (name : String) (rooted : env.Rooted) :
    Shares [name] env (env.share name).2 where
  rooted := (share_rooted env name rooted).1
  depth := depth_share env name
  values := by
    intro height asked
    cases known : env.lookup name with
    | none =>
        rw [value_share_new env name rooted known]
        by_cases same : asked = name <;> simp [same, known]
    | some binding =>
        rw [value_share_known env name rooted (by rw [known]; exact Option.some_ne_none binding)]
        by_cases same : asked = name <;> simp [same, known]

theorem Shares.lookup {names : List String} {before after : Environment} (shares : Shares names before after)
    (asked : String) : after.lookup asked = none ↔ asked ∉ names ∧ before.lookup asked = none := by
  constructor
  · intro missing
    have absent := (lookup_none_values after asked).mp missing
    have unknown : before.lookup asked = none := by
      refine (lookup_none_values before asked).mpr fun height => ?_
      have nothing := absent height
      rw [shares.values] at nothing
      split at nothing
      · cases nothing
      · exact nothing
    refine ⟨fun member => ?_, unknown⟩
    have created := absent before.enclosing.length
    rw [shares.values, if_pos ⟨rfl, member, unknown⟩] at created
    cases created
  · rintro ⟨other, missing⟩
    refine (lookup_none_values after asked).mpr fun height => ?_
    rw [shares.values, if_neg fun created => other created.2.1]
    exact (lookup_none_values before asked).mp missing height

theorem Shares.trans {first second : List String} {a b c : Environment} (one : Shares first a b)
    (two : Shares second b c) : Shares (first ++ second) a c where
  rooted := two.rooted
  depth := two.depth.trans one.depth
  values := by
    intro height asked
    rw [two.values, one.values, one.depth]
    simp only [one.lookup, List.mem_append]
    by_cases top : height + 1 = a.depth <;> by_cases missing : a.lookup asked = none <;>
      by_cases early : asked ∈ first <;> by_cases late : asked ∈ second <;>
      simp [top, missing, early, late]

end Flowline.Environment
