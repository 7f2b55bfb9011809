import Flowline.Proofs.Store.Places

set_option autoImplicit false

namespace Flowline

def bindingIn (height : Nat) (name : String) : List Scope → Option Binding
  | [] => none
  | scope :: rest => if height = rest.length then scope.get? name else bindingIn height name rest

section Lists

variable (name : String)

theorem binding_high (height : Nat) (scopes : List Scope) (high : scopes.length ≤ height) :
    bindingIn height name scopes = none := by
  induction scopes with
  | nil => rfl
  | cons scope rest ih =>
      have above : ¬ height = rest.length := Nat.ne_of_gt high
      rw [bindingIn, if_neg above]
      exact ih (Nat.le_of_succ_le high)

theorem binding_below (scope : Scope) (rest : List Scope) (height : Nat) (low : height < rest.length) :
    bindingIn height name (scope :: rest) = bindingIn height name rest := by
  rw [bindingIn, if_neg (Nat.ne_of_lt low)]

theorem binding_found (scopes : List Scope) (binding : Binding)
    (found : scopes.findSome? (fun scope => scope.get? name) = some binding) :
    ∃ height, bindingIn height name scopes = some binding ∧
      ∀ higher, height < higher → bindingIn higher name scopes = none := by
  induction scopes with
  | nil => cases found
  | cons scope rest ih =>
      rw [List.findSome?_cons] at found
      cases known : scope.get? name with
      | some held =>
          rw [known] at found
          cases found
          refine ⟨rest.length, by rw [bindingIn, if_pos rfl, known], fun higher above => ?_⟩
          exact binding_high name higher (scope :: rest) above
      | none =>
          rw [known] at found
          obtain ⟨height, held, above⟩ := ih found
          refine ⟨height, ?_, fun higher further => ?_⟩
          · rw [bindingIn]
            by_cases top : height = rest.length
            · rw [top, binding_high name rest.length rest (Nat.le_refl _)] at held
              cases held
            · rw [if_neg top]
              exact held
          · rw [bindingIn]
            by_cases top : higher = rest.length
            · rw [if_pos top]
              exact known
            · rw [if_neg top]
              exact above higher further

theorem binding_missing (scopes : List Scope) (missing : scopes.findSome? (fun scope => scope.get? name) = none)
    (height : Nat) : bindingIn height name scopes = none := by
  induction scopes with
  | nil => rfl
  | cons scope rest ih =>
      rw [List.findSome?_cons] at missing
      cases known : scope.get? name with
      | some held =>
          rw [known] at missing
          cases missing
      | none =>
          rw [known] at missing
          rw [bindingIn, known, ih missing]
          split <;> rfl

theorem binding_placed (scopes : List Scope) (height : Nat)
    (found : Environment.placeIn name scopes = some (.scope height)) :
    ∃ value, scopes.findSome? (fun scope => scope.get? name) = some (.own value) ∧
      bindingIn height name scopes = some (.own value) ∧
      ∀ higher, height < higher → bindingIn higher name scopes = none := by
  induction scopes with
  | nil => cases found
  | cons scope rest ih =>
      rw [Environment.placeIn] at found
      rw [List.findSome?_cons]
      split at found
      · cases found
      · rename_i value known
        cases found
        rw [known, bindingIn, if_pos rfl, known]
        exact ⟨value, rfl, rfl, fun higher above => binding_high name higher (scope :: rest) above⟩
      · rename_i unknown
        rw [unknown, binding_below name scope rest height (Environment.place_height name rest height found)]
        obtain ⟨value, known, held, above⟩ := ih found
        refine ⟨value, known, held, fun higher further => ?_⟩
        rw [bindingIn, unknown, above higher further]
        split <;> rfl

variable (binding : Binding)

theorem rebound_at (scope : Scope) (rest : List Scope) (height : Nat)
    (found : Environment.placeIn name (scope :: rest) = some (.scope height)) :
    (height = rest.length ∧ (∃ value, scope.get? name = some (.own value)) ∧
        Environment.rebindFirst name binding (scope :: rest) = scope.insert name binding :: rest) ∨
      (height < rest.length ∧ scope.get? name = none ∧ Environment.placeIn name rest = some (.scope height) ∧
        Environment.rebindFirst name binding (scope :: rest) =
          scope :: Environment.rebindFirst name binding rest) := by
  rw [Environment.placeIn] at found
  simp only [Environment.rebindFirst]
  cases known : scope.get? name with
  | none =>
      rw [known] at found
      have absent : ¬ scope.contains name = true := by simp [Table.contains, known]
      rw [if_neg absent]
      exact Or.inr ⟨Environment.place_height name rest height found, rfl, found, rfl⟩
  | some held =>
      have present : scope.contains name = true := by simp [Table.contains, known]
      rw [known] at found
      rw [if_pos present]
      cases held with
      | own value =>
          cases found
          exact Or.inl ⟨rfl, ⟨value, rfl⟩, rfl⟩
      | shared cell => cases found

theorem binding_inserted (scope : Scope) (rest : List Scope) (other : Nat) (asked : String) :
    bindingIn other asked (scope.insert name binding :: rest) =
      if other = rest.length ∧ asked = name then some binding else bindingIn other asked (scope :: rest) := by
  simp only [bindingIn]
  by_cases here : other = rest.length
  · by_cases same : asked = name
    · simp [here, same, Table.get?_insert_self]
    · simp [here, same, Table.get?_insert_of_ne scope name asked binding same]
  · simp [here]

theorem binding_rebound (scopes : List Scope) (height : Nat)
    (found : Environment.placeIn name scopes = some (.scope height)) (other : Nat) (asked : String) :
    bindingIn other asked (Environment.rebindFirst name binding scopes) =
      if other = height ∧ asked = name then some binding else bindingIn other asked scopes := by
  induction scopes with
  | nil => cases found
  | cons scope rest ih =>
      rcases rebound_at name binding scope rest height found with ⟨rfl, _, bound⟩ | ⟨below, _, later, bound⟩
      · rw [bound]
        exact binding_inserted name binding scope rest other asked
      · rw [bound]
        simp only [bindingIn, Environment.depth_rebind_first, ih later]
        by_cases here : other = rest.length
        · have apart : ¬ rest.length = height := Nat.ne_of_gt below
          simp [here, apart]
        · simp [here]

end Lists

namespace Environment

def bindingAt (env : Environment) (height : Nat) (name : String) : Option Binding := bindingIn height name env.scopes

def valueAt (env : Environment) (height : Nat) (name : String) : Option Value :=
  (env.bindingAt height name).map env.valueOf

section Operations

variable (env : Environment) (name : String)

theorem binding_define (binding : Binding) (height : Nat) (asked : String) :
    (env.define name binding).bindingAt height asked =
      if height + 1 = env.depth ∧ asked = name then some binding else env.bindingAt height asked := by
  have inserted := binding_inserted name binding env.innermost env.enclosing height asked
  simp only [depth, Nat.add_right_cancel_iff]
  exact inserted

theorem binding_rebind (binding : Binding) (place : Nat) (found : env.place? name = some (.scope place)) (height : Nat)
    (asked : String) :
    (env.rebind name binding).bindingAt height asked =
      if height = place ∧ asked = name then some binding else env.bindingAt height asked := by
  rw [bindingAt, scopes_rebind]
  exact binding_rebound name binding env.scopes place found height asked

theorem binding_push (scope : Scope) (height : Nat) (asked : String) :
    (env.push scope).bindingAt height asked =
      if height = env.depth then scope.get? asked else env.bindingAt height asked := rfl

theorem binding_deep (height : Nat) (deep : env.depth ≤ height) : env.bindingAt height name = none :=
  binding_high name height env.scopes deep

theorem binding_pop (height : Nat) (low : height < env.pop.2.depth) :
    env.pop.2.bindingAt height name = env.bindingAt height name := by
  rcases env with ⟨innermost, enclosing, cells⟩
  cases enclosing with
  | nil => rfl
  | cons next rest => exact (binding_below name innermost (next :: rest) height low).symm

theorem binding_close (count height : Nat) (low : height < (env.close count).depth) :
    (env.close count).bindingAt height name = env.bindingAt height name := by
  induction count generalizing env with
  | zero => rfl
  | succ count ih =>
      have shallower := env.pop.2.depth_close_le count
      rw [close] at low ⊢
      rw [ih env.pop.2 low, binding_pop env name height (by omega)]

theorem binding_rooted (rooted : env.Rooted) (height cell : Nat)
    (held : env.bindingAt height name = some (.shared cell)) : cell < env.cells.size := by
  have inside : ∀ scopes : List Scope, bindingIn height name scopes = some (.shared cell) →
      ∃ scope ∈ scopes, scope.get? name = some (.shared cell) := by
    intro scopes held
    induction scopes with
    | nil => cases held
    | cons scope rest ih =>
        rw [bindingIn] at held
        by_cases top : height = rest.length
        · rw [if_pos top] at held
          exact ⟨scope, List.mem_cons_self, held⟩
        · rw [if_neg top] at held
          obtain ⟨other, member, found⟩ := ih held
          exact ⟨other, List.mem_cons_of_mem _ member, found⟩
  obtain ⟨scope, member, found⟩ := inside env.scopes held
  exact rooted scope member name cell found

def Innermost (height : Nat) (binding : Binding) : Prop :=
  env.bindingAt height name = some binding ∧ ∀ higher, height < higher → env.bindingAt higher name = none

theorem lookup_innermost (binding : Binding) (found : env.lookup name = some binding) :
    ∃ height, env.Innermost name height binding := binding_found name env.scopes binding found

theorem lookup_none_iff : env.lookup name = none ↔ ∀ height, env.bindingAt height name = none := by
  constructor
  · exact binding_missing name env.scopes
  · intro missing
    cases found : env.lookup name with
    | none => rfl
    | some binding =>
        obtain ⟨height, held, _⟩ := lookup_innermost env name binding found
        rw [missing height] at held
        cases held

theorem place_innermost (height : Nat) (found : env.place? name = some (.scope height)) :
    ∃ value, env.lookup name = some (.own value) ∧ env.Innermost name height (.own value) :=
  binding_placed name env.scopes height found

theorem set_cases (value : Value) :
    (∃ height cell, env.Innermost name height (.shared cell) ∧
      env.set name value = { env with cells := env.cells.setIfInBounds cell value }) ∨
    (∃ height old, env.place? name = some (.scope height) ∧ env.Innermost name height (.own old) ∧
      env.set name value = env.rebind name (.own value)) ∨
    (env.lookup name = none ∧ env.set name value = env.define name (.own value)) := by
  cases found : env.place? name with
  | none => exact Or.inr (Or.inr ⟨(lookup_none_of_place env name).mp found, set_unknown env name value found⟩)
  | some place =>
      cases place with
      | cell ref =>
          obtain ⟨height, inner⟩ := lookup_innermost env name _ ((lookup_cell_of_place env name ref).mp found)
          exact Or.inl ⟨height, ref, inner, set_cell env name value ref found⟩
      | scope height =>
          obtain ⟨old, _, inner⟩ := place_innermost env name height found
          exact Or.inr (Or.inl ⟨height, old, rfl, inner, set_scope env name value height found⟩)

theorem share_cases :
    (∃ height cell, env.Innermost name height (.shared cell) ∧ env.share name = (.shared cell, env)) ∨
    (∃ height old, env.place? name = some (.scope height) ∧ env.Innermost name height (.own old) ∧
      env.share name = (.shared env.cells.size,
        ({ env with cells := env.cells.push old } : Environment).rebind name (.shared env.cells.size))) ∨
    (env.lookup name = none ∧ env.share name = (.shared env.cells.size,
        ({ env with cells := env.cells.push .undefined } : Environment).define name (.shared env.cells.size))) := by
  cases found : env.place? name with
  | none =>
      have unknown := (lookup_none_of_place env name).mp found
      exact Or.inr (Or.inr ⟨unknown, by simp only [share, unknown]⟩)
  | some place =>
      cases place with
      | cell ref =>
          have known := (lookup_cell_of_place env name ref).mp found
          obtain ⟨height, inner⟩ := lookup_innermost env name _ known
          exact Or.inl ⟨height, ref, inner, by simp only [share, known]⟩
      | scope height =>
          obtain ⟨old, known, inner⟩ := place_innermost env name height found
          exact Or.inr (Or.inl ⟨height, old, rfl, inner, by simp only [share, known]⟩)

end Operations

end Environment

end Flowline
