import Flowline.Proofs.Execution.Cells
import Flowline.Proofs.Store.Sharing

set_option autoImplicit false

namespace Flowline

namespace Environment

def Defines (env : Environment) (height : Nat) (name : String) : Prop := env.bindingAt height name ≠ none

def Unaliased (env : Environment) (height : Nat) (name : String) : Prop :=
  ∀ cell, env.bindingAt height name = some (.shared cell) →
    ∀ other asked, env.bindingAt other asked = some (.shared cell) → other = height ∧ asked = name

theorem defines_value (env : Environment) (height : Nat) (name : String) :
    env.Defines height name ↔ env.valueAt height name ≠ none := not_congr (value_none_iff env height name).symm

theorem defines_below (env : Environment) (height : Nat) (name : String) (known : env.Defines height name) :
    height < env.depth :=
  Nat.lt_of_not_le fun deep => known (binding_deep env name height deep)

theorem defines_close (env : Environment) (count height : Nat) (low : height < (env.close count).depth)
    (name : String) : (env.close count).Defines height name ↔ env.Defines height name := by
  rw [Defines, Defines, binding_close env name count height low]

theorem defines_rebind (env : Environment) (name : String) (binding : Binding) (place : Nat) (old : Binding)
    (found : env.place? name = some (.scope place)) (held : env.bindingAt place name = some old) (height : Nat)
    (asked : String) : (env.rebind name binding).Defines height asked ↔ env.Defines height asked := by
  rw [Defines, Defines, binding_rebind env name binding place found]
  by_cases here : height = place ∧ asked = name
  · rw [if_pos here, here.1, here.2, held]
    exact iff_of_true (Option.some_ne_none binding) (Option.some_ne_none old)
  · rw [if_neg here]

theorem defines_define (env : Environment) (name : String) (binding : Binding) (height : Nat) (asked : String)
    (outer : height + 1 < env.depth) : (env.define name binding).Defines height asked ↔ env.Defines height asked := by
  have other : ¬ (height + 1 = env.depth ∧ asked = name) := fun top => Nat.ne_of_lt outer top.1
  rw [Defines, Defines, binding_define, if_neg other]

theorem defines_set (env : Environment) (name : String) (value : Value) (height : Nat) (asked : String)
    (outer : height + 1 < env.depth) : (env.set name value).Defines height asked ↔ env.Defines height asked := by
  rcases set_cases env name value with ⟨place, cell, _, set⟩ | ⟨place, old, found, inner, set⟩ | ⟨_, set⟩
  · rw [set]
    exact Iff.rfl
  · rw [set]
    exact defines_rebind env name _ place _ found inner.1 height asked
  · rw [set]
    exact defines_define env name _ height asked outer

theorem defines_share (env : Environment) (name : String) (height : Nat) (asked : String)
    (outer : height + 1 < env.depth) : (env.share name).2.Defines height asked ↔ env.Defines height asked := by
  rcases share_cases env name with ⟨place, cell, _, shared⟩ | ⟨place, old, found, inner, shared⟩ | ⟨_, shared⟩
  · rw [shared]
  · rw [shared]
    exact defines_rebind { env with cells := env.cells.push old } name _ place _ found inner.1 height asked
  · rw [shared]
    exact defines_define { env with cells := env.cells.push .undefined } name _ height asked outer

theorem defines_push (env : Environment) (scope : Scope) (height : Nat) (name : String) (low : height < env.depth) :
    (env.push scope).Defines height name ↔ env.Defines height name := by
  rw [Defines, Defines, binding_push, if_neg (Nat.ne_of_lt low)]

theorem value_of_close (env : Environment) (count : Nat) : (env.close count).valueOf = env.valueOf := by
  funext binding
  cases binding with
  | own value => rfl
  | shared cell => simp only [valueOf, close_cells]

theorem value_close (env : Environment) (count height : Nat) (low : height < (env.close count).depth) (name : String) :
    (env.close count).valueAt height name = env.valueAt height name := by
  rw [valueAt, valueAt, binding_close env name count height low, value_of_close]

theorem binding_top (env : Environment) (name : String) (binding : Binding) (height : Nat) (asked : String) :
    (env.define name binding).bindingAt height asked =
      if height = env.enclosing.length ∧ asked = name then some binding else env.bindingAt height asked := by
  have defined := env.binding_define name binding height asked
  simp only [depth, Nat.add_right_cancel_iff] at defined
  exact defined

end Environment

namespace Execution

open Environment (Innermost)

structure Fixed (lower : Nat) (known : Nat → String → Prop) (env : Environment) : Prop where
  deeper : lower < env.depth
  names : ∀ height < lower, ∀ name, env.Defines height name ↔ known height name

section Fixed

variable {lower : Nat} {known : Nat → String → Prop}

theorem fixed_leads (before after : Environment) (depth : after.depth = before.depth)
    (names : ∀ height name, height + 1 < before.depth → (after.Defines height name ↔ before.Defines height name)) :
    Leads (Fixed lower known) (fun _ _ => True) before after := by
  intro fixed
  refine ⟨⟨depth ▸ fixed.deeper, fun height low name => ?_⟩, fun _ _ => trivial⟩
  have outer : height + 1 < before.depth := Nat.lt_of_le_of_lt low fixed.deeper
  exact (names height name outer).trans (fixed.names height low name)

theorem fixed_lasting : Lasting (Fixed lower known) fun _ _ => True where
  owns := fun _ _ => trivial
  sets := fun env name value =>
    fixed_leads env _ (env.depth_set name value) fun height asked => env.defines_set name value height asked
  shares := fun env name =>
    fixed_leads env _ (env.depth_share name) fun height asked => env.defines_share name height asked
  shared := fun _ _ _ => trivial
  pushes := fun env scope fixed _ => {
    deeper := Nat.lt_succ_of_lt fixed.deeper
    names := fun height low name =>
      (env.defines_push scope height name (Nat.lt_trans low fixed.deeper)).trans (fixed.names height low name) }

theorem fixed_close (env : Environment) (count : Nat) (fixed : Fixed lower known env)
    (deep : lower < (env.close count).depth) : Fixed lower known (env.close count) where
  deeper := deep
  names := fun height low name =>
    (env.defines_close count height (Nat.lt_trans low deep) name).trans (fixed.names height low name)

end Fixed

-- A variable with a name that a scope further inside knows too, and with a value that no other variable shares.
structure Guarded (lower height : Nat) (name : String) (binding : Binding) (value : Value) (env : Environment) :
    Prop where
  rooted : env.Rooted
  covered : env.Defines lower name
  held : env.bindingAt height name = some binding
  value : env.valueOf binding = value
  alone : env.Unaliased height name

section Guarded

variable {lower height : Nat} {name : String} {binding : Binding} {value : Value} {env : Environment}

theorem Guarded.cell (guarded : Guarded lower height name binding value env) (cell : Nat)
    (shared : binding = .shared cell) : cell < env.cells.size := by
  have held := guarded.held
  rw [shared] at held
  exact Environment.binding_rooted env name guarded.rooted height cell held

theorem Guarded.apart (guarded : Guarded lower height name binding value env) (below : height < lower) (place : Nat)
    (asked : String) (other : Binding) (inner : env.Innermost asked place other) :
    ¬ (height = place ∧ name = asked) := by
  rintro ⟨rfl, rfl⟩
  exact guarded.covered (inner.2 lower below)

theorem Guarded.other_cell (guarded : Guarded lower height name binding value env) (below : height < lower)
    (place cell : Nat) (asked : String) (inner : env.Innermost asked place (.shared cell)) :
    binding ≠ .shared cell := by
  intro same
  have held := guarded.held
  rw [same] at held
  have met := guarded.alone cell held place asked inner.1
  exact guarded.apart below place asked _ inner ⟨met.1.symm, met.2.symm⟩

theorem Guarded.fresh_cell (guarded : Guarded lower height name binding value env) :
    binding ≠ .shared env.cells.size := fun same => Nat.lt_irrefl _ (guarded.cell env.cells.size same)

theorem Guarded.pushed (guarded : Guarded lower height name binding value env) (added : Value) :
    ({ env with cells := env.cells.push added } : Environment).valueOf binding = value :=
  (env.value_pushed added binding guarded.cell).trans guarded.value

theorem Guarded.known (guarded : Guarded lower height name binding value env) (asked : String)
    (missing : env.lookup asked = none) : ¬ (height = env.enclosing.length ∧ name = asked) := by
  rintro ⟨-, rfl⟩
  have unknown := (env.lookup_none_iff name).mp missing height
  rw [guarded.held] at unknown
  cases unknown

theorem Guarded.bound (guarded : Guarded lower height name binding value env) (after : Environment)
    (rooted : after.Rooted) (same : after.valueOf binding = value) (place : Nat) (asked : String) (fresh : Binding)
    (apart : ¬ (height = place ∧ name = asked)) (unlike : ∀ cell, fresh = .shared cell → binding ≠ .shared cell)
    (bindings : ∀ other sought, after.bindingAt other sought =
      if other = place ∧ sought = asked then some fresh else env.bindingAt other sought) :
    Guarded lower height name binding value after where
  rooted := rooted
  covered := by
    rw [Environment.Defines, bindings]
    split
    · exact Option.some_ne_none fresh
    · exact guarded.covered
  held := by
    rw [bindings, if_neg apart]
    exact guarded.held
  value := same
  alone := by
    intro cell held other sought found
    rw [bindings, if_neg apart] at held
    rw [bindings] at found
    split at found
    · have shared := held.symm.trans guarded.held
      cases found
      exact absurd (Option.some.inj shared).symm (unlike cell rfl)
    · exact guarded.alone cell held other sought found

theorem guarded_sets (below : height < lower) (asked : String) (given : Value)
    (guarded : Guarded lower height name binding value env) :
    Guarded lower height name binding value (env.set asked given) := by
  have rooted := env.set_rooted asked given guarded.rooted
  rcases Environment.set_cases env asked given with ⟨place, cell, inner, set⟩ | ⟨place, old, found, inner, set⟩ |
    ⟨missing, set⟩
  · rw [set] at rooted ⊢
    refine ⟨rooted, guarded.covered, guarded.held, ?_, guarded.alone⟩
    have unlike := guarded.other_cell below place cell asked inner
    have same := guarded.value
    cases binding with
    | own held => exact same
    | shared known =>
        have different : cell ≠ known := fun equal => unlike (by rw [equal])
        simp only [Environment.valueOf, Array.getD_eq_getD_getElem?] at same ⊢
        rw [Array.getElem?_setIfInBounds_ne different]
        exact same
  · rw [set] at rooted ⊢
    refine guarded.bound _ rooted ?_ place asked (.own given) (guarded.apart below place asked _ inner)
      (fun _ same => by cases same) (env.binding_rebind asked (.own given) place found)
    rw [env.value_of_rebind]
    exact guarded.value
  · rw [set] at rooted ⊢
    exact guarded.bound _ rooted guarded.value env.enclosing.length asked (.own given) (guarded.known asked missing)
      (fun _ same => by cases same) (env.binding_top asked (.own given))

theorem guarded_shares (below : height < lower) (asked : String)
    (guarded : Guarded lower height name binding value env) :
    Guarded lower height name binding value (env.share asked).2 ∧
      ∀ cell, (env.share asked).1 = .shared cell → binding ≠ .shared cell := by
  have rooted := (env.share_rooted asked guarded.rooted).1
  have fresh : ∀ cell, Binding.shared env.cells.size = .shared cell → binding ≠ .shared cell := by
    rintro cell same
    rw [← same]
    exact guarded.fresh_cell
  rcases Environment.share_cases env asked with ⟨place, known, inner, shared⟩ | ⟨place, old, found, inner, shared⟩ |
    ⟨missing, shared⟩
  · rw [shared]
    refine ⟨guarded, fun cell same => ?_⟩
    rw [← same]
    exact guarded.other_cell below place known asked inner
  · rw [shared] at rooted ⊢
    refine ⟨?_, fresh⟩
    refine guarded.bound _ rooted ?_ place asked (.shared env.cells.size) (guarded.apart below place asked _ inner)
      fresh (Environment.binding_rebind { env with cells := env.cells.push old } asked _ place found)
    rw [Environment.value_of_rebind]
    exact guarded.pushed old
  · rw [shared] at rooted ⊢
    refine ⟨?_, fresh⟩
    exact guarded.bound _ rooted (guarded.pushed .undefined) env.enclosing.length asked (.shared env.cells.size)
      (guarded.known asked missing) fresh
      (Environment.binding_top { env with cells := env.cells.push .undefined } asked _)

theorem guarded_push (scope : Scope) (below : height < lower) (rooted : Scope.Rooted env.cells.size scope)
    (unlike : ∀ asked other, scope.get? asked = some other → ∀ cell, other = .shared cell → binding ≠ .shared cell)
    (guarded : Guarded lower height name binding value env) :
    Guarded lower height name binding value (env.push scope) where
  rooted := env.push_rooted scope guarded.rooted rooted
  covered := (env.defines_push scope lower name (env.defines_below lower name guarded.covered)).mpr guarded.covered
  held := by
    have low := Nat.lt_trans below (env.defines_below lower name guarded.covered)
    rw [env.binding_push, if_neg (Nat.ne_of_lt low)]
    exact guarded.held
  value := guarded.value
  alone := by
    have low := Nat.lt_trans below (env.defines_below lower name guarded.covered)
    intro cell held other asked found
    rw [env.binding_push, if_neg (Nat.ne_of_lt low)] at held
    rw [env.binding_push] at found
    split at found
    · have shared := held.symm.trans guarded.held
      exact absurd (Option.some.inj shared).symm (unlike asked (.shared cell) found cell rfl)
    · exact guarded.alone cell held other asked found

def Unlike (binding : Binding) (env : Environment) (other : Binding) : Prop :=
  other.Rooted env.cells.size ∧ ∀ cell, other = .shared cell → binding ≠ .shared cell

theorem guarded_lasting (below : height < lower) :
    Lasting (Guarded lower height name binding value) (Unlike binding) where
  owns := fun env value => ⟨Environment.own_rooted value _, nofun⟩
  sets := fun env asked given guarded => by
    refine ⟨guarded_sets below asked given guarded, fun other fit => ?_⟩
    rw [Unlike, env.set_cells]
    exact fit
  shares := fun env asked guarded => by
    refine ⟨(guarded_shares below asked guarded).1, fun other fit => ⟨fun cell same => ?_, fit.2⟩⟩
    exact Nat.lt_of_lt_of_le (fit.1 cell same) (env.share_cells asked)
  shared := fun env asked guarded =>
    ⟨(env.share_rooted asked guarded.rooted).2, (guarded_shares below asked guarded).2⟩
  pushes := fun env scope guarded fit =>
    guarded_push scope below (fun asked cell found => (fit asked _ found).1 cell rfl)
      (fun asked other found => (fit asked other found).2) guarded

theorem guarded_close (below : height < lower) (count : Nat) (guarded : Guarded lower height name binding value env)
    (deep : lower < (env.close count).depth) : Guarded lower height name binding value (env.close count) where
  rooted := env.close_rooted count guarded.rooted
  covered := (env.defines_close count lower deep name).mpr guarded.covered
  held := (env.binding_close name count height (Nat.lt_trans below deep)).trans guarded.held
  value := (congrFun (env.value_of_close count) binding).trans guarded.value
  alone := by
    intro cell held other asked found
    rw [env.binding_close name count height (Nat.lt_trans below deep)] at held
    have known : (env.close count).Defines other asked := fun missing => nomatch found.symm.trans missing
    rw [env.binding_close asked count other ((env.close count).defines_below other asked known)] at found
    exact guarded.alone cell held other asked found

theorem Guarded.valued (guarded : Guarded lower height name binding value env) :
    env.valueAt height name = some value := by
  rw [Environment.valueAt, guarded.held, Option.map_some, guarded.value]

end Guarded

end Execution

end Flowline
