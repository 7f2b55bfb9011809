import Flowline.Proofs.Store.Heights
import Flowline.Proofs.Store.Memory

set_option autoImplicit false

namespace Flowline

-- Where a value can lie: in a cell, or under a name in a scope, counted from the outermost one.
inductive Slot where
  | cell (ref : Nat)
  | own (height : Nat) (name : String)
deriving DecidableEq

def Place.slot (name : String) : Place → Slot
  | .cell ref => .cell ref
  | .scope height => .own height name

namespace Binding

def slot (height : Nat) (name : String) : Binding → Slot
  | .own _ => .own height name
  | .shared cell => .cell cell

def own? : Binding → Option Value
  | .own value => some value
  | .shared _ => none

end Binding

def namesIn (address : Slot → Nat) : List Scope → List Names
  | [] => []
  | scope :: rest =>
      (fun name => (scope.get? name).map fun binding => address (binding.slot rest.length name)) ::
        namesIn address rest

namespace Environment

def content (env : Environment) : Slot → Option Value
  | .cell ref => env.cells[ref]?
  | .own height name => (env.bindingAt height name).bind Binding.own?

def home (env : Environment) (name : String) : Slot :=
  match env.place? name with
  | some place => place.slot name
  | none => .own env.enclosing.length name

end Environment

-- Every place in use has a location of its own, which holds the same value.
structure Refines (env : Environment) (memory : Memory) (address : Slot → Nat) : Prop where
  names : memory.scopes = namesIn address env.scopes
  values : ∀ slot value, env.content slot = some value → memory.values[address slot]? = some value
  apart : ∀ one other, env.content one ≠ none → env.content other ≠ none → address one = address other → one = other
  rooted : env.Rooted

section Lists

variable (name : String)

theorem locate_names (address : Slot → Nat) (scopes : List Scope) :
    (namesIn address scopes).findSome? (fun names => names name) =
      (Environment.placeIn name scopes).map fun place => address (place.slot name) := by
  induction scopes with
  | nil => rfl
  | cons scope rest ih =>
      simp only [namesIn, Environment.placeIn, List.findSome?_cons]
      cases found : scope.get? name with
      | none => exact ih
      | some binding => cases binding <;> rfl

theorem names_congr (address other : Slot → Nat) (bound : Nat) (scopes : List Scope)
    (rooted : ∀ scope ∈ scopes, Scope.Rooted bound scope)
    (cells : ∀ cell < bound, address (.cell cell) = other (.cell cell))
    (owns : ∀ height < scopes.length, ∀ name, address (.own height name) = other (.own height name)) :
    namesIn address scopes = namesIn other scopes := by
  induction scopes with
  | nil => rfl
  | cons scope rest ih =>
      have behind := ih (fun scope member => rooted scope (List.mem_cons_of_mem _ member))
        fun height below => owns height (Nat.lt_succ_of_lt below)
      simp only [namesIn, behind, List.cons.injEq, and_true]
      funext asked
      cases found : scope.get? asked with
      | none => rfl
      | some binding =>
          cases binding with
          | own value => exact congrArg some (owns rest.length (Nat.lt_succ_self _) asked)
          | shared cell => exact congrArg some (cells cell (rooted scope List.mem_cons_self asked cell found))

variable (binding : Binding)

theorem names_inserted (address : Slot → Nat) (scope : Scope) (rest : List Scope) :
    namesIn address (scope.insert name binding :: rest) =
      Function.update (fun asked => (scope.get? asked).map fun held => address (held.slot rest.length asked)) name
        (some (address (binding.slot rest.length name))) :: namesIn address rest := by
  simp only [namesIn, List.cons.injEq, and_true]
  funext asked
  by_cases same : asked = name
  · rw [same, Table.get?_insert_self, Function.update_self]
    rfl
  · rw [Table.get?_insert_of_ne scope name asked binding same, Function.update_of_ne same]

theorem names_rebound (address : Slot → Nat) (scopes : List Scope) (height : Nat)
    (found : Environment.placeIn name scopes = some (.scope height))
    (same : address (binding.slot height name) = address (.own height name)) :
    namesIn address (Environment.rebindFirst name binding scopes) = namesIn address scopes := by
  induction scopes with
  | nil => cases found
  | cons scope rest ih =>
      rcases rebound_at name binding scope rest height found with
        ⟨rfl, ⟨value, known⟩, bound⟩ | ⟨below, _, later, bound⟩
      · rw [bound, names_inserted, same]
        simp only [namesIn, List.cons.injEq, and_true]
        refine Function.update_eq_self_iff.mpr ?_
        rw [known]
        rfl
      · rw [bound]
        simp only [namesIn, Environment.depth_rebind_first, ih later]

end Lists

section Refines

variable {env : Environment} {memory : Memory} {address : Slot → Nat}

theorem content_empty (slot : Slot) : Environment.empty.content slot = none := by
  cases slot with
  | cell ref => rfl
  | own height name =>
      simp only [Environment.content, Environment.bindingAt, Environment.scopes, Environment.empty, bindingIn]
      split <;> rfl

theorem refines_empty (address : Slot → Nat) : Refines .empty .empty address where
  names := rfl
  values := fun slot value held => by
    rw [content_empty] at held
    cases held
  apart := fun one other live _ _ => absurd (content_empty one) live
  rooted := Environment.empty_env_rooted

theorem refines_locate (refines : Refines env memory address) (name : String) :
    memory.locate name = (env.place? name).map fun place => address (place.slot name) := by
  rw [Memory.locate, refines.names, locate_names]
  rfl

theorem place_content (rooted : env.Rooted) (name : String) (place : Place) (found : env.place? name = some place) :
    ∃ value, env.get? name = some value ∧ env.content (place.slot name) = some value := by
  cases place with
  | cell ref =>
      have known := (Environment.lookup_cell_of_place env name ref).mp found
      have below := Environment.lookup_rooted env rooted name ref known
      refine ⟨env.cells[ref], ?_, Array.getElem?_eq_getElem below⟩
      simp [Environment.get?, known, Environment.valueOf, below]
  | scope height =>
      obtain ⟨value, known, held, _⟩ := Environment.place_innermost env name height found
      refine ⟨value, by simp [Environment.get?, known, Environment.valueOf], ?_⟩
      simp [Place.slot, Environment.content, held, Binding.own?]

theorem refines_get (refines : Refines env memory address) (name : String) : env.get? name = memory.get? name := by
  rw [Memory.get?, refines_locate refines]
  cases found : env.place? name with
  | none =>
      have unknown := (Environment.lookup_none_of_place env name).mp found
      rw [Environment.get?, unknown]
      rfl
  | some place =>
      obtain ⟨value, seen, held⟩ := place_content refines.rooted name place found
      rw [seen]
      exact (refines.values _ value held).symm

theorem refines_parts (refines : Refines env memory address) :
    (memory.innermost = fun name =>
      (env.innermost.get? name).map fun binding => address (binding.slot env.enclosing.length name)) ∧
      memory.enclosing = namesIn address env.enclosing := List.cons.inj refines.names

theorem refines_below (refines : Refines env memory address) (slot : Slot) (live : env.content slot ≠ none) :
    address slot < memory.values.size := by
  obtain ⟨value, held⟩ := Option.ne_none_iff_exists'.mp live
  exact (Array.getElem?_eq_some_iff.mp (refines.values slot value held)).1

theorem refines_less (refines : Refines env memory address) (after : Environment) (smaller : Memory)
    (same : smaller.values = memory.values) (names : smaller.scopes = namesIn address after.scopes)
    (less : ∀ slot value, after.content slot = some value → env.content slot = some value) (rooted : after.Rooted) :
    Refines after smaller address where
  names := names
  values := fun slot value held => by
    rw [same]
    exact refines.values slot value (less slot value held)
  apart := by
    have live : ∀ slot, after.content slot ≠ none → env.content slot ≠ none := by
      intro slot held
      obtain ⟨value, held⟩ := Option.ne_none_iff_exists'.mp held
      rw [less slot value held]
      exact Option.some_ne_none value
    exact fun one other first second => refines.apart one other (live one first) (live other second)
  rooted := rooted

theorem refines_more (refines : Refines env memory address) (new : Slot) (value : Value) (after : Environment)
    (larger : Memory) (grown : larger.values = memory.values.push value)
    (names : larger.scopes = namesIn (Function.update address new memory.values.size) after.scopes)
    (content : ∀ slot, after.content slot = if slot = new then some value else env.content slot)
    (rooted : after.Rooted) : Refines after larger (Function.update address new memory.values.size) where
  names := names
  values := by
    intro slot found held
    rw [content slot] at held
    rw [grown]
    by_cases same : slot = new
    · rw [if_pos same] at held
      cases held
      rw [same, Function.update_self]
      exact Array.getElem?_push_size
    · rw [if_neg same] at held
      have before := refines.values slot found held
      have below := (Array.getElem?_eq_some_iff.mp before).1
      rw [Function.update_of_ne same, Array.getElem?_push_lt below, ← before, Array.getElem?_eq_getElem below]
  apart := by
    intro one other first second level
    rw [content one] at first
    rw [content other] at second
    by_cases left : one = new
    · by_cases right : other = new
      · rw [left, right]
      · rw [if_neg right] at second
        rw [left, Function.update_self, Function.update_of_ne right] at level
        exact absurd (refines_below refines other second) (by omega)
    · rw [if_neg left] at first
      by_cases right : other = new
      · rw [right, Function.update_self, Function.update_of_ne left] at level
        exact absurd (refines_below refines one first) (by omega)
      · rw [if_neg right] at second
        rw [Function.update_of_ne left, Function.update_of_ne right] at level
        exact refines.apart one other first second level
  rooted := rooted

theorem refines_written (refines : Refines env memory address) (target : Slot) (value : Value) (after : Environment)
    (live : env.content target ≠ none) (names : namesIn address after.scopes = namesIn address env.scopes)
    (content : ∀ slot, after.content slot = if slot = target then some value else env.content slot)
    (rooted : after.Rooted) :
    Refines after { memory with values := memory.values.setIfInBounds (address target) value } address where
  names := refines.names.trans names.symm
  values := by
    intro slot found held
    rw [content slot] at held
    by_cases same : slot = target
    · rw [if_pos same] at held
      cases held
      rw [same]
      exact Array.getElem?_setIfInBounds_self_of_lt (refines_below refines target live)
    · rw [if_neg same] at held
      have different : address target ≠ address slot := fun level =>
        same (refines.apart target slot live (by rw [held]; exact Option.some_ne_none _) level).symm
      change (memory.values.setIfInBounds (address target) value)[address slot]? = _
      rw [Array.getElem?_setIfInBounds_ne different]
      exact refines.values slot found held
  apart := by
    have before : ∀ slot, after.content slot ≠ none → env.content slot ≠ none := by
      intro slot held
      rw [content slot] at held
      by_cases same : slot = target
      · rw [same]
        exact live
      · rw [if_neg same] at held
        exact held
    exact fun one other first second => refines.apart one other (before one first) (before other second)
  rooted := rooted

theorem content_define (env : Environment) (name : String) (binding : Binding) (slot : Slot) :
    (env.define name binding).content slot =
      if slot = .own env.enclosing.length name then binding.own? else env.content slot := by
  cases slot with
  | cell ref => rfl
  | own height asked =>
      simp only [Environment.content, Environment.binding_define, Environment.depth, Nat.add_right_cancel_iff,
        Slot.own.injEq]
      split <;> rfl

theorem names_define (address : Slot → Nat) (env : Environment) (name : String) (binding : Binding) :
    namesIn address (env.define name binding).scopes =
      Function.update (fun asked =>
        (env.innermost.get? asked).map fun held => address (held.slot env.enclosing.length asked)) name
        (some (address (binding.slot env.enclosing.length name))) :: namesIn address env.enclosing :=
  names_inserted name binding address env.innermost env.enclosing

theorem refines_defined (refines : Refines env memory address) (name : String) (value : Value) :
    Refines (env.define name (.own value)) (memory.define name value)
      (Function.update address (.own env.enclosing.length name) memory.values.size) := by
  refine refines_more refines _ value _ _ rfl ?_ (content_define env name (.own value))
    (Environment.define_rooted env name _ refines.rooted (Environment.own_rooted value _))
  obtain ⟨innermost, enclosing⟩ := refines_parts refines
  have outer : namesIn (Function.update address (.own env.enclosing.length name) memory.values.size) env.enclosing =
      namesIn address env.enclosing := by
    refine names_congr _ _ env.cells.size env.enclosing
      (fun scope member => refines.rooted scope (List.mem_cons_of_mem _ member)) (fun cell _ => by simp) ?_
    intro height below asked
    have lower : height ≠ env.enclosing.length := Nat.ne_of_lt below
    simp [lower]
  rw [names_define, outer, ← enclosing]
  simp only [Memory.scopes, Memory.define, Memory.bind, Memory.allocate, List.cons.injEq, and_true, innermost]
  funext asked
  by_cases same : asked = name
  · rw [same, Function.update_self, Function.update_self, Binding.slot, Function.update_self]
  · rw [Function.update_of_ne same, Function.update_of_ne same]
    cases env.innermost.get? asked with
    | none => rfl
    | some binding => cases binding <;> simp [Binding.slot, same]

theorem refines_linked (refines : Refines env memory address) (name : String) (cell : Nat)
    (below : cell < env.cells.size) :
    Refines (env.define name (.shared cell)) (memory.bind name (address (.cell cell))) address := by
  refine refines_less refines _ _ rfl ?_ ?_
    (Environment.define_rooted env name _ refines.rooted fun other same => by cases same; exact below)
  · obtain ⟨innermost, enclosing⟩ := refines_parts refines
    rw [names_define, ← enclosing, ← innermost]
    rfl
  · intro slot value held
    rw [content_define] at held
    by_cases same : slot = .own env.enclosing.length name
    · rw [if_pos same] at held
      cases held
    · rw [if_neg same] at held
      exact held

theorem content_celled (env : Environment) (value : Value) (slot : Slot) :
    ({ env with cells := env.cells.push value } : Environment).content slot =
      if slot = .cell env.cells.size then some value else env.content slot := by
  cases slot with
  | cell ref =>
      simp only [Environment.content, Slot.cell.injEq]
      exact Array.getElem?_push
  | own height name => rfl

theorem content_rebind (env : Environment) (name : String) (binding : Binding) (height : Nat)
    (found : env.place? name = some (.scope height)) (slot : Slot) :
    (env.rebind name binding).content slot =
      if slot = .own height name then binding.own? else env.content slot := by
  cases slot with
  | cell ref =>
      simp only [Environment.content, Environment.cells_rebind]
      rfl
  | own other asked =>
      simp only [Environment.content, Environment.binding_rebind env name binding height found, Slot.own.injEq]
      split <;> rfl

theorem names_celled (rooted : env.Rooted) (location : Nat) :
    namesIn (Function.update address (.cell env.cells.size) location) env.scopes = namesIn address env.scopes := by
  refine names_congr _ _ env.cells.size env.scopes rooted (fun cell below => ?_) fun _ _ _ => by simp
  have older : cell ≠ env.cells.size := Nat.ne_of_lt below
  simp [older]

theorem refines_celled (refines : Refines env memory address) (value : Value) :
    Refines { env with cells := env.cells.push value } (memory.allocate value).2
      (Function.update address (.cell env.cells.size) memory.values.size) :=
  refines_more refines _ value _ _ rfl (refines.names.trans (names_celled refines.rooted _).symm)
    (content_celled env value) (Environment.pushed_rooted env value refines.rooted)

theorem refines_moved (refines : Refines env memory address) (old new : Slot) (value : Value) (after : Environment)
    (held : env.content old = some value)
    (names : memory.scopes = namesIn (Function.update address new (address old)) after.scopes)
    (content : ∀ slot, after.content slot =
      if slot = old then none else if slot = new then some value else env.content slot)
    (rooted : after.Rooted) : Refines after memory (Function.update address new (address old)) := by
  have alive : env.content old ≠ none := by simp [held]
  have elsewhere : ∀ slot, after.content slot ≠ none → slot ≠ new →
      env.content slot = after.content slot ∧ address slot ≠ address old := by
    intro slot live apart
    rw [content slot] at live ⊢
    by_cases same : slot = old
    · exact absurd (if_pos same) live
    · rw [if_neg same, if_neg apart] at live ⊢
      exact ⟨rfl, fun level => same (refines.apart slot old live alive level)⟩
  exact {
    names := names
    values := by
      intro slot found seen
      by_cases same : slot = new
      · rw [content slot] at seen
        by_cases gone : slot = old
        · rw [if_pos gone] at seen
          cases seen
        · rw [if_neg gone, if_pos same] at seen
          rw [same, Function.update_self, ← seen]
          exact refines.values old value held
      · obtain ⟨before, _⟩ := elsewhere slot (by simp [seen]) same
        rw [Function.update_of_ne same]
        exact refines.values slot found (before.trans seen)
    apart := by
      intro one other first second level
      by_cases left : one = new
      · by_cases right : other = new
        · rw [left, right]
        · rw [left, Function.update_self, Function.update_of_ne right] at level
          exact absurd level.symm (elsewhere other second right).2
      · by_cases right : other = new
        · rw [right, Function.update_self, Function.update_of_ne left] at level
          exact absurd level (elsewhere one first left).2
        · rw [Function.update_of_ne left, Function.update_of_ne right] at level
          rw [← (elsewhere one first left).1] at first
          rw [← (elsewhere other second right).1] at second
          exact refines.apart one other first second level
    rooted := rooted }

theorem refines_first_shared (refines : Refines env memory address) (name : String) (height : Nat) (value : Value)
    (found : env.place? name = some (.scope height)) (held : env.content (.own height name) = some value) :
    Refines (({ env with cells := env.cells.push value } : Environment).rebind name (.shared env.cells.size)) memory
      (Function.update address (.cell env.cells.size) (address (.own height name))) := by
  refine refines_moved refines (.own height name) (.cell env.cells.size) value _ held ?_ (fun slot => ?_)
    (Environment.rebind_rooted _ name _ (Environment.pushed_rooted env value refines.rooted)
      (Environment.fresh_rooted env value))
  · have names := names_rebound name (.shared env.cells.size)
      (Function.update address (.cell env.cells.size) (address (.own height name))) env.scopes height found
      (by simp [Binding.slot])
    rw [Environment.scopes_rebind]
    exact (refines.names.trans (names_celled refines.rooted _).symm).trans names.symm
  · have placed : ({ env with cells := env.cells.push value } : Environment).place? name = some (.scope height) := found
    rw [content_rebind _ name _ height placed, content_celled]
    rfl

theorem content_set (env : Environment) (rooted : env.Rooted) (name : String) (value : Value) (slot : Slot) :
    (env.set name value).content slot = if slot = env.home name then some value else env.content slot := by
  unfold Environment.home
  cases found : env.place? name with
  | none =>
      rw [Environment.set_unknown env name value found]
      exact content_define env name (.own value) slot
  | some place =>
      cases place with
      | cell ref =>
          have known := (Environment.lookup_cell_of_place env name ref).mp found
          have below := Environment.lookup_rooted env rooted name ref known
          rw [Environment.set_cell env name value ref found]
          cases slot with
          | cell other =>
              simp only [Place.slot, Environment.content, Slot.cell.injEq]
              by_cases same : other = ref
              · simp [same, below]
              · rw [if_neg same, Array.getElem?_setIfInBounds_ne fun level => same level.symm]
          | own height asked =>
              simp only [Place.slot, reduceCtorEq, if_false]
              rfl
      | scope height =>
          rw [Environment.set_scope env name value height found]
          exact content_rebind env name _ height found slot

theorem refines_set (refines : Refines env memory address) (name : String) (value : Value) :
    ∃ larger, Refines (env.set name value) (memory.set name value) larger ∧
      ∀ cell, larger (.cell cell) = address (.cell cell) := by
  have located := refines_locate refines name
  cases found : env.place? name with
  | none =>
      rw [found] at located
      rw [Environment.set_unknown env name value found]
      simp only [Memory.set, located, Option.map_none]
      exact ⟨_, refines_defined refines name value, fun cell => by simp⟩
  | some place =>
      rw [found] at located
      obtain ⟨old, _, held⟩ := place_content refines.rooted name place found
      have live : env.content (place.slot name) ≠ none := by simp [held]
      have rooted := Environment.set_rooted env name value refines.rooted
      have content := content_set env refines.rooted name value
      simp only [Environment.home, found] at content
      simp only [Memory.set, located, Option.map_some]
      refine ⟨address, refines_written refines (place.slot name) value _ live ?_ content rooted, fun _ => rfl⟩
      cases place with
      | cell ref =>
          rw [Environment.set_cell env name value ref found]
          rfl
      | scope height =>
          rw [Environment.set_scope env name value height found, Environment.scopes_rebind]
          exact names_rebound name _ address env.scopes height found rfl

theorem refines_share (refines : Refines env memory address) (name : String) :
    ∃ larger cell, Refines (env.share name).2 (memory.share name).2 larger ∧
      (env.share name).1 = .shared cell ∧ (memory.share name).1 = larger (.cell cell) ∧
      cell < (env.share name).2.cells.size ∧ ∀ cell < env.cells.size, larger (.cell cell) = address (.cell cell) := by
  have located := refines_locate refines name
  have older : ∀ (location cell : Nat), cell < env.cells.size →
      Function.update address (.cell env.cells.size) location (.cell cell) = address (.cell cell) := by
    intro location cell below
    have apart : cell ≠ env.cells.size := Nat.ne_of_lt below
    simp [apart]
  cases found : env.place? name with
  | none =>
      have unknown := (Environment.lookup_none_of_place env name).mp found
      have linked := refines_linked (refines_celled refines .undefined) name env.cells.size (by simp)
      rw [Function.update_self] at linked
      rw [found] at located
      simp only [Environment.share, unknown, Memory.share, located, Option.map_none]
      refine ⟨_, env.cells.size, linked, rfl, ?_, ?_, older _⟩
      · rw [Function.update_self]
      · simp [Environment.define]
  | some place =>
      rw [found] at located
      cases place with
      | cell ref =>
          have known := (Environment.lookup_cell_of_place env name ref).mp found
          have below := Environment.lookup_rooted env refines.rooted name ref known
          simp only [Environment.share, known, Memory.share, located, Option.map_some]
          exact ⟨address, ref, refines, rfl, rfl, below, fun _ _ => rfl⟩
      | scope height =>
          obtain ⟨value, known, inner, _⟩ := Environment.place_innermost env name height found
          have held : env.content (.own height name) = some value := by
            simp [Environment.content, inner, Binding.own?]
          simp only [Environment.share, known, Memory.share, located, Option.map_some]
          refine ⟨_, env.cells.size, refines_first_shared refines name height value found held, rfl, ?_, ?_, older _⟩
          · rw [Function.update_self]
            rfl
          · rw [Environment.cells_rebind]
            simp

theorem refines_push (refines : Refines env memory address) : Refines (env.push ∅) memory.push address := by
  refine refines_less refines _ _ rfl ?_ ?_ (Environment.push_rooted env ∅ refines.rooted (empty_rooted _))
  · exact congrArg (List.cons _) refines.names
  · intro slot value held
    cases slot with
    | cell ref => exact held
    | own height name =>
        simp only [Environment.content, Environment.binding_push] at held ⊢
        split at held
        · cases held
        · exact held

theorem refines_pop (refines : Refines env memory address) : Refines env.pop.2 memory.pop.2 address := by
  obtain ⟨innermost, enclosing⟩ := refines_parts refines
  cases around : env.enclosing with
  | nil =>
      rw [around] at enclosing
      have alone : env.pop.2 = env := by simp [Environment.pop, around]
      have lone : memory.pop.2 = memory := by simp [Memory.pop, enclosing, namesIn]
      rw [alone, lone]
      exact refines
  | cons next rest =>
      rw [around] at enclosing
      have rooted := Environment.pop_rooted env refines.rooted
      refine refines_less refines _ _ ?_ ?_ (fun slot value held => ?_) rooted
      · simp [Memory.pop, enclosing, namesIn]
      · simp [Memory.pop, enclosing, namesIn, Memory.scopes, Environment.pop, around, Environment.scopes]
      · cases slot with
        | cell ref =>
            simp only [Environment.pop, around, Environment.content] at held
            exact held
        | own height name =>
            simp only [Environment.content] at held ⊢
            by_cases low : height < env.pop.2.depth
            · rw [← Environment.binding_pop env name height low]
              exact held
            · rw [Environment.binding_deep _ name height (Nat.le_of_not_lt low)] at held
              cases held

theorem refines_close (refines : Refines env memory address) (count : Nat) :
    Refines (env.close count) (memory.close count) address := by
  induction count generalizing env memory with
  | zero => exact refines
  | succ count ih => exact ih (refines_pop refines)

theorem names_live (scopes : List Scope) (bound : Nat) (rooted : ∀ scope ∈ scopes, Scope.Rooted bound scope)
    (names : Names) (member : names ∈ namesIn address scopes) (name : String) (location : Nat)
    (found : names name = some location) :
    (∃ cell < bound, location = address (.cell cell)) ∨
      ∃ height value, location = address (.own height name) ∧ bindingIn height name scopes = some (.own value) := by
  induction scopes with
  | nil => cases member
  | cons scope rest ih =>
      rcases List.mem_cons.mp member with same | later
      · rw [same] at found
        obtain ⟨binding, known, rfl⟩ := Option.map_eq_some_iff.mp found
        cases binding with
        | own value => exact Or.inr ⟨rest.length, value, rfl, by simp [bindingIn, known]⟩
        | shared cell => exact Or.inl ⟨cell, rooted scope List.mem_cons_self name cell known, rfl⟩
      · rcases ih (fun other inside => rooted other (List.mem_cons_of_mem _ inside)) later with known | known
        · exact Or.inl known
        · obtain ⟨height, value, same, held⟩ := known
          have low : height < rest.length := by
            refine Nat.lt_of_not_le fun high => ?_
            rw [binding_high name height rest high] at held
            cases held
          exact Or.inr ⟨height, value, same, (binding_below name scope rest height low).trans held⟩

theorem refines_bounded (refines : Refines env memory address) : memory.Bounded := by
  intro names member name location found
  rw [refines.names] at member
  rcases names_live env.scopes _ refines.rooted names member name location found with
    ⟨cell, below, rfl⟩ | ⟨height, value, rfl, held⟩
  · exact refines_below refines (.cell cell) (by simp [Environment.content, below])
  · have held : env.bindingAt height name = some (.own value) := held
    exact refines_below refines (.own height name) (by simp [Environment.content, held, Binding.own?])

end Refines

end Flowline
