import Flowline.Proofs.Table.Ascending
import Flowline.Record.Draft

set_option autoImplicit false

namespace Flowline

namespace Graph

def Member.settle : Member → Member
  | .pending id => .ref id
  | member => member

def Object.settle (object : Object) : Object := object.mapSlots (Array.map Member.settle)

def Object.Fillable (object : Object) : Prop := ∀ text, object ≠ .string text

theorem slots_map (object : Object) (change : Array Member → Array Member) (fillable : object.Fillable) :
    (object.mapSlots change).slots = change object.slots := by
  cases object with
  | string text => exact absurd rfl (fillable text)
  | _ => rfl

theorem map_slots_map (object : Object) (first second : Array Member → Array Member) :
    (object.mapSlots first).mapSlots second = object.mapSlots (second ∘ first) := by
  cases object <;> rfl

theorem map_fillable (object : Object) (change : Array Member → Array Member) :
    (object.mapSlots change).Fillable ↔ object.Fillable := by
  cases object with
  | string text => exact Iff.rfl
  | record self => exact ⟨fun _ _ same => (nomatch same), fun _ _ same => (nomatch same)⟩
  | array self => exact ⟨fun _ _ same => (nomatch same), fun _ _ same => (nomatch same)⟩

theorem map_slots_congr (object : Object) (first second : Array Member → Array Member)
    (same : first object.slots = second object.slots) : object.mapSlots first = object.mapSlots second := by
  cases object with
  | string text => rfl
  | record self =>
      simp only [Object.mapSlots]
      rw [show first self.values = second self.values from same]
  | array self =>
      simp only [Object.mapSlots]
      rw [show first self.values = second self.values from same]

theorem settle_size (object : Object) : object.settle.slots.size = object.slots.size := by
  cases object with
  | string text => rfl
  | record self => exact Array.size_map
  | array self => exact Array.size_map

theorem settle_append (object : Object) (values : Array Member) :
    (object.mapSlots (· ++ values)).settle = object.settle.mapSlots (· ++ values.map Member.settle) := by
  simp only [Object.settle]
  rw [map_slots_map, map_slots_map]
  exact map_slots_congr object _ _ Array.map_append

end Graph

namespace Record

open Flowline.Graph

def slotOf (graph : Graph) (slot : Waiting) : Option Member :=
  (graph.get? slot.owner).bind fun object => object.slots[slot.index]?

-- The objects that have been read, with all links as they will be.
def view (graph : Graph) (id : ObjectId) : Option Object := (graph.get? id).map Object.settle

theorem view_none (graph : Graph) (id : ObjectId) : view graph id = none ↔ graph.get? id = none :=
  Option.map_eq_none_iff

theorem slot_fillable (graph : Graph) (slot : Waiting) (object : Object) (member : Member)
    (found : graph.get? slot.owner = some object) (held : slotOf graph slot = some member) : object.Fillable := by
  intro text same
  rw [slotOf, found, same] at held
  cases held

section Changes

variable {graph : Graph} {id : ObjectId} {object : Object}

theorem slot_changed (change : Array Member → Array Member) (found : graph.get? id = some object)
    (fillable : object.Fillable) (slot : Waiting) (owner : slot.owner = id) :
    slotOf (graph.modify id fun object => object.mapSlots change) slot = (change object.slots)[slot.index]? := by
  rw [slotOf, owner, Table.get?_modify_self, found]
  exact congrArg (·[slot.index]?) (slots_map object change fillable)

theorem slot_unchanged (change : Object → Object) (slot : Waiting) (owner : slot.owner ≠ id) :
    slotOf (graph.modify id change) slot = slotOf graph slot := by
  rw [slotOf, slotOf, Table.get?_modify_of_ne graph id slot.owner change owner]

theorem slot_held (found : graph.get? id = some object) (slot : Waiting) (owner : slot.owner = id) :
    slotOf graph slot = object.slots[slot.index]? := by
  rw [slotOf, owner, found]
  rfl

theorem slot_appended (values : Array Member) (found : graph.get? id = some object) (fillable : object.Fillable)
    (slot : Waiting) (member : Member) :
    slotOf (graph.modify id fun object => object.mapSlots (· ++ values)) slot = some member ↔
      slotOf graph slot = some member ∨
        (slot.owner = id ∧ object.slots.size ≤ slot.index ∧
          values[slot.index - object.slots.size]? = some member) := by
  by_cases owner : slot.owner = id
  · rw [slot_changed _ found fillable slot owner, slot_held found slot owner, Array.getElem?_append]
    by_cases old : slot.index < object.slots.size
    · rw [if_pos old]
      constructor
      · exact Or.inl
      · rintro (held | ⟨_, above, _⟩)
        · exact held
        · omega
    · rw [if_neg old]
      constructor
      · exact fun held => Or.inr ⟨owner, Nat.le_of_not_lt old, held⟩
      · rintro (held | ⟨_, _, held⟩)
        · rw [Array.getElem?_eq_none (Nat.le_of_not_lt old)] at held
          cases held
        · exact held
  · rw [slot_unchanged _ slot owner]
    exact ⟨Or.inl, fun held => held.elim (fun held => held) fun new => absurd new.1 owner⟩

theorem view_appended (values : Array Member) (other : ObjectId) :
    view (graph.modify id fun object => object.mapSlots (· ++ values)) other =
      if other = id then (view graph id).map (Object.mapSlots (· ++ values.map Member.settle))
      else view graph other := by
  simp only [view]
  by_cases same : other = id
  · subst same
    rw [if_pos rfl, Table.get?_modify_self, Option.map_map, Option.map_map]
    exact congrArg (Option.map · _) (funext fun object => settle_append object values)
  · rw [if_neg same, Table.get?_modify_of_ne graph id other _ same]

end Changes

-- The slots that wait are the slots that are listed.
structure Waits (graph : Graph) (pending : Table ObjectId (List Waiting) .ascending) : Prop where
  sorted : Table.Sorted graph
  queue : Table.Sorted pending
  listed : ∀ id slots, pending.get? id = some slots →
    slots ≠ [] ∧ slots.Nodup ∧ ∀ slot ∈ slots, slotOf graph slot = some (.pending id)
  complete : ∀ id slot, slotOf graph slot = some (.pending id) →
    ∃ slots, pending.get? id = some slots ∧ slot ∈ slots
  absent : ∀ id slots, pending.get? id = some slots → graph.get? id = none

theorem waits_empty : Waits ∅ ∅ where
  sorted := Table.sorted_empty
  queue := Table.sorted_empty
  listed := fun _ _ none => nomatch none
  complete := fun _ _ none => nomatch none
  absent := fun _ _ none => nomatch none

section Waits

variable {graph : Graph} {pending : Table ObjectId (List Waiting) .ascending} {id : ObjectId} {object : Object}

theorem modified_none (change : Object → Object) (other : ObjectId) (missing : graph.get? other = none) :
    (graph.modify id change).get? other = none := by
  by_cases same : other = id
  · subst same
    rw [Table.get?_modify_self, missing]
    rfl
  · rw [Table.get?_modify_of_ne graph id other change same]
    exact missing

theorem erased_known {other : ObjectId} {slots : List Waiting} (queue : Table.Sorted pending)
    (known : (pending.erase id).get? other = some slots) : other ≠ id ∧ pending.get? other = some slots := by
  by_cases same : other = id
  · subst same
    rw [Table.get?_erase_self] at known
    cases known
  · rw [Table.get?_erase_of_ne pending id other queue same] at known
    exact ⟨same, known⟩

theorem waits_appended (waits : Waits graph pending) (values : Array Member) (found : graph.get? id = some object)
    (fillable : object.Fillable)
    (settled : ∀ (index : Nat) (other : ObjectId), values[index]? ≠ some (.pending other)) :
    Waits (graph.modify id fun object => object.mapSlots (· ++ values)) pending where
  sorted := Table.sorted_modify graph id _ waits.sorted
  queue := waits.queue
  listed := by
    intro other slots known
    obtain ⟨some, once, held⟩ := waits.listed other slots known
    exact ⟨some, once, fun slot member => (slot_appended values found fillable slot _).mpr (Or.inl (held slot member))⟩
  complete := by
    intro other slot held
    rcases (slot_appended values found fillable slot _).mp held with old | ⟨_, _, new⟩
    · exact waits.complete other slot old
    · exact absurd new (settled _ other)
  absent := fun other slots known => modified_none _ other (waits.absent other slots known)

theorem waiting_listed (waits : Waits graph pending) (target : ObjectId) :
    ((pending.get? target).getD []).Nodup ∧
      ∀ slot ∈ (pending.get? target).getD [], slotOf graph slot = some (.pending target) := by
  cases known : pending.get? target with
  | none => exact ⟨List.nodup_nil, fun _ none => nomatch none⟩
  | some slots => exact (waits.listed target slots known).2

theorem slot_awaited (target : ObjectId) (found : graph.get? id = some object) (fillable : object.Fillable)
    (slot : Waiting) (member : Member) :
    slotOf (graph.modify id fun object => object.mapSlots (· ++ #[.pending target])) slot = some member ↔
      slotOf graph slot = some member ∨ (slot = ⟨id, object.slots.size⟩ ∧ member = .pending target) := by
  rw [slot_appended _ found fillable slot member]
  refine or_congr_right ?_
  rcases slot with ⟨owner, index⟩
  constructor
  · rintro ⟨rfl, above, new⟩
    obtain ⟨inside, same⟩ := Array.getElem?_eq_some_iff.mp new
    change object.slots.size ≤ index at above
    change index - object.slots.size < 1 at inside
    have level : index = object.slots.size := by omega
    subst level
    simp only [Nat.sub_self, List.getElem_toArray, List.getElem_cons_zero] at same
    exact ⟨rfl, same.symm⟩
  · rintro ⟨same, rfl⟩
    cases same
    refine ⟨rfl, Nat.le_refl _, ?_⟩
    rw [Nat.sub_self]
    rfl

theorem slot_fresh (waits : Waits graph pending) (target : ObjectId) (found : graph.get? id = some object) :
    (⟨id, object.slots.size⟩ : Waiting) ∉ (pending.get? target).getD [] := by
  intro member
  have held := (waiting_listed waits target).2 _ member
  rw [slot_held found _ rfl, Array.getElem?_eq_none (Nat.le_refl _)] at held
  cases held

theorem waits_awaited (waits : Waits graph pending) (target : ObjectId) (found : graph.get? id = some object)
    (fillable : object.Fillable) (missing : graph.get? target = none) :
    Waits (graph.modify id fun object => object.mapSlots (· ++ #[.pending target]))
      (pending.insert target ((pending.get? target).getD [] ++ [⟨id, object.slots.size⟩])) where
  sorted := Table.sorted_modify graph id _ waits.sorted
  queue := Table.sorted_insert pending target _ waits.queue
  listed := by
    intro other slots known
    by_cases same : other = target
    · subst same
      rw [Table.get?_insert_self] at known
      cases known
      obtain ⟨once, held⟩ := waiting_listed waits other
      refine ⟨by simp, List.nodup_append.mpr ⟨once, by simp, fun slot member last new same => ?_⟩, fun slot member => ?_⟩
      · rw [same, List.mem_singleton.mp new] at member
        exact slot_fresh waits other found member
      · refine (slot_awaited other found fillable slot _).mpr ?_
        exact (List.mem_append.mp member).imp (held slot) fun new => ⟨List.mem_singleton.mp new, rfl⟩
    · rw [Table.get?_insert_of_ne pending target other _ same] at known
      obtain ⟨some, once, held⟩ := waits.listed other slots known
      exact ⟨some, once, fun slot member => (slot_awaited _ found fillable slot _).mpr (Or.inl (held slot member))⟩
  complete := by
    intro other slot held
    rcases (slot_awaited _ found fillable slot _).mp held with old | ⟨rfl, new⟩
    · obtain ⟨slots, known, member⟩ := waits.complete other slot old
      by_cases same : other = target
      · subst same
        refine ⟨_, Table.get?_insert_self pending other _, ?_⟩
        rw [known]
        exact List.mem_append_left _ member
      · exact ⟨slots, by rw [Table.get?_insert_of_ne pending target other _ same, known], member⟩
    · cases new
      exact ⟨_, Table.get?_insert_self pending target _, List.mem_append_right _ (List.mem_singleton.mpr rfl)⟩
  absent := by
    intro other slots known
    by_cases same : other = target
    · subst same
      exact modified_none _ other missing
    · rw [Table.get?_insert_of_ne pending target other _ same] at known
      exact modified_none _ other (waits.absent other slots known)

theorem slot_patched (slot : Waiting) (target : ObjectId) (held : slotOf graph slot = some (.pending target))
    (other : Waiting) (member : Member) :
    slotOf (graph.modify slot.owner fun object =>
        object.mapSlots fun slots => slots.setIfInBounds slot.index (.ref target)) other = some member ↔
      (other = slot ∧ member = .ref target) ∨ (other ≠ slot ∧ slotOf graph other = some member) := by
  cases found : graph.get? slot.owner with
  | none =>
      rw [slotOf, found] at held
      cases held
  | some object =>
      have fillable := slot_fillable graph slot object _ found held
      by_cases owner : other.owner = slot.owner
      · rw [slot_changed _ found fillable other owner, slot_held found other owner]
        rw [slot_held found slot rfl] at held
        have below : slot.index < object.slots.size := (Array.getElem?_eq_some_iff.mp held).1
        by_cases same : other = slot
        · subst same
          rw [Array.getElem?_setIfInBounds_self_of_lt below]
          constructor
          · intro new
            cases new
            exact Or.inl ⟨rfl, rfl⟩
          · rintro (⟨_, new⟩ | ⟨apart, _⟩)
            · rw [new]
            · exact absurd rfl apart
        · have index : slot.index ≠ other.index := by
            intro level
            rcases slot with ⟨own, place⟩
            rcases other with ⟨others, placed⟩
            cases owner
            cases level
            exact same rfl
          rw [Array.getElem?_setIfInBounds_ne index]
          constructor
          · exact fun kept => Or.inr ⟨same, kept⟩
          · rintro (⟨itself, _⟩ | ⟨_, kept⟩)
            · exact absurd itself same
            · exact kept
      · rw [slot_unchanged _ other owner]
        have apart : other ≠ slot := fun same => owner (congrArg Waiting.owner same)
        constructor
        · exact fun kept => Or.inr ⟨apart, kept⟩
        · rintro (⟨itself, _⟩ | ⟨_, kept⟩)
          · exact absurd itself apart
          · exact kept

theorem view_patched (slot : Waiting) (target : ObjectId) (held : slotOf graph slot = some (.pending target))
    (other : ObjectId) :
    view (graph.modify slot.owner fun object =>
      object.mapSlots fun slots => slots.setIfInBounds slot.index (.ref target)) other = view graph other := by
  simp only [view]
  by_cases same : other = slot.owner
  · subst same
    cases found : graph.get? slot.owner with
    | none =>
        rw [Table.get?_modify_self, found]
        rfl
    | some object =>
        rw [Table.get?_modify_self, found]
        rw [slot_held found slot rfl] at held
        obtain ⟨below, here⟩ := Array.getElem?_eq_some_iff.mp held
        simp only [Option.map_some, Object.settle, map_slots_map, Option.some.injEq]
        refine map_slots_congr object _ _ (Array.ext (by simp) fun index first second => ?_)
        by_cases level : slot.index = index
        · subst level
          simp [here, Member.settle]
        · simp only [Function.comp_apply, Array.getElem_map]
          rw [Array.getElem_setIfInBounds_ne (by simpa using second) level]
  · rw [Table.get?_modify_of_ne graph slot.owner other _ same]

theorem patch_waiting (draft : Draft) (slot : Waiting) (target : ObjectId) (position : Nat)
    (held : slotOf draft.graph slot = some (.pending target)) :
    draft.patch slot target position = .ok { draft with
      graph := draft.graph.modify slot.owner fun object =>
        object.mapSlots fun slots => slots.setIfInBounds slot.index (.ref target) } := by
  unfold Draft.patch
  unfold slotOf at held
  rw [held]
  exact if_pos rfl

structure Patched (before : Graph) (slots : List Waiting) (target : ObjectId) (after : Graph) : Prop where
  sorted : Table.Sorted before → Table.Sorted after
  view : ∀ id, view after id = view before id
  slot : ∀ slot member, slotOf after slot = some member ↔
    (slot ∈ slots ∧ member = .ref target) ∨ (slot ∉ slots ∧ slotOf before slot = some member)

theorem patch_all_waiting (draft : Draft) (slots : List Waiting) (target : ObjectId) (position : Nat)
    (once : slots.Nodup) (held : ∀ slot ∈ slots, slotOf draft.graph slot = some (.pending target)) :
    ∃ after, draft.patchAll slots target position = .ok { draft with graph := after } ∧
      Patched draft.graph slots target after := by
  induction slots generalizing draft with
  | nil =>
      refine ⟨draft.graph, rfl, fun sorted => sorted, fun _ => rfl, fun slot member => ?_⟩
      exact ⟨fun kept => Or.inr ⟨List.not_mem_nil, kept⟩,
        fun either => either.elim (fun none => nomatch none.1) And.right⟩
  | cons slot rest ih =>
      have parts := List.nodup_cons.mp once
      have first := held slot List.mem_cons_self
      have patched := slot_patched slot target first
      obtain ⟨after, done, whole⟩ := ih { draft with
          graph := draft.graph.modify slot.owner fun object =>
            object.mapSlots fun slots => slots.setIfInBounds slot.index (.ref target) } parts.2 fun other member => by
        have apart : other ≠ slot := fun same => parts.1 (same ▸ member)
        exact (patched other _).mpr (Or.inr ⟨apart, held other (List.mem_cons_of_mem _ member)⟩)
      refine ⟨after, ?_, fun sorted => whole.sorted (Table.sorted_modify draft.graph _ _ sorted), fun id => ?_, ?_⟩
      · rw [Draft.patchAll, patch_waiting draft slot target position first]
        exact done
      · rw [whole.view id]
        exact view_patched slot target first id
      · intro other member
        rw [whole.slot other member, patched other member]
        by_cases same : other = slot
        · subst same
          simp [parts.1]
        · simp [same]

section Entered

variable (fresh : graph.get? id = none) (bare : object.slots = #[])

include fresh bare

theorem slot_entered (slot : Waiting) : slotOf (graph.insert id object) slot = slotOf graph slot := by
  unfold slotOf
  by_cases same : slot.owner = id
  · rw [same, Table.get?_insert_self, fresh]
    simp only [Option.bind_some, Option.bind_none, bare]
    rfl
  · rw [Table.get?_insert_of_ne graph id slot.owner object same]

omit fresh in
theorem settle_bare : object.settle = object := by
  refine (map_slots_congr object _ (fun slots => slots) ?_).trans ?_
  · rw [bare, Array.map_empty]
  · cases object <;> rfl

omit fresh in
theorem view_entered (other : ObjectId) :
    view (graph.insert id object) other = if other = id then some object else view graph other := by
  unfold view
  by_cases same : other = id
  · rw [if_pos same, same, Table.get?_insert_self, Option.map_some, settle_bare bare]
  · rw [if_neg same, Table.get?_insert_of_ne graph id other object same]

-- The slots that wait for an object do so no more once they are linked to it; all others go on waiting.
theorem waits_linked (waits : Waits graph pending) (after : Graph)
    (patched : Patched (graph.insert id object) ((pending.get? id).getD []) id after) :
    Waits after (pending.erase id) where
  sorted := patched.sorted (Table.sorted_insert graph id object waits.sorted)
  queue := Table.sorted_erase pending id waits.queue
  listed := by
    intro other slots known
    obtain ⟨apart, before⟩ := erased_known waits.queue known
    obtain ⟨some, once, held⟩ := waits.listed other slots before
    refine ⟨some, once, fun slot member => (patched.slot slot _).mpr (Or.inr ⟨fun linked => ?_, ?_⟩)⟩
    · have here := (waiting_listed waits id).2 slot linked
      rw [held slot member] at here
      cases here
      exact apart rfl
    · rw [slot_entered fresh bare]
      exact held slot member
  complete := by
    intro other slot held
    rcases (patched.slot slot _).mp held with ⟨_, linked⟩ | ⟨unlisted, kept⟩
    · cases linked
    · rw [slot_entered fresh bare] at kept
      obtain ⟨slots, known, member⟩ := waits.complete other slot kept
      have apart : other ≠ id := by
        rintro rfl
        rw [known] at unlisted
        exact unlisted member
      exact ⟨slots, by rw [Table.get?_erase_of_ne pending id other waits.queue apart, known], member⟩
  absent := by
    intro other slots known
    obtain ⟨apart, before⟩ := erased_known waits.queue known
    have missing := waits.absent other slots before
    rw [← view_none] at missing ⊢
    rw [patched.view other, view_entered bare, if_neg apart]
    exact missing

end Entered

theorem waits_entered (draft : Draft) (id : ObjectId) (object : Object) (position : Nat)
    (waits : Waits draft.graph draft.pending) (fresh : draft.graph.get? id = none) (bare : object.slots = #[]) :
    ∃ after, draft.enter id object position =
        .ok { draft with graph := after, pending := draft.pending.erase id } ∧
      Waits after (draft.pending.erase id) ∧
      ∀ other, view after other = if other = id then some object else view draft.graph other := by
  obtain ⟨once, held⟩ := waiting_listed waits id
  obtain ⟨after, done, patched⟩ := patch_all_waiting
    { draft with graph := draft.graph.insert id object, pending := draft.pending.erase id }
    ((draft.pending.get? id).getD []) id position once
    fun slot member => (slot_entered fresh bare slot).trans (held slot member)
  refine ⟨after, ?_, waits_linked fresh bare waits after patched, fun other => ?_⟩
  · have missing : draft.graph.contains id = false := by
      rw [Table.contains, fresh]
      rfl
    rw [Draft.enter, missing]
    exact done
  · rw [patched.view other]
    exact view_entered bare other

end Waits

end Record

end Flowline
