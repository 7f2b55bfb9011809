import Flowline.Proofs.Label.Built
import Flowline.Proofs.Store.Places
import Flowline.Proofs.Store.Quiet

set_option autoImplicit false

namespace Flowline

open Label (Expr)

def Unassigned (env : Environment) (base : Expr) : Prop :=
  ∃ name, base = .var name ∧ (env.get? name = none ∨ env.get? name = some .undefined)

def Store.withArray (store : Store) (name : String) (rank : Nat) : Store :=
  { store with
    env := store.env.set name (.array store.heap.size)
    heap := (store.heap.allocate (.empty rank)).2 }

def reachArray (registry : Registry) (base : Expr) (rank : Nat) : Action Nat := do
  let found ←
    match ← unassigned? base with
    | some name => newArray name rank
    | none => evaluate registry base
  Action.lift found.toRef

theorem assign_index (registry : Registry) (base : Expr) (indices : List Expr) (value : Value) :
    assign registry (.index base indices) value = (do
      let places ← evaluateIndices registry indices
      let ref ← reachArray registry base places.length
      Action.writeItem ref places value) := by
  simp only [assign, reachArray, bind_assoc]
  refine bind_congr fun places => bind_congr fun fresh => ?_
  cases fresh <;> simp only [bind_assoc]

theorem unassigned_variable (name : String) (store : Store) :
    unassigned? (.var name) store =
      (.ok (if store.env.get? name = none ∨ store.env.get? name = some .undefined then some name else none),
        store) := by
  simp only [unassigned?, run_bind, Action.getVariable?]
  cases store.env.get? name with
  | none => rfl
  | some value => cases value <;> rfl

theorem reach_unassigned (registry : Registry) (name : String) (rank : Nat) (store : Store)
    (unknown : store.env.get? name = none ∨ store.env.get? name = some .undefined) :
    reachArray registry (.var name) rank store = (.ok store.heap.size, store.withArray name rank) := by
  simp only [reachArray, run_bind, unassigned_variable, if_pos unknown]
  rfl

theorem reach_assigned (registry : Registry) (base : Expr) (rank : Nat) (store : Store)
    (known : ¬ Unassigned store.env base) :
    reachArray registry base rank store = (evaluate registry base >>= fun found => Action.lift found.toRef) store := by
  have asked : unassigned? base store = (.ok none, store) := by
    cases base with
    | var name =>
        rw [unassigned_variable, if_neg fun unknown => known ⟨name, rfl, unknown⟩]
    | _ => rfl
  simp only [reachArray, run_bind, asked]

theorem to_ref_ok (value : Value) (ref : Nat) : value.toRef = .ok ref ↔ value = .array ref := by
  cases value with
  | array known => simp [Value.toRef]
  | _ => exact ⟨nofun, nofun⟩

theorem reach_cases (registry : Registry) (base : Expr) (rank : Nat) (before opened : Store) (ref : Nat)
    (reached : reachArray registry base rank before = (.ok ref, opened)) :
    (¬ Unassigned before.env base ∧ evaluate registry base before = (.ok (.array ref), opened)) ∨
      ∃ name, base = .var name ∧ (before.env.get? name = none ∨ before.env.get? name = some .undefined) ∧
        ref = before.heap.size ∧ opened = before.withArray name rank := by
  by_cases unassigned : Unassigned before.env base
  · obtain ⟨name, rfl, unknown⟩ := unassigned
    rw [reach_unassigned registry name rank before unknown] at reached
    cases reached
    exact Or.inr ⟨name, rfl, unknown, rfl, rfl⟩
  · rw [reach_assigned registry base rank before unassigned] at reached
    obtain ⟨found, later, evaluated, taken⟩ := bind_done _ _ _ _ _ reached
    have same : found.toRef = .ok ref := congrArg Prod.fst taken
    have stayed : later = opened := congrArg Prod.snd taken
    rw [(to_ref_ok found ref).mp same, stayed] at evaluated
    exact Or.inl ⟨unassigned, evaluated⟩

theorem reach_fails (registry : Registry) (base : Expr) (plain : base.Plain) (rank : Nat) (before after : Store)
    (fault : Fault) (failed : reachArray registry base rank before = (.error fault, after)) :
    ¬ Unassigned before.env base ∧ Quiet before after := by
  by_cases unassigned : Unassigned before.env base
  · obtain ⟨name, rfl, unknown⟩ := unassigned
    rw [reach_unassigned registry name rank before unknown] at failed
    cases failed
  · rw [reach_assigned registry base rank before unassigned] at failed
    have quiet := Quiet.sequential.sequence (evaluate registry base) (fun found => Action.lift found.toRef)
      (evaluate_quiet registry base plain) (fun found => Quiet.sequential.lift_holds _ (to_ref_sane found)) before
    rw [failed] at quiet
    exact ⟨unassigned, quiet⟩

def assigned? (source : String) (value : Value) (before : Store) : Option (Except Fault Unit × Store) :=
  (Label.parseTarget source).toOption.map fun target => assign .standard target value before

theorem assigned_run (source : String) (value : Value) (before : Store) (run : Except Fault Unit × Store)
    (known : assigned? source value before = some run) :
    ∃ target, Label.parseTarget source = .ok target ∧ assign .standard target value before = run := by
  obtain ⟨target, found, same⟩ := Option.map_eq_some_iff.mp known
  refine ⟨target, ?_, same⟩
  cases parsed : Label.parseTarget source with
  | error error =>
      rw [parsed] at found
      cases found
  | ok expr =>
      rw [parsed] at found
      exact congrArg Except.ok (Option.some.inj found)

namespace Heap

variable (heap : Heap) (ref : Nat) (indices : List Nat) (value : Value)

theorem write_found (storage : Storage) (found : heap.storage? ref = some storage) :
    heap.write ref indices value =
      ((storage.write indices value).1, ⟨heap.storages.setIfInBounds ref (storage.write indices value).2⟩) := by
  simp only [write, found]

theorem write_missing (missing : heap.storage? ref = none) :
    heap.write ref indices value = (.error (.dimensionMismatch 0 indices.length), heap) := by
  simp only [write, missing]

theorem storage_set (storage : Storage) (other : Nat) (apart : other ≠ ref) :
    (⟨heap.storages.setIfInBounds ref storage⟩ : Heap).storage? other = heap.storage? other := by
  simp only [storage?, Array.getElem?_setIfInBounds_ne fun same => apart same.symm]

theorem storage_set_self (old new : Storage) (found : heap.storage? ref = some old) :
    (⟨heap.storages.setIfInBounds ref new⟩ : Heap).storage? ref = some new :=
  Array.getElem?_setIfInBounds_self_of_lt (Array.getElem?_eq_some_iff.mp found).1

theorem write_ok (later : Heap) (written : heap.write ref indices value = (.ok (), later)) :
    ∃ old new, heap.storage? ref = some old ∧ old.write indices value = (.ok (), new) ∧
      later.storage? ref = some new ∧ ∀ other, other ≠ ref → later.storage? other = heap.storage? other := by
  cases found : heap.storage? ref with
  | none =>
      rw [write_missing heap ref indices value found] at written
      cases written
  | some old =>
      rw [write_found heap ref indices value old found] at written
      have outcome : (old.write indices value).1 = .ok () := congrArg Prod.fst written
      have left : (⟨heap.storages.setIfInBounds ref (old.write indices value).2⟩ : Heap) = later :=
        congrArg Prod.snd written
      rw [← left]
      exact ⟨old, (old.write indices value).2, rfl, Prod.ext outcome rfl, storage_set_self heap ref old _ found,
        storage_set heap ref _⟩

theorem read_ok (item : Value) : heap.read ref indices = .ok item ↔
    ∃ storage, heap.storage? ref = some storage ∧ storage.read indices = .ok item := by
  unfold read
  cases heap.storage? ref with
  | none => exact ⟨nofun, nofun⟩
  | some storage => exact ⟨fun found => ⟨storage, rfl, found⟩, fun ⟨_, same, found⟩ => Option.some.inj same ▸ found⟩

theorem storage_allocated (storage : Storage) :
    (heap.allocate storage).2.storage? heap.size = some storage := Array.getElem?_push_size

end Heap

end Flowline
