import Flowline.Proofs.Store.Walk

set_option autoImplicit false

namespace Flowline

theorem Heap.storage_older (heap : Heap) (storage old : Storage) (ref : Nat) (found : heap.storage? ref = some old) :
    (heap.allocate storage).2.storage? ref = some old := by
  have inside : ref < heap.storages.size := (Array.getElem?_eq_some_iff.mp found).1
  simp only [storage?, allocate]
  rw [Array.getElem?_push_lt inside, ← Array.getElem?_eq_getElem inside]
  exact found

-- Variables and arrays are as they were. There may be new arrays, and numbers may have been drawn.
structure Quiet (before after : Store) : Prop where
  env : after.env = before.env
  kept : ∀ ref storage, before.heap.storage? ref = some storage → after.heap.storage? ref = some storage

namespace Quiet

theorem refl (store : Store) : Quiet store store := ⟨rfl, fun _ _ known => known⟩

theorem trans (a b c : Store) (first : Quiet a b) (second : Quiet b c) : Quiet a c :=
  ⟨second.env.trans first.env, fun ref storage known => second.kept ref storage (first.kept ref storage known)⟩

theorem sequential : Sequential (Respects Quiet) where
  observe := fun _ _ store => refl store
  allocate := fun storage store => ⟨rfl, fun ref old known => store.heap.storage_older storage old ref known⟩
  sequence := respects_bind Quiet trans

theorem draw (function : Function) (args : List Value) : Respects Quiet (Action.apply function args) :=
  fun _ => ⟨rfl, fun _ _ known => known⟩

theorem walked (registry : Registry) : Walked registry Label.Expr.Plain (Respects Quiet) where
  toSequential := sequential
  parts := Label.plain_parts
  named := fun _ function _ _ => draw function []
  called := fun _ _ function values _ _ => draw function values
  assigns := fun _ _ plain => plain.elim

end Quiet

section Expressions

variable (registry : Registry)

theorem evaluate_quiet (expr : Label.Expr) (plain : expr.Plain) : Respects Quiet (evaluate registry expr) :=
  (Quiet.walked registry).evaluate_holds expr plain

theorem evaluate_all_quiet (exprs : List Label.Expr) (plain : ∀ expr ∈ exprs, expr.Plain) :
    Respects Quiet (evaluateAll registry exprs) := (Quiet.walked registry).evaluate_all_holds exprs plain

theorem evaluate_indices_quiet (exprs : List Label.Expr) (plain : ∀ expr ∈ exprs, expr.Plain) :
    Respects Quiet (evaluateIndices registry exprs) := (Quiet.walked registry).evaluate_indices_holds exprs plain

end Expressions

end Flowline
