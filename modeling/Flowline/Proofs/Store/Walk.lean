import Flowline.Proofs.Label.Parts
import Flowline.Proofs.Store.Elementary

set_option autoImplicit false

namespace Flowline

-- What is kept by actions that only look at variables and arrays, or make an array, and by actions after each other.
structure Sequential (holds : {α : Type} → Action α → Prop) : Prop where
  observe : ∀ {α : Type} (view : Environment → Heap → Except Fault α), (∀ env heap, Sane (view env heap)) →
    holds fun store => (view store.env store.heap, store)
  allocate : ∀ storage, holds (Action.allocate storage)
  sequence : ∀ {α β : Type} (first : Action α) (next : α → Action β), holds first →
    (∀ value, holds (next value)) → holds (first >>= next)

structure Stored (holds : {α : Type} → Action α → Prop) : Prop where
  set : ∀ name value, holds (Action.setVariable name value)
  write : ∀ ref indices value, holds (Action.writeItem ref indices value)

-- The expressions that are allowed bring along all that they are made of, and actions that keep what holds.
structure Walked (registry : Registry) (allowed : Label.Expr → Prop) (holds : {α : Type} → Action α → Prop) : Prop
    extends Sequential holds where
  parts : ∀ expr, allowed expr → ∀ part ∈ expr.parts, allowed part
  named : ∀ name function, allowed (.var name) → registry.function? name = some function →
    holds (Action.apply function [])
  called : ∀ name args function values, allowed (.call name args) → registry.function? name = some function →
    holds (Action.apply function values)
  assigns : ∀ target value, allowed (.assign target value) → Stored holds

namespace Sequential

variable {holds : {α : Type} → Action α → Prop} {α : Type}

theorem pure_holds (sequential : Sequential holds) (value : α) : holds (pure value : Action α) :=
  sequential.observe (fun _ _ => .ok value) fun _ _ => sane_ok value

theorem lift_holds (sequential : Sequential holds) (result : Except Fault α) (sane : Sane result) :
    holds (Action.lift result) := sequential.observe (fun _ _ => result) fun _ _ => sane

theorem fail_holds (sequential : Sequential holds) (fault : Fault) (known : fault.ofLabels = true) :
    holds (Action.fail fault : Action α) := sequential.observe (fun _ _ => .error fault) fun _ _ => sane_error fault known

theorem get_variable_holds (sequential : Sequential holds) (name : String) : holds (Action.getVariable? name) :=
  sequential.observe (fun env _ => .ok (env.get? name)) fun _ _ => sane_ok _

theorem read_item_holds (sequential : Sequential holds) (ref : Nat) (indices : List Nat) :
    holds (Action.readItem ref indices) :=
  sequential.observe (fun _ heap => heap.read ref indices) fun _ _ => heap_read_sane _ _ _

theorem combine_holds (sequential : Sequential holds) (op : Label.BinaryOp) (left right : Value) :
    holds (Action.combine op left right) :=
  sequential.observe (fun _ heap => .ok (left.combine heap op right)) fun _ _ => sane_ok _

theorem unassigned_holds (sequential : Sequential holds) (target : Label.Expr) : holds (unassigned? target) := by
  cases target with
  | var name =>
      refine sequential.sequence _ _ (sequential.get_variable_holds name) fun known => ?_
      split <;> exact sequential.pure_holds _
  | _ => exact sequential.pure_holds _

theorem new_array_holds (sequential : Sequential holds) (stored : Stored holds) (name : String) (rank : Nat) :
    holds (newArray name rank) :=
  sequential.sequence _ _ (sequential.allocate _) fun base =>
    sequential.sequence _ _ (stored.set name base) fun _ => sequential.pure_holds base

end Sequential

namespace Walked

variable {registry : Registry} {allowed : Label.Expr → Prop} {holds : {α : Type} → Action α → Prop}

theorem resolve_name_holds (walked : Walked registry allowed holds) (name : String) (allows : allowed (.var name)) :
    holds (resolveName registry name) := by
  refine walked.sequence _ _ (walked.get_variable_holds name) fun known => ?_
  cases known with
  | some value => exact walked.pure_holds value
  | none =>
      cases registry.constant? name with
      | some value => exact walked.pure_holds value
      | none =>
          cases found : registry.function? name with
          | none => exact walked.fail_holds _ rfl
          | some function =>
              dsimp only
              split
              · exact walked.named name function allows found
              · exact walked.fail_holds _ rfl

mutual

theorem evaluate_holds (walked : Walked registry allowed holds) :
    (expr : Label.Expr) → allowed expr → holds (evaluate registry expr)
  | .number _, _ | .text _, _ | .bool _, _ => by
      rw [evaluate]
      exact walked.pure_holds _
  | .var name, allows => by
      rw [evaluate]
      exact walked.resolve_name_holds name allows
  | .array items, allows => by
      rw [evaluate]
      exact walked.sequence _ _ (evaluate_all_holds walked items (walked.parts _ allows)) fun _ => walked.allocate _
  | .unary op operand, allows => by
      rw [evaluate]
      exact walked.sequence _ _ (evaluate_holds walked operand (walked.parts _ allows _ List.mem_cons_self)) fun _ =>
        walked.lift_holds _ (apply_unary_sane _ _)
  | .binary op left right, allows => by
      have parts := walked.parts _ allows
      have first := evaluate_holds walked left (parts left List.mem_cons_self)
      have second := evaluate_holds walked right (parts right (List.mem_cons_of_mem left List.mem_cons_self))
      cases op with
      | and =>
          rw [evaluate]
          refine walked.sequence _ _ first fun value => ?_
          split
          · exact walked.sequence _ _ second fun _ => walked.pure_holds _
          · exact walked.pure_holds _
      | or =>
          rw [evaluate]
          refine walked.sequence _ _ first fun value => ?_
          split
          · exact walked.pure_holds _
          · exact walked.sequence _ _ second fun _ => walked.pure_holds _
      | _ =>
          rw [evaluate]
          · exact walked.sequence _ _ first fun _ => walked.sequence _ _ second fun _ => walked.combine_holds _ _ _
          · simp
          · simp
  | .call name args, allows => by
      rw [evaluate]
      cases found : registry.function? name with
      | none => exact walked.fail_holds _ rfl
      | some function =>
          dsimp only
          split
          · exact walked.sequence _ _ (evaluate_all_holds walked args (walked.parts _ allows)) fun values =>
              walked.called name args function values allows found
          · exact walked.fail_holds _ rfl
  | .index target indices, allows => by
      obtain ⟨base, places⟩ := List.forall_mem_cons.mp (walked.parts _ allows)
      rw [evaluate]
      exact walked.sequence _ _ (evaluate_holds walked target base) fun _ =>
        walked.sequence _ _ (evaluate_indices_holds walked indices places) fun _ =>
        walked.sequence _ _ (walked.lift_holds _ (to_ref_sane _)) fun _ => walked.read_item_holds _ _
  | .assign target value, allows => by
      have parts := walked.parts _ allows
      have second := parts value (List.mem_cons_of_mem target List.mem_cons_self)
      rw [evaluate]
      exact walked.sequence _ _ (evaluate_holds walked value second) fun result =>
        walked.sequence _ _ (assign_holds walked (walked.assigns target value allows) target result
          (parts target List.mem_cons_self)) fun _ => walked.pure_holds _

theorem evaluate_all_holds (walked : Walked registry allowed holds) :
    (exprs : List Label.Expr) → (∀ expr ∈ exprs, allowed expr) → holds (evaluateAll registry exprs)
  | [], _ => by
      rw [evaluateAll]
      exact walked.pure_holds _
  | first :: rest, allows => by
      obtain ⟨one, others⟩ := List.forall_mem_cons.mp allows
      rw [evaluateAll]
      exact walked.sequence _ _ (evaluate_holds walked first one) fun _ =>
        walked.sequence _ _ (evaluate_all_holds walked rest others) fun _ => walked.pure_holds _

theorem evaluate_indices_holds (walked : Walked registry allowed holds) :
    (exprs : List Label.Expr) → (∀ expr ∈ exprs, allowed expr) → holds (evaluateIndices registry exprs)
  | [], _ => by
      rw [evaluateIndices]
      exact walked.pure_holds _
  | first :: rest, allows => by
      obtain ⟨one, others⟩ := List.forall_mem_cons.mp allows
      rw [evaluateIndices]
      exact walked.sequence _ _ (evaluate_holds walked first one) fun _ =>
        walked.sequence _ _ (walked.lift_holds _ (to_index_sane _)) fun _ =>
        walked.sequence _ _ (evaluate_indices_holds walked rest others) fun _ => walked.pure_holds _

theorem assign_holds (walked : Walked registry allowed holds) (stored : Stored holds) :
    (target : Label.Expr) → (value : Value) → allowed target → holds (assign registry target value)
  | .var name, value, _ => by
      rw [assign]
      exact stored.set name value
  | .index target indices, value, allows => by
      obtain ⟨base, places⟩ := List.forall_mem_cons.mp (walked.parts _ allows)
      rw [assign]
      refine walked.sequence _ _ (evaluate_indices_holds walked indices places) fun places =>
        walked.sequence _ _ (walked.unassigned_holds target) fun fresh => ?_
      have rest : ∀ base : Value, holds (do
          let ref ← Action.lift base.toRef
          Action.writeItem ref places value) := fun base =>
        walked.sequence _ _ (walked.lift_holds _ (to_ref_sane base)) fun ref => stored.write ref places value
      cases fresh with
      | some name => exact walked.sequence _ _ (walked.new_array_holds stored name places.length) rest
      | none => exact walked.sequence _ _ (evaluate_holds walked target base) rest
  | .number _, _, _ | .text _, _, _ | .bool _, _, _ | .array _, _, _ | .unary _ _, _, _ | .binary _ _ _, _, _
  | .call _ _, _, _ | .assign _ _, _, _ => by
      simp only [assign]
      exact walked.fail_holds _ rfl

end

end Walked

-- What is kept by all actions, whatever the expression.
structure Closed (holds : {α : Type} → Action α → Prop) : Prop extends Sequential holds, Stored holds where
  draw : ∀ function args, holds (Action.apply function args)

namespace Closed

variable {holds : {α : Type} → Action α → Prop}

theorem walked (closed : Closed holds) (registry : Registry) : Walked registry (fun _ => True) holds where
  toSequential := closed.toSequential
  parts := fun _ _ _ _ => trivial
  named := fun _ function _ _ => closed.draw function []
  called := fun _ _ function values _ _ => closed.draw function values
  assigns := fun _ _ _ => closed.toStored

theorem assign_holds (closed : Closed holds) (registry : Registry) (target : Label.Expr) (value : Value) :
    holds (assign registry target value) := (closed.walked registry).assign_holds closed.toStored target value trivial

end Closed

-- Relations between the store before and after, kept by all that a store goes through.
structure StoreOrder (relation : Store → Store → Prop) : Prop where
  refl : ∀ store, relation store store
  trans : ∀ a b c, relation a b → relation b c → relation a c
  allocates : ∀ (store : Store) (storage : Storage),
    relation store { store with heap := (store.heap.allocate storage).2 }
  writes : ∀ (store : Store) (ref : Nat) (indices : List Nat) (value : Value),
    relation store { store with heap := (store.heap.write ref indices value).2 }
  sets : ∀ (store : Store) (name : String) (value : Value),
    relation store { store with env := store.env.set name value }
  draws : ∀ (store : Store) (draws : Generator), relation store { store with draws }

theorem StoreOrder.closed {relation : Store → Store → Prop} (order : StoreOrder relation) :
    Closed (Respects relation) where
  observe := fun _ _ store => order.refl store
  allocate := fun storage store => order.allocates store storage
  sequence := respects_bind relation order.trans
  set := fun name value store => order.sets store name value
  write := fun ref indices value store => order.writes store ref indices value
  draw := fun _ _ store => order.draws store _

theorem raises_closed (allowed : Fault → Prop) (labels : ∀ fault, fault.ofLabels = true → allowed fault) :
    Closed (Raises allowed) where
  observe := fun _ sane store fault failed => labels fault (sane store.env store.heap fault failed)
  allocate := fun _ _ _ failed => nomatch failed
  sequence := raises_bind allowed
  set := fun _ _ _ _ failed => nomatch failed
  write := fun _ _ _ _ fault failed => labels fault (heap_write_sane _ _ _ _ fault failed)
  draw := fun _ _ _ fault failed => labels fault (function_apply_sane _ _ _ _ fault failed)

end Flowline
