import Flowline.Evaluate
import Flowline.Outcome

set_option autoImplicit false

namespace Flowline

-- The faults of what is written in components. The others are of charts without them, and of hosts that ask at the
-- wrong time.
def Fault.ofLabels : Fault → Bool
  | .unknownComponent _ | .notAwaitingInput | .inputNotProvided => false
  | _ => true

def Sane {α : Type} (result : Except Fault α) : Prop :=
  ∀ fault, result = .error fault → fault.ofLabels = true

theorem sane_ok {α : Type} (value : α) : Sane (.ok value) := by
  intro fault failed
  cases failed

theorem sane_error {α : Type} (fault : Fault) (known : fault.ofLabels = true) :
    Sane (.error fault : Except Fault α) := by
  intro other failed
  cases failed
  exact known

theorem sane_bind {α β : Type} (first : Except Fault α) (next : α → Except Fault β) (before : Sane first)
    (after : ∀ value, Sane (next value)) : Sane (first >>= next) := by
  cases first with
  | ok value => exact after value
  | error fault => exact sane_error fault (before fault rfl)

theorem to_number_sane (value : Value) : Sane value.toNumber := by
  cases value with
  | number number => exact sane_ok number
  | text text =>
      simp only [Value.toNumber]
      split
      · exact sane_ok _
      · exact sane_error _ rfl
  | _ => exact sane_error _ rfl

theorem to_bool_sane (value : Value) : Sane value.toBool := by
  cases value with
  | bool flag => exact sane_ok flag
  | _ => exact sane_error _ rfl

theorem to_ref_sane (value : Value) : Sane value.toRef := by
  cases value with
  | array ref => exact sane_ok ref
  | _ => exact sane_error _ rfl

theorem to_index_sane (value : Value) : Sane value.toIndex := by
  refine sane_bind _ _ (to_number_sane value) fun number => ?_
  split
  · exact sane_error _ rfl
  · split
    · split
      · exact sane_ok _
      · exact sane_error _ rfl
    · exact sane_error _ rfl

theorem apply_unary_sane (op : Label.UnaryOp) (value : Value) : Sane (applyUnary op value) := by
  simp only [applyUnary]
  split
  · exact sane_ok _
  · exact sane_ok _
  · exact sane_ok _
  · exact sane_error _ rfl

theorem item_at_sane {α : Type} (items : Array α) (index : Nat) : Sane (Storage.itemAt items index) := by
  simp only [Storage.itemAt]
  split
  · exact sane_ok _
  · exact sane_error _ rfl

theorem storage_read_sane (storage : Storage) (indices : List Nat) : Sane (storage.read indices) := by
  simp only [Storage.read]
  split
  · exact item_at_sane _ _
  · split
    · exact item_at_sane _ _
    · rename_i fault failed
      exact sane_error fault (item_at_sane _ _ fault failed)
  · exact sane_error _ rfl

theorem reaching_sane {α : Type} (fill : α) (items : Array α) (index : Nat) :
    Sane (Storage.reaching fill items index) := by
  simp only [Storage.reaching]
  split
  · exact sane_ok _
  · split
    · exact sane_ok _
    · exact sane_error _ rfl

theorem storage_write_sane (storage : Storage) (indices : List Nat) (value : Value) :
    Sane (storage.write indices value).1 := by
  simp only [Storage.write]
  split
  · split
    · exact sane_ok _
    · rename_i fault failed
      exact sane_error fault (reaching_sane _ _ _ fault failed)
  · split
    · split
      · exact sane_ok _
      · rename_i fault failed
        exact sane_error fault (reaching_sane _ _ _ fault failed)
    · rename_i fault failed
      exact sane_error fault (reaching_sane _ _ _ fault failed)
  · exact sane_error _ rfl

theorem heap_read_sane (heap : Heap) (ref : Nat) (indices : List Nat) : Sane (heap.read ref indices) := by
  simp only [Heap.read]
  split
  · exact storage_read_sane _ _
  · exact sane_error _ rfl

theorem heap_write_sane (heap : Heap) (ref : Nat) (indices : List Nat) (value : Value) :
    Sane (heap.write ref indices value).1 := by
  simp only [Heap.write]
  split
  · exact storage_write_sane _ _ _
  · exact sane_error _ rfl

theorem select_sane (choice : Number → Number → Number) (first : Number) (values : List Value) :
    Sane (Function.select choice first values) := by
  induction values generalizing first with
  | nil => exact sane_ok first
  | cons value rest ih =>
      simp only [Function.select]
      split
      · exact ih _
      · rename_i fault failed
        exact sane_error fault (to_number_sane value fault failed)

theorem character_of_sane (code : Number) : Sane (Function.characterOf code) := by
  simp only [Function.characterOf]
  split
  · split
    · exact sane_ok _
    · exact sane_error _ rfl
  · exact sane_error _ rfl

theorem function_value_sane (heap : Heap) (function : Function) (args : List Value) :
    Sane (function.value heap args) := by
  simp only [Function.value]
  split
  · exact sane_bind _ _ (to_number_sane _) fun _ => sane_ok _
  · exact sane_bind _ _ (to_number_sane _) fun _ => sane_bind _ _ (select_sane _ _ _) fun _ => sane_ok _
  · exact sane_bind _ _ (to_number_sane _) fun _ => sane_bind _ _ (select_sane _ _ _) fun _ => sane_ok _
  · exact sane_ok _
  · exact sane_error _ rfl
  · exact sane_bind _ _ (to_number_sane _) fun _ => character_of_sane _
  · exact sane_ok _
  · exact sane_ok _
  · exact sane_error _ rfl
  · exact sane_ok _
  · exact sane_ok _
  · exact sane_ok _
  · exact sane_ok _
  · exact sane_ok _
  · exact sane_ok _
  · exact sane_ok _
  · exact sane_error _ rfl

theorem function_apply_sane (heap : Heap) (function : Function) (args : List Value) (draws : Generator) :
    Sane (function.apply heap args draws).1 := by
  simp only [Function.apply]
  split
  · exact sane_ok _
  · exact function_value_sane _ _ _

def Raises {α σ : Type} (allowed : Fault → Prop) (computation : ExceptT Fault (StateM σ) α) : Prop :=
  ∀ state fault, (computation state).1 = .error fault → allowed fault

theorem raises_bind {α β σ : Type} (allowed : Fault → Prop)
    (first : ExceptT Fault (StateM σ) α) (next : α → ExceptT Fault (StateM σ) β)
    (before : Raises allowed first) (after : ∀ value, Raises allowed (next value)) :
    Raises allowed (first >>= next) := by
  intro state fault failed
  have step := before state
  rw [run_bind] at failed
  rcases result : first state with ⟨outcome, reached⟩
  rw [result] at step failed
  cases outcome with
  | ok value => exact after value reached fault failed
  | error other =>
      cases failed
      exact step fault rfl

end Flowline
