import Flowline.Evaluate
import Mathlib.Logic.ExistsUnique

set_option autoImplicit false

namespace Flowline

-- Numbers are ordered as their ranks are, so that one of two is the smaller one unless they are level.
instance : Std.OrientedOrd Number where
  eq_swap {left right} := by
    change compare left.rank right.rank = (compare right.rank left.rank).swap
    exact Std.OrientedCmp.eq_swap

namespace Value

open Label (BinaryOp)

theorem compare_same (value : Value) : value.compare? value = some .eq := by
  cases value with
  | undefined => rfl
  | bool a => exact congrArg some Std.ReflOrd.compare_self
  | number a => exact congrArg some Std.ReflOrd.compare_self
  | text a => exact congrArg some Std.ReflOrd.compare_self
  | array a => simp [compare?]

-- Of the mixed pairs, only those of a number and a text that holds one compare: on either side.
theorem compare_reversed (left right : Value) : right.compare? left = (left.compare? right).map Ordering.swap := by
  cases left with
  | undefined => cases right <;> rfl
  | bool a =>
      cases right with
      | bool b => exact congrArg some Std.OrientedCmp.eq_swap
      | _ => rfl
  | number a =>
      cases right with
      | number b => exact congrArg some Std.OrientedCmp.eq_swap
      | text b =>
          simp only [compare?, Option.map_map]
          congr 1
          funext number
          exact Std.OrientedCmp.eq_swap
      | _ => rfl
  | text a =>
      cases right with
      | number b =>
          simp only [compare?, Option.map_map]
          congr 1
          funext number
          exact Std.OrientedCmp.eq_swap
      | text b => exact congrArg some Std.OrientedCmp.eq_swap
      | _ => rfl
  | array a =>
      cases right with
      | array b => by_cases same : a = b <;> simp [compare?, same, Ne.symm]
      | _ => rfl

theorem compares_reversed (test : Ordering → Bool) (left right : Value) :
    comparesAs test right left = comparesAs (fun order => test order.swap) left right := by
  rw [comparesAs, compare_reversed, Option.any_map]
  rfl

theorem less_greater (left right : Value) :
    comparesAs Ordering.isLT left right = comparesAs Ordering.isGT right left := by
  rw [compares_reversed Ordering.isGT left right]
  simp only [Ordering.isGT_swap]

theorem less_equal_greater_equal (left right : Value) :
    comparesAs Ordering.isLE left right = comparesAs Ordering.isGE right left := by
  rw [compares_reversed Ordering.isGE left right]
  simp only [Ordering.isGE_swap]

theorem less_or_equal (left right : Value) :
    comparesAs Ordering.isLE left right =
      (comparesAs Ordering.isLT left right || comparesAs Ordering.isEq left right) := by
  unfold comparesAs
  cases left.compare? right with
  | none => rfl
  | some order => cases order <;> rfl

def Holds (heap : Heap) (left right : Value) (op : BinaryOp) : Prop := left.combine heap op right = .bool true

theorem one_holds (heap : Heap) (left right : Value) (order : Ordering) (compared : left.compare? right = some order) :
    ∃! op, op ∈ [BinaryOp.less, .equal, .greater] ∧ Holds heap left right op := by
  cases order with
  | lt => exact ⟨.less, by simp [Holds, combine, comparesAs, compared], by simp [Holds, combine, comparesAs, compared]⟩
  | eq => exact ⟨.equal, by simp [Holds, combine, comparesAs, compared], by simp [Holds, combine, comparesAs, compared]⟩
  | gt =>
      exact ⟨.greater, by simp [Holds, combine, comparesAs, compared], by simp [Holds, combine, comparesAs, compared]⟩

theorem none_holds (heap : Heap) (left right : Value) (compared : left.compare? right = none) :
    (∀ op ∈ [BinaryOp.less, .lessEqual, .equal, .greaterEqual, .greater], ¬ Holds heap left right op) ∧
      Holds heap left right .unequal := by
  simp [Holds, combine, comparesAs, compared]

/-- The six operators that compare agree on any two values, of whatever kinds. A value is level with itself, two values
compare in one order as they do in the other, or in neither; and of less, equal and greater just one holds, or none of
the six but unequal. -/
theorem comparisons_coherent (heap : Heap) (left right : Value) :
    left.compare? left = some .eq ∧
      right.compare? left = (left.compare? right).map Ordering.swap ∧
      (right.compare? left = none ↔ left.compare? right = none) ∧
      left.combine heap .less right = right.combine heap .greater left ∧
      left.combine heap .lessEqual right = right.combine heap .greaterEqual left ∧
      left.combine heap .lessEqual right =
        (left.combine heap .less right).combine heap .or (left.combine heap .equal right) ∧
      applyUnary .not (left.combine heap .equal right) = .ok (left.combine heap .unequal right) ∧
      ((∃! op, op ∈ [BinaryOp.less, .equal, .greater] ∧ Holds heap left right op) ∨
        (∀ op ∈ [BinaryOp.less, .lessEqual, .equal, .greaterEqual, .greater], ¬ Holds heap left right op) ∧
          Holds heap left right .unequal) := by
  refine ⟨compare_same left, compare_reversed left right, ?_, congrArg bool (less_greater left right),
    congrArg bool (less_equal_greater_equal left right), congrArg bool (less_or_equal left right), rfl, ?_⟩
  · rw [compare_reversed left right, Option.map_eq_none_iff]
  · cases compared : left.compare? right with
    | some order => exact Or.inl (one_holds heap left right order compared)
    | none => exact Or.inr (none_holds heap left right compared)

end Value

end Flowline
