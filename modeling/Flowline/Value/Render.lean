import Flowline.Search
import Flowline.Text.Quoted
import Flowline.Value.Storage

set_option autoImplicit false

namespace Flowline

def Heap.unopened (heap : Heap) (path : List Nat) : Nat := unmet (List.range heap.size) path.contains

theorem Heap.unopened_cons_lt (heap : Heap) (path : List Nat) (ref : Nat) (storage : Storage)
    (closed : ref ∉ path) (found : heap.storage? ref = some storage) :
    heap.unopened (ref :: path) < heap.unopened path := by
  have bound : ref < heap.size := by
    rcases Nat.lt_or_ge ref heap.size with below | above
    · exact below
    · simp only [Heap.storage?] at found
      rw [Array.getElem?_eq_none above] at found
      cases found
  refine unmet_lt _ _ _ ref ?_ (List.mem_range.mpr bound) ?_ ?_
  · intro other known
    simp only [List.contains_cons, Bool.or_eq_true]
    exact Or.inr known
  · simpa using closed
  · simp

namespace Value

def textIn (heap : Heap) (path : List Nat) (value : Value) : String :=
  match value with
  | .undefined => "undefined"
  | .bool value => if value then "true" else "false"
  | .number value => value.text
  | .text value => value
  | .array ref =>
      if _closed : ref ∈ path then "[...]"
      else
        match _found : heap.storage? ref with
        | some storage => String.intercalate "," (storage.items.map (textIn heap (ref :: path)))
        | none => ""
termination_by heap.unopened path
decreasing_by exact heap.unopened_cons_lt path ref storage _closed _found

def toText (heap : Heap) (value : Value) : String := value.textIn heap []

def debugText (heap : Heap) : Value → String
  | .undefined => "Undefined"
  | .bool value => "Bool(" ++ (if value then "true" else "false") ++ ")"
  | .number value => "Number(" ++ value.fullText ++ ")"
  | .text value => "String(" ++ Text.quoted value ++ ")"
  | .array ref => "Array(" ++ Text.quoted (toText heap (.array ref)) ++ ")"

end Value

end Flowline
