import Flowline.Fault

set_option autoImplicit false

namespace Flowline.Value

def toNumber : Value → Except Fault Number
  | .number value => .ok value
  | .text value =>
      match Number.parse? value with
      | some found => .ok found
      | none => .error (.conversion .string .number)
  | value => .error (.conversion value.kind .number)

def toBool : Value → Except Fault Bool
  | .bool value => .ok value
  | value => .error (.conversion value.kind .boolean)

def toRef : Value → Except Fault Nat
  | .array ref => .ok ref
  | value => .error (.conversion value.kind .array)

def maxIndex : Nat := 0xFFFFFFFFFFFFFFFF

def toIndex (value : Value) : Except Fault Nat := do
  let found ← value.toNumber
  if found.isNegative then .error (.negativeIndex found)
  else
    match found.whole? with
    | some whole =>
        if whole ≤ maxIndex + 1 then .ok (min whole.toNat maxIndex) else .error (.indexNotInteger found)
    | none => .error (.indexNotInteger found)

end Flowline.Value
