import Flowline.Label.Expr
import Flowline.Value.Convert
import Flowline.Value.Render

set_option autoImplicit false

namespace Flowline.Value

-- The order of two values, if they have one. Numbers compare with texts that hold numbers; an array is
-- equal to itself only.
def compare? (left right : Value) : Option Ordering :=
  match left, right with
  | .undefined, .undefined => some .eq
  | .bool a, .bool b => some (compare a b)
  | .number a, .number b => some (compare a b)
  | .text a, .text b => some (compare a b)
  | .number a, .text b => (Number.parse? b).map fun b => compare a b
  | .text a, .number b => (Number.parse? a).map fun a => compare a b
  | .array a, .array b => if a = b then some .eq else none
  | _, _ => none

def comparesAs (test : Ordering → Bool) (left right : Value) : Bool := (left.compare? right).any test

def arithmetic (operation : Number → Number → Option Number) (left right : Value) : Value :=
  match left.toNumber, right.toNumber with
  | .ok a, .ok b => ofNumber? (operation a b)
  | _, _ => .undefined

def isText : Value → Bool
  | .text _ => true
  | _ => false

def combine (heap : Heap) (op : Label.BinaryOp) (left right : Value) : Value :=
  match op with
  | .add =>
      if left.isText || right.isText then .text (left.toText heap ++ right.toText heap)
      else arithmetic Number.add? left right
  | .sub => arithmetic Number.sub? left right
  | .mul => arithmetic Number.mul? left right
  | .div => arithmetic Number.div? left right
  | .mod => arithmetic Number.rem? left right
  | .equal => .bool (comparesAs Ordering.isEq left right)
  | .unequal => .bool (!comparesAs Ordering.isEq left right)
  | .less => .bool (comparesAs Ordering.isLT left right)
  | .lessEqual => .bool (comparesAs Ordering.isLE left right)
  | .greater => .bool (comparesAs Ordering.isGT left right)
  | .greaterEqual => .bool (comparesAs Ordering.isGE left right)
  | .and => .bool (left.isTruthy && right.isTruthy)
  | .or => .bool (left.isTruthy || right.isTruthy)

end Flowline.Value
