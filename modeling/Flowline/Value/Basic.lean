import Flowline.Number.Text

set_option autoImplicit false

namespace Flowline

inductive Kind where
  | undefined
  | boolean
  | number
  | string
  | array
deriving DecidableEq, Repr

def Kind.shown : Kind → String
  | .undefined => "undefined"
  | .boolean => "boolean"
  | .number => "number"
  | .string => "string"
  | .array => "array"

-- A value. Two values are the same when they are equal as data; arrays when they share their storage.
inductive Value where
  | undefined
  | bool (value : Bool)
  | number (value : Number)
  | text (value : String)
  | array (ref : Nat)
deriving DecidableEq

namespace Value

instance : Inhabited Value := ⟨.undefined⟩

def kind : Value → Kind
  | .undefined => .undefined
  | .bool _ => .boolean
  | .number _ => .number
  | .text _ => .string
  | .array _ => .array

def isTruthy : Value → Bool
  | .undefined => false
  | .bool value => value
  | .number value => value ≠ Number.zero
  | .text value => !value.isEmpty
  | .array _ => true

def ofNumber? : Option Number → Value
  | some value => .number value
  | none => .undefined

end Value

end Flowline
