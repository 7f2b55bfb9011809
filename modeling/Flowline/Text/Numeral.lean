set_option autoImplicit false

namespace Flowline.Text

def digitValue (c : Char) : Nat := c.toNat - 48

def digitsValue (digits : List Char) : Nat := digits.foldl (fun value c => 10 * value + digitValue c) 0

def wordLimit : Nat := 0x10000000000000000

def naturalBelow? (limit : Nat) (text : List Char) : Option Nat :=
  if text ≠ [] ∧ text.all Char.isDigit ∧ digitsValue text < limit then some (digitsValue text) else none

end Flowline.Text
