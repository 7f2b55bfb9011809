import Flowline.Binary64.Trigonometry

set_option autoImplicit false

namespace Flowline

structure Number where
  bits : UInt64
  finite : Binary64.isFinite bits = true
  notNegativeZero : bits ≠ Binary64.negativeZero
deriving DecidableEq

namespace Number

inductive Fault where
  | notANumber
  | infinite
deriving DecidableEq, Repr

def zero : Number := ⟨0, by decide, by decide⟩

def ofBits (bits : UInt64) : Except Fault Number :=
  if finite : Binary64.isFinite bits = true then
    if same : bits = Binary64.negativeZero then .ok zero else .ok ⟨bits, finite, same⟩
  else if Binary64.isNaN bits then .error .notANumber
  else .error .infinite

def ofBits? (bits : UInt64) : Option Number := (ofBits bits).toOption

def toFloat (n : Number) : Float := Float.ofBits n.bits

def ofFloat? (x : Float) : Option Number := ofBits? x.toBits

instance : Inhabited Number := ⟨zero⟩

def rank (n : Number) : Int :=
  let size : Int := (Binary64.magnitude n.bits).toNat
  if Binary64.isNegative n.bits then -size else size

instance : Ord Number := ⟨fun left right => compare left.rank right.rank⟩

instance : LT Number := ⟨fun left right => left.rank < right.rank⟩

instance (left right : Number) : Decidable (left < right) :=
  inferInstanceAs (Decidable (left.rank < right.rank))

def isNegative (n : Number) : Bool := n.rank < 0

def neg (n : Number) : Number := (ofBits? (n.bits ^^^ Binary64.negativeZero)).getD n

def whole? (n : Number) : Option Int := Binary64.whole? n.bits

def ofInt? (value : Int) : Option Number := ofBits? (Binary64.ofInt value)

-- Arithmetic gives no number where the exact rules of doubles give an infinity or a NaN.
def add? (left right : Number) : Option Number := ofFloat? (left.toFloat + right.toFloat)

def sub? (left right : Number) : Option Number := ofFloat? (left.toFloat - right.toFloat)

def mul? (left right : Number) : Option Number := ofFloat? (left.toFloat * right.toFloat)

def div? (left right : Number) : Option Number := ofFloat? (left.toFloat / right.toFloat)

def rem? (left right : Number) : Option Number :=
  if right = zero then none else ofBits? (Binary64.remainder left.bits right.bits)

def max (left right : Number) : Number := if left < right then right else left

def min (left right : Number) : Number := if right < left then right else left

end Number

end Flowline
