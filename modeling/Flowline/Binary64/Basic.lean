set_option autoImplicit false

namespace Flowline.Binary64

def isFinite (bits : UInt64) : Bool := bits &&& 0x7FF0000000000000 != 0x7FF0000000000000

def isNaN (bits : UInt64) : Bool := !isFinite bits && bits &&& 0x000FFFFFFFFFFFFF != 0

def isNegative (bits : UInt64) : Bool := bits &&& 0x8000000000000000 != 0

def magnitude (bits : UInt64) : UInt64 := bits &&& 0x7FFFFFFFFFFFFFFF

def exponentField (bits : UInt64) : Nat := (magnitude bits >>> 52).toNat

-- The leading bit of a significand, which words do not hold unless their exponent field is zero.
def hiddenBit : Nat := 0x10000000000000

def significand (bits : UInt64) : Nat :=
  let fraction := (bits &&& 0x000FFFFFFFFFFFFF).toNat
  if exponentField bits = 0 then fraction else hiddenBit + fraction

def lastPlace (bits : UInt64) : Int := max (exponentField bits) 1 - 1075

-- The whole number nearest to a quotient; a half goes to the even neighbour.
def nearest (num den : Nat) : Nat :=
  let floor := num / den
  let twice := 2 * (num % den)
  if den < twice ∨ (den = twice ∧ floor % 2 = 1) then floor + 1 else floor

def scaled (significand : Nat) (exponent : Int) : Nat × Nat :=
  (significand * Nat.pow 2 exponent.toNat, Nat.pow 2 (-exponent).toNat)

def infinity : UInt64 := 0x7FF0000000000000

def negativeZero : UInt64 := 0x8000000000000000

def ofRatio (num den : Nat) : UInt64 :=
  if num = 0 then 0
  else
    let coarse : Int := (num.log2 : Int) - den.log2 - 53
    let quotient := scaled num (-coarse)
    let place := if quotient.1 / (den * quotient.2) < 2 * hiddenBit then coarse else coarse + 1
    let place := max place (-1074)
    let units := scaled num (-place)
    let whole := nearest units.1 (den * units.2)
    let word := (place + 1074).toNat * hiddenBit + whole
    if infinity.toNat ≤ word then infinity else word.toUInt64

def signed (negative : Bool) (bits : UInt64) : UInt64 :=
  if negative then bits ||| 0x8000000000000000 else bits

def ofInt (value : Int) : UInt64 := signed (value < 0) (ofRatio value.natAbs 1)

-- The word nearest to a decimal, given by its digits as a whole number and a power of ten. Powers far
-- outside the range of doubles are not worked out.
def ofDecimal (digits : Nat) (exponent : Int) : UInt64 :=
  if digits = 0 then 0
  else
    let position := (digits.log2 : Int) * 30103 / 100000 + exponent
    if position < -400 then 0
    else if 400 < position then infinity
    else ofRatio (digits * Nat.pow 10 exponent.toNat) (Nat.pow 10 (-exponent).toNat)

def remainder (left right : UInt64) : UInt64 :=
  let place := min (lastPlace left) (lastPlace right)
  let units := fun bits => significand bits * Nat.pow 2 (lastPlace bits - place).toNat
  let rest := scaled (units left % units right) place
  signed (isNegative left) (ofRatio rest.1 rest.2)

def whole? (bits : UInt64) : Option Int :=
  let value := scaled (significand bits) (lastPlace bits)
  if value.1 % value.2 = 0 then
    let size : Int := value.1 / value.2
    some (if isNegative bits then -size else size)
  else none

end Flowline.Binary64
