import Flowline.Binary64.Basic

set_option autoImplicit false

namespace Flowline.Binary64

inductive Tie where
  | even
  | up

structure Decimal where
  digits : List Nat
  point : Int

-- How a decimal is laid out: with the point among its digits or zeros while the point's position is
-- within the bounds, otherwise with a power of ten.
structure Layout where
  least : Option Int
  most : Option Int
  tie : Tie

def decimalExponent (num den : Nat) : Int :=
  let estimate := ((num.log2 : Int) - den.log2) * 30103 / 100000 - 1
  let above := fun (exponent : Int) =>
    decide (den * Nat.pow 10 exponent.toNat ≤ num * Nat.pow 10 (-exponent).toNat)
  (List.range 3).foldl (fun exponent _ => if above (exponent + 1) then exponent + 1 else exponent) estimate

-- The reals that round to a word, as three quotients over one denominator: the lower end, the value
-- and the upper end.
def interval (bits : UInt64) : Nat × Nat × Nat × Nat :=
  let m := significand bits
  let atBinade := m = hiddenBit ∧ 1 < exponentField bits
  let unit := scaled 1 (lastPlace bits - 2)
  ((4 * m - if atBinade then 1 else 2) * unit.1, 4 * m * unit.1, (4 * m + 2) * unit.1, unit.2)

-- The multiple of a power of ten that stands for the word on that grid, if one of the two neighbours
-- of its value reads back as it.
def onGrid? (tie : Tie) (bits : UInt64) (place : Int) : Option Nat :=
  let (low, value, high, unit) := interval bits
  let up := Nat.pow 10 place.toNat
  let down := Nat.pow 10 (-place).toNat
  let inclusive := significand bits % 2 = 0
  let size := fun (k : Nat) => k * up * unit
  let reads := fun (k : Nat) =>
    decide (if inclusive then low * down ≤ size k ∧ size k ≤ high * down
      else low * down < size k ∧ size k < high * down)
  let below := value * down / (up * unit)
  match reads below, reads (below + 1) with
  | false, false => none
  | true, false => some below
  | false, true => some (below + 1)
  | true, true =>
      let lower := value * down - size below
      let upper := size (below + 1) - value * down
      if lower < upper then some below
      else if upper < lower then some (below + 1)
      else match tie with
        | .even => some (if below % 2 = 0 then below else below + 1)
        | .up => some (below + 1)

-- The shortest decimal that reads back as a positive finite word. Seventeen digits are always enough.
def shortest (tie : Tie) (bits : UInt64) : Decimal :=
  let (_, value, _, unit) := interval bits
  let exponent := decimalExponent value unit
  let found := (List.range 17).findSome? fun (count : Nat) =>
    let place := exponent - count
    (onGrid? tie bits place).map fun k => (k, place)
  let (k, place) := found.getD (0, 0)
  let digits := (Nat.toDigits 10 k).map fun c => c.toNat - 48
  let kept := (digits.reverse.dropWhile (· = 0)).reverse
  ⟨kept, place + digits.length⟩

def digitChars (digits : List Nat) : List Char := digits.map fun d => Char.ofNat (48 + d)

def Decimal.write (layout : Layout) (decimal : Decimal) : List Char :=
  let count := decimal.digits.length
  let positional := layout.least.all (· ≤ decimal.point) && layout.most.all (decimal.point ≤ ·)
  if positional then
    if decimal.point ≤ 0 then
      '0' :: '.' :: (List.replicate (-decimal.point).toNat '0' ++ digitChars decimal.digits)
    else
      let whole := decimal.point.toNat
      let before := digitChars (decimal.digits.take whole) ++ List.replicate (whole - count) '0'
      match decimal.digits.drop whole with
      | [] => before
      | after => before ++ '.' :: digitChars after
  else
    let exponent := 'e' :: (toString (decimal.point - 1)).toList
    match decimal.digits with
    | [] => exponent
    | [first] => digitChars [first] ++ exponent
    | first :: after => digitChars [first] ++ '.' :: digitChars after ++ exponent

def write (layout : Layout) (bits : UInt64) : String :=
  if magnitude bits = 0 then "0"
  else
    let text := (shortest layout.tie (magnitude bits)).write layout
    String.ofList (if isNegative bits then '-' :: text else text)

end Flowline.Binary64
