set_option autoImplicit false

namespace Flowline.Text

def within : List (Nat × Nat) → Nat → Bool
  | [], _ => false
  | (low, high) :: rest, point => !(point < low) && (point ≤ high || within rest point)

-- The code points with the Unicode property White_Space.
def blankRanges : List (Nat × Nat) := [
  (0x9, 0xD), (0x20, 0x20), (0x85, 0x85), (0xA0, 0xA0), (0x1680, 0x1680), (0x2000, 0x200A), (0x2028, 0x2029),
  (0x202F, 0x202F), (0x205F, 0x205F), (0x3000, 0x3000)]

def isBlank (c : Char) : Bool := within blankRanges c.toNat

def trim (text : List Char) : List Char :=
  ((text.dropWhile isBlank).reverse.dropWhile isBlank).reverse

end Flowline.Text
