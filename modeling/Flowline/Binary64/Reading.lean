import Flowline.Binary64.Basic
import Flowline.Text.Numeral

set_option autoImplicit false

namespace Flowline.Binary64

open Text (digitsValue)

def ofDigits (whole fraction : List Char) (exponent : Int) : UInt64 :=
  ofDecimal (digitsValue (whole ++ fraction)) (exponent - fraction.length)

def takeSign : List Char → Bool × List Char
  | '-' :: rest => (true, rest)
  | '+' :: rest => (false, rest)
  | text => (false, text)

def readExponent? : List Char → Option Int
  | [] => some 0
  | marker :: text =>
      if marker = 'e' ∨ marker = 'E' then
        let (negative, digits) := takeSign text
        if digits ≠ [] ∧ digits.all Char.isDigit then
          let size : Int := digitsValue digits
          some (if negative then -size else size)
        else none
      else none

def readDecimal? (text : List Char) : Option UInt64 :=
  let (negative, text) := takeSign text
  let whole := text.takeWhile Char.isDigit
  let rest := text.dropWhile Char.isDigit
  let (fraction, rest) :=
    match rest with
    | '.' :: rest => (rest.takeWhile Char.isDigit, rest.dropWhile Char.isDigit)
    | rest => ([], rest)
  if whole = [] ∧ fraction = [] then none
  else (readExponent? rest).map fun exponent => signed negative (ofDigits whole fraction exponent)

def digitIn? (base : Nat) (c : Char) : Option Nat :=
  let value :=
    if c.isDigit then c.toNat - 48
    else if 'a' ≤ c ∧ c ≤ 'z' then c.toNat - 87
    else if 'A' ≤ c ∧ c ≤ 'Z' then c.toNat - 55
    else base
  if value < base then some value else none

def readWhole? (base : Nat) (text : List Char) : Option Int :=
  let (negative, digits) := takeSign text
  if digits = [] then none
  else (digits.mapM (digitIn? base)).bind fun values =>
    let size : Nat := values.foldl (fun value d => base * value + d) 0
    let value : Int := if negative then -size else size
    if -0x8000000000000000 ≤ value ∧ value < 0x8000000000000000 then some value else none

def read? (text : List Char) : Option UInt64 :=
  match text with
  | '0' :: 'x' :: rest | '0' :: 'X' :: rest => (readWhole? 16 rest).map ofInt
  | '0' :: 'o' :: rest | '0' :: 'O' :: rest => (readWhole? 8 rest).map ofInt
  | '0' :: 'b' :: rest | '0' :: 'B' :: rest => (readWhole? 2 rest).map ofInt
  | text => readDecimal? text

end Flowline.Binary64
