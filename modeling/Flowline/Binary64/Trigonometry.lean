import Flowline.Binary64.Angle

set_option autoImplicit false

namespace Flowline.Binary64

def polynomial (x : Float) : List UInt64 → Float
  | [] => 0
  | [last] => Float.ofBits last
  | coefficient :: rest => Float.ofBits coefficient + x * polynomial x rest

-- The sine of an angle of at most an eighth turn; `tail` corrects the angle.
def sineNear (x tail : Float) (corrected : Bool) : Float :=
  let first := Float.ofBits 0xBFC5555555555549
  let z := x * x
  let w := z * z
  let r := polynomial z [0x3F8111111110F8A6, 0xBF2A01A019C161D5, 0x3EC71DE357B1FE7D] +
    z * w * polynomial z [0xBE5AE5E68A2B9CEB, 0x3DE5D93A5ACFD57C]
  let v := z * x
  if corrected then x - ((z * (0.5 * tail - v * r) - tail) - v * first)
  else x + v * (first + z * r)

def cosineNear (x tail : Float) : Float :=
  let z := x * x
  let w := z * z
  let r := z * polynomial z [0x3FA555555555554C, 0xBF56C16C16C15177, 0x3EFA01A019CB1590] +
    w * w * polynomial z [0xBE927E4F809C52AD, 0x3E21EE9EBDB4B1C4, 0xBDA8FAE9BE8838D4]
  let half := 0.5 * z
  let lead := 1.0 - half
  lead + (((1.0 - lead) - half) + (z * r - x * tail))

def tangentNear (x tail : Float) (reciprocal : Bool) : Float :=
  let big := decide (0x3FE59428 ≤ upper x)
  let negative := isNegative x.toBits
  let eighth := Float.ofBits 0x3FE921FB54442D18
  let eighthTail := Float.ofBits 0x3C81A62633145C07
  let x' := if big then (eighth - (if negative then -x else x)) + (eighthTail - (if negative then -tail else tail)) else x
  let tail' := if big then 0 else tail
  let z := x' * x'
  let w := z * z
  let odd := polynomial w
    [0x3FC111111110FE7A, 0x3F9664F48406D637, 0x3F6D6D22C9560328, 0x3F4344D8F2F26501, 0x3F147E88A03792A6,
      0xBEF375CBDB605373]
  let even := z * polynomial w
    [0x3FABA1BA1BB341FE, 0x3F8226E3E96E8493, 0x3F57DBC8FEE08315, 0x3F3026F71A8D1068, 0x3F12B80F32F0A7E9,
      0x3EFB2A7074BF7AD4]
  let s := z * x'
  let r := tail' + z * (s * (odd + even) + tail') + s * Float.ofBits 0x3FD5555555555563
  let w := x' + r
  if big then
    let s : Float := if reciprocal then -1 else 1
    let v := s - 2.0 * (x' + (r - w * w / (w + s)))
    if negative then -v else v
  else if !reciprocal then w
  else
    let w0 := coarse w
    let v := r - (w0 - x')
    let a := -1.0 / w
    let a0 := coarse a
    a0 + a * (1.0 + a0 * w0 + a0 * v)

def sine (x : Float) : Float :=
  if upper x ≤ 0x3FE921FB then
    if upper x < 0x3E500000 then x else sineNear x 0 false
  else
    let t := turned x
    match t.quarters % 4 with
    | 0 => sineNear t.lead t.tail true
    | 1 => cosineNear t.lead t.tail
    | 2 => -sineNear t.lead t.tail true
    | _ => -cosineNear t.lead t.tail

def cosine (x : Float) : Float :=
  if upper x ≤ 0x3FE921FB then
    if upper x < 0x3E46A09E then 1 else cosineNear x 0
  else
    let t := turned x
    match t.quarters % 4 with
    | 0 => cosineNear t.lead t.tail
    | 1 => -sineNear t.lead t.tail true
    | 2 => -cosineNear t.lead t.tail
    | _ => sineNear t.lead t.tail true

def tangent (x : Float) : Float :=
  if upper x ≤ 0x3FE921FB then
    if upper x < 0x3E400000 then x else tangentNear x 0 false
  else
    let t := turned x
    tangentNear t.lead t.tail (t.quarters % 2 = 1)

def quarterTurn : Float := Float.ofBits 0x3FF921FB54442D18

def quarterTurnTail : Float := Float.ofBits 0x3C91A62633145C07

-- The part of the inverse sine beyond its argument, as a fraction of it, for the square of the argument.
def arcsineExcess (z : Float) : Float :=
  let p := z * polynomial z
    [0x3FC5555555555555, 0xBFD4D61203EB6F7D, 0x3FC9C1550E884455, 0xBFA48228B5688F3B, 0x3F49EFE07501B288,
      0x3F023DE10DFDF709]
  let q := polynomial z
    [0x3FF0000000000000, 0xC0033A271C8A2D4B, 0x40002AE59C598AC8, 0xBFE6066C1B8D0159, 0x3FB3B8C5B12E9282]
  p / q

def isUnit (x : Float) : Bool := magnitude x.toBits = 0x3FF0000000000000

def arcsine (x : Float) : Float :=
  if 0x3FF00000 ≤ upper x then
    if isUnit x then x * quarterTurn else 0 / (x - x)
  else if upper x < 0x3FE00000 then
    if upper x < 0x3E500000 then x else x + x * arcsineExcess (x * x)
  else
    let z := (1.0 - x.abs) * 0.5
    let s := z.sqrt
    let r := arcsineExcess z
    let angle :=
      if 0x3FEF3333 ≤ upper x then quarterTurn - (2.0 * (s + s * r) - quarterTurnTail)
      else
        let f := coarse s
        let c := (z - f * f) / (s + f)
        0.5 * quarterTurn - (2.0 * s * r - (quarterTurnTail - 2.0 * c) - (0.5 * quarterTurn - 2.0 * f))
    if isNegative x.toBits then -angle else angle

def arccosine (x : Float) : Float :=
  if 0x3FF00000 ≤ upper x then
    if isUnit x then (if isNegative x.toBits then 2.0 * quarterTurn else 0) else 0 / (x - x)
  else if upper x < 0x3FE00000 then
    if upper x ≤ 0x3C600000 then quarterTurn
    else quarterTurn - (x - (quarterTurnTail - x * arcsineExcess (x * x)))
  else if isNegative x.toBits then
    let z := (1.0 + x) * 0.5
    let s := z.sqrt
    let w := arcsineExcess z * s - quarterTurnTail
    2.0 * (quarterTurn - (s + w))
  else
    let z := (1.0 - x) * 0.5
    let s := z.sqrt
    let f := coarse s
    let c := (z - f * f) / (s + f)
    let w := arcsineExcess z * s + c
    2.0 * (f + w)

-- An argument of the inverse tangent brought near zero, with the two parts of the angle to be added
-- back; none if it is near zero already.
def arctangentReduced (x : Float) : Float × Option (Float × Float) :=
  if upper x < 0x3FDC0000 then (x, none)
  else
    let x := x.abs
    if upper x < 0x3FE60000 then
      ((2.0 * x - 1.0) / (2.0 + x), some (Float.ofBits 0x3FDDAC670561BB4F, Float.ofBits 0x3C7A2B7F222F65E2))
    else if upper x < 0x3FF30000 then
      ((x - 1.0) / (x + 1.0), some (Float.ofBits 0x3FE921FB54442D18, Float.ofBits 0x3C81A62633145C07))
    else if upper x < 0x40038000 then
      ((x - 1.5) / (1.0 + 1.5 * x), some (Float.ofBits 0x3FEF730BD281F69B, Float.ofBits 0x3C7007887AF0CBBD))
    else (-1.0 / x, some (Float.ofBits 0x3FF921FB54442D18, Float.ofBits 0x3C91A62633145C07))

def arctangent (x : Float) : Float :=
  let negative := isNegative x.toBits
  if 0x44100000 ≤ upper x then (if negative then -quarterTurn else quarterTurn)
  else if upper x < 0x3E400000 then x
  else
    let (y, base) := arctangentReduced x
    let z := y * y
    let w := z * z
    let s1 := z * polynomial w
      [0x3FD555555555550D, 0x3FC24924920083FF, 0x3FB745CDC54C206E, 0x3FB10D66A0D03D51, 0x3FA97B4B24760DEB,
        0x3F90AD3AE322DA11]
    let s2 := w * polynomial w
      [0xBFC999999998EBC4, 0xBFBC71C6FE231671, 0xBFB3B0F2AF749A6D, 0xBFADDE2D52DEFD9A, 0xBFA2B4442C6A6C2F]
    match base with
    | none => y - y * (s1 + s2)
    | some (lead, tail) =>
        let angle := lead - (y * (s1 + s2) - tail - y)
        if negative then -angle else angle

def logarithmPositive (x : Float) : Float :=
  let tiny := upper x < 0x00100000
  let x := if tiny then x * Float.ofBits 0x4350000000000000 else x
  if x.toBits = 0x3FF0000000000000 then 0
  else
    let shifted := upper x + (0x3FF00000 - 0x3FE6A09E)
    let k : Int := (shifted >>> 20 : Nat) - (0x3FF : Int) - (if tiny then 54 else 0)
    let high := shifted % 0x100000 + 0x3FE6A09E
    let m := Float.ofBits ((high.toUInt64 <<< 32) ||| (x.toBits &&& 0xFFFFFFFF))
    let f := m - 1.0
    let half := 0.5 * f * f
    let s := f / (2.0 + f)
    let z := s * s
    let w := z * z
    let t1 := w * polynomial w [0x3FD999999997FA04, 0x3FCC71C51D8E78AF, 0x3FC39A09D078C69F]
    let t2 := z * polynomial w
      [0x3FE5555555555593, 0x3FD2492494229359, 0x3FC7466496CB03DE, 0x3FC2F112DF3E5244]
    let r := t2 + t1
    let power := Float.ofInt k
    s * (half + r) + power * Float.ofBits 0x3DEA39EF35793C76 - half + f + power * Float.ofBits 0x3FE62E42FEE00000

def logarithm (x : Float) : Float :=
  if magnitude x.toBits = 0 then -1.0 / (x * x)
  else if isNegative x.toBits then (x - x) / 0.0
  else logarithmPositive x

end Flowline.Binary64
