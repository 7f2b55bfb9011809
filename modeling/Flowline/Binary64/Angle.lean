import Flowline.Binary64.Basic

set_option autoImplicit false

namespace Flowline.Binary64

def upper (x : Float) : Nat := (magnitude x.toBits >>> 32).toNat

def coarse (x : Float) : Float := Float.ofBits (x.toBits &&& 0xFFFFFFFF00000000)

structure Turned where
  quarters : Int
  lead : Float
  tail : Float

def quartersPerUnit : Float := Float.ofBits 0x3FE45F306DC9C883

-- A quarter turn in three steps of 33 bits, each with what is still missing after it.
def quarter1 : Float := Float.ofBits 0x3FF921FB54400000
def quarter1Tail : Float := Float.ofBits 0x3DD0B4611A626331
def quarter2 : Float := Float.ofBits 0x3DD0B4611A600000
def quarter2Tail : Float := Float.ofBits 0x3BA3198A2E037073
def quarter3 : Float := Float.ofBits 0x3BA3198A2E000000
def quarter3Tail : Float := Float.ofBits 0x397B839A252049C1

-- Adding and taking away this number rounds to a whole number.
def wholeShift : Float := Float.ofBits 0x4338000000000000

def turnedBy (x : Float) (quarters : Nat) : Turned :=
  let count := Float.ofNat quarters
  if x < 0 then
    let z := x + count * quarter1
    let lead := z + count * quarter1Tail
    ⟨-(quarters : Int), lead, (z - lead) + count * quarter1Tail⟩
  else
    let z := x - count * quarter1
    let lead := z - count * quarter1Tail
    ⟨quarters, lead, (z - lead) - count * quarter1Tail⟩

def turnedMedium (x : Float) : Turned :=
  let count := x * quartersPerUnit + wholeShift - wholeShift
  let quarters := (whole? count.toBits).getD 0
  let exponent : Int := exponentField x.toBits
  let lost := fun (lead : Float) => exponent - exponentField lead.toBits
  let rest1 := x - count * quarter1
  let off1 := count * quarter1Tail
  let lead1 := rest1 - off1
  if lost lead1 ≤ 16 then ⟨quarters, lead1, (rest1 - lead1) - off1⟩
  else
    let step2 := count * quarter2
    let rest2 := rest1 - step2
    let off2 := count * quarter2Tail - ((rest1 - rest2) - step2)
    let lead2 := rest2 - off2
    if lost lead2 ≤ 49 then ⟨quarters, lead2, (rest2 - lead2) - off2⟩
    else
      let step3 := count * quarter3
      let rest3 := rest2 - step3
      let off3 := count * quarter3Tail - ((rest2 - rest3) - step3)
      let lead3 := rest3 - off3
      ⟨quarters, lead3, (rest3 - lead3) - off3⟩

-- The first 66 places of the reciprocal of a quarter turn in base `2^24`, as one whole number.
def reciprocalPlaces : Nat :=
  0xA2F9836E4E441529FC2757D1F534DDC0DB6295993C439041FE5163ABDEBBC561B7246E3A424DD2E006492EEA09D1921CFE1DEB1CB129A73EE88235F52EBB4484E99C7026B45F7E413991D639835339F49C845F8BBDF9283B1FF897FFDE05980FEF2F118B5A0A6D1F6D367ECF27CB09B74F463F669E5FEA2D7527BAC7EBE5F17B3D0739F78A5292EA6BFB5FB11F8D5D0856033046FC7B6BABF0CFBC209AF4361DA9E391615EE61B086599855F14A068408DFFD8804D73273106061556CA73A8C960E27BC08C6B

def reciprocalPlace (index : Nat) : Nat := (reciprocalPlaces >>> (24 * (65 - index))) % 0x1000000

def places24 (value : Nat) : List Nat :=
  ((List.range 70).map fun index => (value >>> (24 * (69 - index))) % 0x1000000).dropWhile (· = 0)

def quarterPlaces : List Float :=
  [0x3FF921FB40000000, 0x3E74442D00000000, 0x3CF8469880000000, 0x3B78CC5160000000, 0x39F01B8380000000].map
    Float.ofBits

def scaledPlace (value : Nat) (exponent : Int) : Float :=
  Float.ofBits (ofRatio (scaled value exponent).1 (scaled value exponent).2)

def significandPlaces (bits : UInt64) : List Nat :=
  let m := significand bits * 0x80000
  ([m >>> 48, (m >>> 24) % 0x1000000, m % 0x1000000].reverse.dropWhile (· = 0)).reverse

def quarterProduct (digits : List Nat) (skipped count : Nat) : Nat :=
  (List.range (count + 1)).foldl (fun total index =>
    let term := digits.zipIdx.foldl (fun sum entry =>
      if entry.2 ≤ skipped + index then sum + entry.1 * reciprocalPlace (skipped + index - entry.2)
      else sum) 0
    total * 0x1000000 + term) 0

-- The whole quarter turns modulo eight and the fraction nearest to a whole, whether it lies below it,
-- and the power of two that the fraction is counted in, with a number of places.
def quarterFraction (digits : List Nat) (skipped : Nat) (shift : Int) (count : Nat) : Nat × Nat × Bool × Nat :=
  let total := quarterProduct digits skipped count
  let unit := (24 * (count : Int) - shift).toNat
  let whole := (total >>> unit) % 8
  let fraction := total % Nat.pow 2 unit
  if Nat.pow 2 unit ≤ 2 * fraction then (whole + 1, Nat.pow 2 unit - fraction, true, unit)
  else (whole, fraction, false, unit)

def settledFraction (digits : List Nat) (skipped : Nat) (shift : Int) :
    Nat → Nat → Nat × Nat × Bool × Nat
  | 0, count => quarterFraction digits skipped shift count
  | tries + 1, count =>
      let found := quarterFraction digits skipped shift count
      if found.2.1 < 0x1000000000000000000000000 then
        settledFraction digits skipped shift tries (count + (5 - (places24 found.2.1).length))
      else found

def turnedLarge (x : Float) : Turned :=
  let bits := magnitude x.toBits
  let digits := significandPlaces bits
  let exponent : Int := (exponentField bits : Int) - 1046
  let skipped := ((exponent - 3) / 24).toNat
  let shift := exponent - 24 * ((skipped : Int) + 1)
  let (quarters, fraction, below, unit) := settledFraction digits skipped shift 20 4
  let places := places24 fraction
  let terms := places.zipIdx.map fun entry =>
    scaledPlace entry.1 (24 * ((places.length : Int) - 1 - entry.2) - unit)
  let products := (List.range terms.length).map fun index =>
    (quarterPlaces.zip ((terms.take (index + 1)).reverse)).foldl (fun sum pair => sum + pair.1 * pair.2) 0
  let lead := products.reverse.foldl (fun sum term => sum + term) 0
  let tail := (products.drop 1).foldl (fun sum term => sum + term) (products.headD 0 - lead)
  let turned : Turned := if below then ⟨quarters, -lead, -tail⟩ else ⟨quarters, lead, tail⟩
  if x < 0 then ⟨-turned.quarters, -turned.lead, -turned.tail⟩ else turned

def turned (x : Float) : Turned :=
  let size := upper x
  if size ≤ 0x400F6A7A then
    if size % 0x100000 = 0x921FB then turnedMedium x
    else turnedBy x (if size ≤ 0x4002D97C then 1 else 2)
  else if size ≤ 0x401C463B then
    if size ≤ 0x4015FDBC then (if size = 0x4012D97C then turnedMedium x else turnedBy x 3)
    else if size = 0x401921FB then turnedMedium x
    else turnedBy x 4
  else if size < 0x413921FB then turnedMedium x
  else turnedLarge x

end Flowline.Binary64
