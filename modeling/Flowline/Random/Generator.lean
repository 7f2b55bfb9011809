import Flowline.Number.Basic
import Flowline.Random.Block

set_option autoImplicit false

namespace Flowline

structure Generator where
  key : List UInt32
  drawn : Nat
deriving DecidableEq

namespace Generator

def keyWord (state : UInt64) : UInt32 :=
  let mixed := (((state >>> 18) ^^^ state) >>> 27).toUInt32
  let turn := (state >>> 59).toUInt32
  (mixed >>> turn) ||| (mixed <<< ((32 - turn) % 32))

def keyWords (state : UInt64) : Nat → List UInt32
  | 0 => []
  | count + 1 =>
      let state := state * 6364136223846793005 + 11634580027462260723
      keyWord state :: keyWords state count

def ofSeed (seed : UInt64) : Generator := ⟨keyWords seed 8, 0⟩

def word (generator : Generator) : UInt64 :=
  let words := Random.block generator.key (generator.drawn / 8)
  let place := 2 * (generator.drawn % 8)
  (words.getD place 0).toUInt64 ||| ((words.getD (place + 1) 0).toUInt64 <<< 32)

def draw (generator : Generator) : Number × Generator :=
  let bits := Binary64.ofRatio (generator.word >>> 11).toNat 0x20000000000000
  ((Number.ofBits? bits).getD Number.zero, { generator with drawn := generator.drawn + 1 })

end Generator

end Flowline
