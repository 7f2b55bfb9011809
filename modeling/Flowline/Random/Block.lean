set_option autoImplicit false

namespace Flowline.Random

def rotateLeft (word : UInt32) (count : UInt32) : UInt32 := (word <<< count) ||| (word >>> (32 - count))

def quarterRound (words : Array UInt32) (places : Nat × Nat × Nat × Nat) : Array UInt32 :=
  let (i, j, k, l) := places
  let a := words.getD i 0
  let b := words.getD j 0
  let c := words.getD k 0
  let d := words.getD l 0
  let a := a + b
  let d := rotateLeft (d ^^^ a) 16
  let c := c + d
  let b := rotateLeft (b ^^^ c) 12
  let a := a + b
  let d := rotateLeft (d ^^^ a) 8
  let c := c + d
  let b := rotateLeft (b ^^^ c) 7
  (((words.setIfInBounds i a).setIfInBounds j b).setIfInBounds k c).setIfInBounds l d

-- The columns and then the diagonals of the four by four square of words.
def doublePlaces : List (Nat × Nat × Nat × Nat) :=
  [(0, 4, 8, 12), (1, 5, 9, 13), (2, 6, 10, 14), (3, 7, 11, 15),
    (0, 5, 10, 15), (1, 6, 11, 12), (2, 7, 8, 13), (3, 4, 9, 14)]

def doubleRound (words : Array UInt32) : Array UInt32 := doublePlaces.foldl quarterRound words

-- Four constants, eight words of key, a counter of 64 bits and a stream number of zero.
def initial (key : List UInt32) (counter : Nat) : Array UInt32 :=
  #[0x61707865, 0x3320646E, 0x79622D32, 0x6B206574] ++ key.toArray ++
    #[counter.toUInt32, (counter / 0x100000000).toUInt32, 0, 0]

def block (key : List UInt32) (counter : Nat) : Array UInt32 :=
  let start := initial key counter
  let stirred := doubleRound (doubleRound (doubleRound (doubleRound start)))
  stirred.zipWith (fun a b => a + b) start

end Flowline.Random
