import Flowline.Random.Generator
import Flowline.Value.Convert
import Flowline.Value.Storage

set_option autoImplicit false

namespace Flowline

inductive MathFunction where
  | abs
  | ceiling
  | floor
  | sqrt
  | log
  | sin
  | cos
  | tan
  | cot
  | arcsin
  | arccos
  | arctan
  | arccot
deriving DecidableEq, Repr

def MathFunction.apply : MathFunction → Float → Float
  | .abs, x => x.abs
  | .ceiling, x => x.ceil
  | .floor, x => x.floor
  | .sqrt, x => x.sqrt
  | .log, x => Binary64.logarithm x
  | .sin, x => Binary64.sine x
  | .cos, x => Binary64.cosine x
  | .tan, x => Binary64.tangent x
  | .cot, x => 1.0 / Binary64.tangent x
  | .arcsin, x => Binary64.arcsine x
  | .arccos, x => Binary64.arccosine x
  | .arctan, x => Binary64.arctangent x
  | .arccot, x => Binary64.arctangent (1.0 / x)

inductive Function where
  | math (function : MathFunction)
  | max
  | min
  | random
  | toAscii
  | toCharacter
  | lengthOf
  | isArray
  | isGrid
  | isNumber
  | isString
  | isCharacter
  | isBoolean
deriving DecidableEq, Repr

namespace Function

def arity : Function → Arity
  | .max | .min => .atLeast 1
  | .random => .exactly 0
  | _ => .exactly 1

def named : List (String × Function) :=
  [("abs", .math .abs), ("ceiling", .math .ceiling), ("floor", .math .floor), ("sqrt", .math .sqrt),
    ("log", .math .log), ("sin", .math .sin), ("cos", .math .cos), ("tan", .math .tan), ("cot", .math .cot),
    ("arcsin", .math .arcsin), ("arccos", .math .arccos), ("arctan", .math .arctan),
    ("arccot", .math .arccot), ("max", .max), ("min", .min), ("random", .random), ("to_ascii", .toAscii),
    ("to_character", .toCharacter), ("length_of", .lengthOf), ("is_array", .isArray),
    ("is_2d_array", .isGrid), ("is_number", .isNumber), ("is_string", .isString),
    ("is_character", .isCharacter), ("is_boolean", .isBoolean)]

def select (choice : Number → Number → Number) (first : Number) : List Value → Except Fault Number
  | [] => .ok first
  | value :: rest =>
      match value.toNumber with
      | .ok number => select choice (choice first number) rest
      | .error fault => .error fault

def characterOf (code : Number) : Except Fault Value :=
  match code.whole? with
  | some whole =>
      if 0 ≤ whole ∧ whole.toNat.isValidChar then .ok (.text (String.singleton (Char.ofNat whole.toNat)))
      else .error (.invalidUnicode code)
  | none => .error (.invalidUnicode code)

def hasRank (heap : Heap) (rank : Nat) : Value → Bool
  | .array ref => (heap.storage? ref).any fun storage => storage.rank = rank
  | _ => false

def value (heap : Heap) (function : Function) (args : List Value) : Except Fault Value :=
  match function, args with
  | .math function, [x] => do
      let number ← x.toNumber
      return .ofNumber? (Number.ofFloat? (function.apply number.toFloat))
  | .max, first :: rest => do return .number (← select Number.max (← first.toNumber) rest)
  | .min, first :: rest => do return .number (← select Number.min (← first.toNumber) rest)
  | .toAscii, [.text text] =>
      .ok (.ofNumber? (text.toList.head?.bind fun c => Number.ofInt? c.toNat))
  | .toAscii, [x] => .error (.conversion x.kind .string)
  | .toCharacter, [x] => x.toNumber >>= characterOf
  | .lengthOf, [.text text] => .ok (.ofNumber? (Number.ofInt? text.length))
  | .lengthOf, [.array ref] =>
      .ok (.ofNumber? (Number.ofInt? (heap.lengthOf ref)))
  | .lengthOf, [x] => .error (.conversion x.kind .string)
  | .isArray, [x] => .ok (.bool (hasRank heap 1 x))
  | .isGrid, [x] => .ok (.bool (hasRank heap 2 x))
  | .isNumber, [x] => .ok (.bool (x.kind = .number))
  | .isString, [x] => .ok (.bool (x.kind = .string))
  | .isCharacter, [.text text] => .ok (.bool (text.length = 1))
  | .isCharacter, [_] => .ok (.bool false)
  | .isBoolean, [x] => .ok (.bool (x.kind = .boolean))
  | function, args => .error (.argCount "" function.arity args.length)

def apply (heap : Heap) (function : Function) (args : List Value) (draws : Generator) :
    Except Fault Value × Generator :=
  match function with
  | .random =>
      let (number, draws) := draws.draw
      (.ok (.number number), draws)
  | function => (function.value heap args, draws)

end Function

end Flowline
