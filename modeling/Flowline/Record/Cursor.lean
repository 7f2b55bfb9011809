import Flowline.Record.Fault

set_option autoImplicit false

namespace Flowline.Record

open Flowline.Graph

structure Cursor where
  rest : List UInt8
  position : Nat
deriving DecidableEq

def Cursor.ofBytes (bytes : List UInt8) : Cursor := ⟨bytes, 0⟩

def Cursor.isAtEnd (cursor : Cursor) : Bool := cursor.rest.isEmpty

abbrev Read (α : Type) := ExceptT Fault (StateM Cursor) α

namespace Read

def fail {α : Type} (fault : Fault) : Read α := fun cursor => (.error fault, cursor)

def lift {α : Type} (result : Except Fault α) : Read α := fun cursor => (result, cursor)

def position : Read Nat := fun cursor => (.ok cursor.position, cursor)

def split? {α : Type} : Nat → List α → Option (List α × List α)
  | 0, items => some ([], items)
  | _ + 1, [] => none
  | count + 1, item :: items =>
      match split? count items with
      | some (taken, rest) => some (item :: taken, rest)
      | none => none

def take (count : Nat) : Read (List UInt8) := fun cursor =>
  match split? count cursor.rest with
  | some (taken, rest) => (.ok taken, ⟨rest, cursor.position + count⟩)
  | none => (.error (.unexpectedEnd cursor.position count), cursor)

def littleEndian : List UInt8 → Nat
  | [] => 0
  | byte :: rest => byte.toNat + 256 * littleEndian rest

def natural (count : Nat) : Read Nat := do return littleEndian (← take count)

def uint8 : Read UInt8 := do return (← natural 1).toUInt8

def int8 : Read Int8 := do return (← natural 1).toUInt8.toInt8

def bool : Read Bool := do return (← uint8) ≠ 0

def uint16 : Read UInt16 := do return (← natural 2).toUInt16

def int16 : Read Int16 := do return (← natural 2).toUInt16.toInt16

def uint32 : Read UInt32 := do return (← natural 4).toUInt32

def int32 : Read Int32 := do return (← natural 4).toUInt32.toInt32

def uint64 : Read UInt64 := do return (← natural 8).toUInt64

def int64 : Read Int64 := do return (← natural 8).toUInt64.toInt64

def length : Read Nat := do
  let start ← position
  let value ← int32
  if value < 0 then fail (.negativeLength start value) else return value.toInt.toNat

-- Groups of seven bits, the low group first; a byte of 128 or more says that another group follows.
-- The last of five groups has three bits only.
def groups (start : Nat) : Nat → Nat → Nat → Read Nat
  | 0, _, _ => fail (.badLengthPrefix start)
  | left + 1, weight, value => do
      let byte ← uint8
      if left = 0 ∧ 8 ≤ byte then fail (.badLengthPrefix start)
      else
        let value := value + byte.toNat % 128 * weight
        if byte < 128 then return value else groups start left (128 * weight) value

def lengthPrefix : Read Nat := do
  let start ← position
  groups start 5 1 0

def string : Read String := do
  let count ← lengthPrefix
  let bytes ← take count
  return String.ofList (bytes.map fun byte => Char.ofNat byte.toNat)

def known {α : Type} (meaning : UInt8 → Option α) (unknown : Nat → UInt8 → Fault) : Read α := do
  let start ← position
  let byte ← uint8
  match meaning byte with
  | some value => return value
  | none => fail (unknown start byte)

def recordTag : Read RecordTag := known RecordTag.ofByte? .unknownRecordTag

def slotTag : Read SlotTag := known SlotTag.ofByte? .unknownSlotTag

def primitiveKind : Read PrimitiveKind := known primitiveKindOfByte? .unknownPrimitiveKind

def arrayShape : Read ArrayShape := known ArrayShape.ofByte? .unknownArrayShape

def slotType : SlotTag → Read SlotType
  | .primitive => do return .primitive (← primitiveKind)
  | .string => return .string
  | .object => return .object
  | .systemClass => do return .systemClass (← string)
  | .userClass => do
      let name ← string
      return .userClass name (← int32)
  | .objectArray => return .objectArray
  | .stringArray => return .stringArray
  | .primitiveArray => do return .primitiveArray (← primitiveKind)

def primitive (kind : PrimitiveKind) : Read Primitive := do
  let start ← position
  match kind with
  | .boolean => return .boolean (← bool)
  | .byte => return .byte (← uint8)
  | .sbyte => return .sbyte (← int8)
  | .int16 => return .int16 (← int16)
  | .uint16 => return .uint16 (← uint16)
  | .int32 => return .int32 (← int32)
  | .uint32 => return .uint32 (← uint32)
  | .int64 => return .int64 (← int64)
  | .uint64 => return .uint64 (← uint64)
  | .decimal => return .decimal (← int64)
  | .timeSpan => return .timeSpan (← int64)
  | .dateTime => return .dateTime (← uint64)
  | kind => fail (.unsupportedPrimitive start kind)

def many {α : Type} (count : Nat) (read : Read α) : Read (List α) :=
  match count with
  | 0 => return []
  | count + 1 => do
      let first ← read
      let others ← many count read
      return first :: others

def slotTypes : List SlotTag → Read (List SlotType)
  | [] => return []
  | tag :: tags => do
      let first ← slotType tag
      let others ← slotTypes tags
      return first :: others

end Read

end Flowline.Record
