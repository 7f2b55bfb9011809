import Flowline.Graph.Object

set_option autoImplicit false

namespace Flowline.Record

open Flowline.Graph

inductive RecordTag where
  | header
  | object
  | classUntyped
  | classUntypedInLibrary
  | systemClass
  | libraryClass
  | string
  | array
  | primitive
  | reference
  | null
  | messageEnd
  | library
  | nullsShort
  | nulls
  | primitiveArray
  | objectArray
  | stringArray
  | domainMap
  | domainString
  | domainLibrary
  | methodCall
  | methodReturn
deriving DecidableEq, Repr

namespace RecordTag

-- The kinds in the order of their bytes, with the names they have in messages.
def named : List (RecordTag × String) :=
  [(.header, "SerializedStreamHeader"), (.object, "Object"), (.classUntyped, "ObjectWithMap"),
    (.classUntypedInLibrary, "ObjectWithMapAssemId"), (.systemClass, "ObjectWithMapTyped"),
    (.libraryClass, "ObjectWithMapTypedAssemId"), (.string, "ObjectString"), (.array, "Array"),
    (.primitive, "MemberPrimitiveTyped"), (.reference, "MemberReference"), (.null, "ObjectNull"),
    (.messageEnd, "MessageEnd"), (.library, "Assembly"), (.nullsShort, "ObjectNullMultiple256"),
    (.nulls, "ObjectNullMultiple"), (.primitiveArray, "ArraySinglePrimitive"),
    (.objectArray, "ArraySingleObject"), (.stringArray, "ArraySingleString"),
    (.domainMap, "CrossAppDomainMap"), (.domainString, "CrossAppDomainString"),
    (.domainLibrary, "CrossAppDomainAssembly"), (.methodCall, "MethodCall"),
    (.methodReturn, "MethodReturn")]

def ofByte? (byte : UInt8) : Option RecordTag := named[byte.toNat]?.map Prod.fst

def label (tag : RecordTag) : String := (named.lookup tag).getD ""

end RecordTag

inductive SlotTag where
  | primitive
  | string
  | object
  | systemClass
  | userClass
  | objectArray
  | stringArray
  | primitiveArray
deriving DecidableEq, Repr

namespace SlotTag

def named : List (SlotTag × String) :=
  [(.primitive, "Primitive"), (.string, "String"), (.object, "Object"), (.systemClass, "ObjectUrt"),
    (.userClass, "ObjectUser"), (.objectArray, "ObjectArray"), (.stringArray, "StringArray"),
    (.primitiveArray, "PrimitiveArray")]

def ofByte? (byte : UInt8) : Option SlotTag := named[byte.toNat]?.map Prod.fst

def label (tag : SlotTag) : String := (named.lookup tag).getD ""

end SlotTag

def slotTag : SlotType → SlotTag
  | .primitive _ => .primitive
  | .string => .string
  | .object => .object
  | .systemClass _ => .systemClass
  | .userClass _ _ => .userClass
  | .objectArray => .objectArray
  | .stringArray => .stringArray
  | .primitiveArray _ => .primitiveArray

inductive ArrayShape where
  | single
  | jagged
  | rectangular
  | singleOffset
  | jaggedOffset
  | rectangularOffset
deriving DecidableEq, Repr

namespace ArrayShape

def named : List (ArrayShape × String) :=
  [(.single, "Single"), (.jagged, "Jagged"), (.rectangular, "Rectangular"),
    (.singleOffset, "SingleOffset"), (.jaggedOffset, "JaggedOffset"),
    (.rectangularOffset, "RectangularOffset")]

def ofByte? (byte : UInt8) : Option ArrayShape := named[byte.toNat]?.map Prod.fst

def label (shape : ArrayShape) : String := (named.lookup shape).getD ""

def hasLowerBounds : ArrayShape → Bool
  | .singleOffset | .jaggedOffset | .rectangularOffset => true
  | _ => false

end ArrayShape

-- The kinds of primitives in the order of their bytes, which start at one.
def primitiveKinds : List PrimitiveKind :=
  [.boolean, .byte, .char, .currency, .decimal, .double, .int16, .int32, .int64, .sbyte, .single,
    .timeSpan, .dateTime, .uint16, .uint32, .uint64, .null, .string]

def primitiveKindOfByte? (byte : UInt8) : Option PrimitiveKind :=
  if byte = 0 then none else primitiveKinds[byte.toNat - 1]?

end Flowline.Record
