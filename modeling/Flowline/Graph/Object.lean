import Flowline.Graph.ClassKind
import Flowline.Table

set_option autoImplicit false

namespace Flowline.Graph

abbrev ObjectId := Int32

inductive PrimitiveKind where
  | boolean
  | byte
  | char
  | currency
  | decimal
  | double
  | int16
  | int32
  | int64
  | sbyte
  | single
  | timeSpan
  | dateTime
  | uint16
  | uint32
  | uint64
  | null
  | string
deriving DecidableEq, Repr

def PrimitiveKind.label : PrimitiveKind → String
  | .boolean => "Boolean"
  | .byte => "Byte"
  | .char => "Char"
  | .currency => "Currency"
  | .decimal => "Decimal"
  | .double => "Double"
  | .int16 => "Int16"
  | .int32 => "Int32"
  | .int64 => "Int64"
  | .sbyte => "SByte"
  | .single => "Single"
  | .timeSpan => "TimeSpan"
  | .dateTime => "DateTime"
  | .uint16 => "UInt16"
  | .uint32 => "UInt32"
  | .uint64 => "UInt64"
  | .null => "Null"
  | .string => "String"

inductive Primitive where
  | boolean (value : Bool)
  | byte (value : UInt8)
  | sbyte (value : Int8)
  | int16 (value : Int16)
  | uint16 (value : UInt16)
  | int32 (value : Int32)
  | uint32 (value : UInt32)
  | int64 (value : Int64)
  | uint64 (value : UInt64)
  | decimal (value : Int64)
  | timeSpan (value : Int64)
  | dateTime (value : UInt64)
deriving DecidableEq

namespace Primitive

def kind : Primitive → PrimitiveKind
  | .boolean _ => .boolean
  | .byte _ => .byte
  | .sbyte _ => .sbyte
  | .int16 _ => .int16
  | .uint16 _ => .uint16
  | .int32 _ => .int32
  | .uint32 _ => .uint32
  | .int64 _ => .int64
  | .uint64 _ => .uint64
  | .decimal _ => .decimal
  | .timeSpan _ => .timeSpan
  | .dateTime _ => .dateTime

-- The ticks of a date; its two highest bits tell the kind of date.
def ticks? : Primitive → Option UInt64
  | .dateTime value => some (value &&& 0x3FFFFFFFFFFFFFFF)
  | _ => none

def valueText : Primitive → String
  | .boolean value => if value then "true" else "false"
  | .byte value => toString value
  | .sbyte value => toString value
  | .int16 value => toString value
  | .uint16 value => toString value
  | .int32 value => toString value
  | .uint32 value => toString value
  | .int64 value => toString value
  | .uint64 value => toString value
  | .decimal value => toString value
  | .timeSpan value => toString value
  | .dateTime value => toString value

end Primitive

-- What a slot of an object holds. A pending link is one to an object that is not known yet.
inductive Member where
  | null
  | primitive (value : Primitive)
  | ref (id : ObjectId)
  | pending (id : ObjectId)
deriving DecidableEq

def Member.shown : Member → String
  | .null => "Null"
  | .primitive value => "Primitive(" ++ value.kind.label ++ "(" ++ value.valueText ++ "))"
  | .ref id => "Ref(" ++ toString id ++ ")"
  | .pending id => "Pending(" ++ toString id ++ ")"

inductive SlotType where
  | primitive (kind : PrimitiveKind)
  | string
  | object
  | systemClass (name : String)
  | userClass (name : String) (library : LibraryId)
  | objectArray
  | stringArray
  | primitiveArray (kind : PrimitiveKind)
deriving DecidableEq, Repr

structure MemberInfo where
  name : String
  type : SlotType
deriving DecidableEq, Repr

structure ClassInfo where
  name : String
  kind : ClassKind
  library : LibraryId
  members : List MemberInfo
deriving DecidableEq, Repr

def ClassInfo.indexOf? (info : ClassInfo) (name : String) : Option Nat :=
  info.members.findIdx? fun member => member.name = name

structure Instance where
  info : ClassInfo
  values : Array Member
deriving DecidableEq

namespace Instance

def kind (self : Instance) : ClassKind := self.info.kind

def member? (self : Instance) (name : String) : Option Member :=
  (self.info.indexOf? name).bind fun index => self.values[index]?

def members (self : Instance) : List (String × Member) :=
  (self.info.members.map MemberInfo.name).zip self.values.toList

def int? (self : Instance) (name : String) : Option Int32 :=
  match self.member? name with
  | some (.primitive (.int32 value)) => some value
  | _ => none

def boolean? (self : Instance) (name : String) : Option Bool :=
  match self.member? name with
  | some (.primitive (.boolean value)) => some value
  | _ => none

end Instance

structure Items where
  element : SlotType
  length : Nat
  values : Array Member
deriving DecidableEq

inductive Object where
  | record (self : Instance)
  | string (value : String)
  | array (self : Items)
deriving DecidableEq

namespace Object

def slotCount : Object → Nat
  | .record self => self.info.members.length
  | .string _ => 0
  | .array self => self.length

def slots : Object → Array Member
  | .record self => self.values
  | .string _ => #[]
  | .array self => self.values

def mapSlots (change : Array Member → Array Member) : Object → Object
  | .record self => .record { self with values := change self.values }
  | .string value => .string value
  | .array self => .array { self with values := change self.values }

end Object

end Graph

abbrev Graph := Table Graph.ObjectId Graph.Object .ascending

namespace Graph

def instance? (graph : Graph) (id : ObjectId) : Option Instance :=
  match graph.get? id with
  | some (.record self) => some self
  | _ => none

def string? (graph : Graph) (id : ObjectId) : Option String :=
  match graph.get? id with
  | some (.string value) => some value
  | _ => none

def follow? (graph : Graph) : Member → Option Object
  | .ref id => graph.get? id
  | _ => none

structure Header where
  top : ObjectId
  id : Int32
  major : Int32
  minor : Int32
deriving DecidableEq, Repr

structure Message where
  header : Header
  graph : Graph
  libraries : Table LibraryId String .arrival

namespace Message

def rootId (message : Message) : ObjectId := message.header.top

def root? (message : Message) : Option Object := message.graph.get? message.rootId

def rootInstance? (message : Message) : Option Instance := instance? message.graph message.rootId

end Message

end Flowline.Graph
