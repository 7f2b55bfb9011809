import Flowline.Proofs.Record.Bytes
import Flowline.Proofs.Table.Ascending
import Flowline.Record.Draft

set_option autoImplicit false

namespace Flowline.Record

open Flowline.Graph

-- The class of an object: written in full, with its library or without, or that of an object before it.
inductive ClassForm where
  | full (inLibrary : Bool)
  | like (other : ObjectId)
deriving DecidableEq

inductive ArrayForm where
  | short
  | full
deriving DecidableEq

inductive NullForm where
  | one
  | short (count : UInt8)
  | long (count : Nat)
deriving DecidableEq

def NullForm.count : NullForm → Nat
  | .one => 1
  | .short count => count.toNat
  | .long count => count

-- A part of a message. An object has the contents of its slots inside of it.
inductive Piece where
  | library (id : LibraryId) (name : String)
  | string (id : ObjectId) (value : String)
  | object (id : ObjectId) (info : ClassInfo) (form : ClassForm) (body : List Piece)
  | array (id : ObjectId) (element : SlotType) (length : Nat) (form : ArrayForm) (body : List Piece)
  | plain (value : Primitive)
  | tagged (value : Primitive)
  | reference (id : ObjectId)
  | nulls (form : NullForm)

namespace Write

def header (header : Header) : List UInt8 :=
  recordTag .header ++ (int32 header.top ++ (int32 header.id ++ (int32 header.major ++ int32 header.minor)))

def classInfo (id : ObjectId) (info : ClassInfo) (inLibrary : Bool) : List UInt8 :=
  recordTag (if inLibrary then .libraryClass else .systemClass) ++ (int32 id ++ (string info.name ++
    (length info.members.length ++ (info.members.flatMap (fun member => string member.name) ++
      (info.members.flatMap (fun member => slotTag (Record.slotTag member.type)) ++
        (info.members.flatMap (fun member => slotType member.type) ++
          (if inLibrary then int32 info.library else [])))))))

def objectHead (id : ObjectId) (info : ClassInfo) : ClassForm → List UInt8
  | .full inLibrary => classInfo id info inLibrary
  | .like other => recordTag .object ++ (int32 id ++ int32 other)

def arrayHead (id : ObjectId) (element : SlotType) (count : Nat) : ArrayForm → List UInt8
  | .short =>
      match element with
      | .primitive kind => recordTag .primitiveArray ++ (int32 id ++ (length count ++ primitiveKind kind))
      | .string => recordTag .stringArray ++ (int32 id ++ length count)
      | _ => recordTag .objectArray ++ (int32 id ++ length count)
  | .full =>
      recordTag .array ++ (int32 id ++ ([0] ++ (length 1 ++ (length count ++
        (slotTag (Record.slotTag element) ++ slotType element)))))

def nulls : NullForm → List UInt8
  | .one => recordTag .null
  | .short count => recordTag .nullsShort ++ [count]
  | .long count => recordTag .nulls ++ length count

mutual

def piece : Piece → List UInt8
  | .library id name => recordTag .library ++ (int32 id ++ string name)
  | .string id value => recordTag .string ++ (int32 id ++ string value)
  | .object id info form body => objectHead id info form ++ pieces body
  | .array id element count form body => arrayHead id element count form ++ pieces body
  | .plain value => primitive value
  | .tagged value => recordTag .primitive ++ (primitiveKind value.kind ++ primitive value)
  | .reference id => recordTag .reference ++ int32 id
  | .nulls form => nulls form

def pieces : List Piece → List UInt8
  | [] => []
  | first :: rest => piece first ++ pieces rest

end

end Write

namespace Piece

def members : Piece → List Member
  | .library _ _ => []
  | .string id _ | .object id _ _ _ | .array id _ _ _ _ | .reference id => [.ref id]
  | .plain value | .tagged value => [.primitive value]
  | .nulls form => List.replicate form.count .null

def membersAll (pieces : List Piece) : List Member := pieces.flatMap members

mutual

def objects : Piece → List (ObjectId × Object)
  | .string id value => [(id, .string value)]
  | .object id info _ body => (id, .record ⟨info, (membersAll body).toArray⟩) :: objectsAll body
  | .array id element length _ body => (id, .array ⟨element, length, (membersAll body).toArray⟩) :: objectsAll body
  | _ => []

def objectsAll : List Piece → List (ObjectId × Object)
  | [] => []
  | first :: rest => objects first ++ objectsAll rest

end

mutual

def schemas : Piece → List (ObjectId × ClassInfo)
  | .object id info (.full _) body => (id, info) :: schemasAll body
  | .object _ _ (.like _) body | .array _ _ _ _ body => schemasAll body
  | _ => []

def schemasAll : List Piece → List (ObjectId × ClassInfo)
  | [] => []
  | first :: rest => schemas first ++ schemasAll rest

end

mutual

def libraries : Piece → List (LibraryId × String)
  | .library id name => [(id, name)]
  | .object _ _ _ body | .array _ _ _ _ body => librariesAll body
  | _ => []

def librariesAll : List Piece → List (LibraryId × String)
  | [] => []
  | first :: rest => libraries first ++ librariesAll rest

end

end Piece

structure Known where
  libraries : List (LibraryId × String)
  schemas : List (ObjectId × ClassInfo)

namespace Known

def after (known : Known) (piece : Piece) : Known :=
  ⟨known.libraries ++ piece.libraries, known.schemas ++ piece.schemas⟩

def declare (known : Known) (id : ObjectId) (info : ClassInfo) : ClassForm → Known
  | .full _ => ⟨known.libraries, known.schemas ++ [(id, info)]⟩
  | .like _ => known

end Known

-- A class in full comes after its library, and one that is named comes after the object that it came with.
def ClassForm.Allowed (known : Known) (info : ClassInfo) : ClassForm → Prop
  | .full inLibrary =>
      (inLibrary = false → info.library = systemLibrary) ∧
        (info.library = systemLibrary ∨ info.library ∈ known.libraries.map Prod.fst)
  | .like other => (other, info) ∈ known.schemas

def ArrayForm.Allowed (element : SlotType) : ArrayForm → Prop
  | .short => (∃ kind, element = .primitive kind) ∨ element = .string ∨ element = .object
  | .full => True

-- The next slot is one for a record. Slots that hold primitives without a tag take nothing else.
def AwaitsRecord (types : List SlotType) : Prop :=
  ∃ type, types.head? = some type ∧ ∀ kind, type ≠ .primitive kind

instance (types : List SlotType) : Decidable (AwaitsRecord types) :=
  match types with
  | [] => isFalse fun ⟨_, first, _⟩ => nomatch first
  | .primitive kind :: _ => isFalse fun ⟨_, first, other⟩ => other kind (Option.some.inj first).symm
  | .string :: _ | .object :: _ | .systemClass _ :: _ | .userClass _ _ :: _ | .objectArray :: _ | .stringArray :: _
  | .primitiveArray _ :: _ => isTrue ⟨_, rfl, fun _ same => nomatch same⟩

def Piece.Fits (types : List SlotType) : Piece → Prop
  | .plain value => types.head? = some (.primitive value.kind)
  | .nulls form => AwaitsRecord types ∧ form.count ≤ types.length
  | _ => AwaitsRecord types

mutual

def Piece.Placed (known : Known) : Piece → Prop
  | .library _ name => Latin name
  | .object id info form body =>
      form.Allowed known info ∧ Piece.PlacedAll (known.declare id info form) (info.members.map MemberInfo.type) body
  | .array _ element length form body =>
      form.Allowed element ∧ Piece.PlacedAll known (List.replicate length element) body
  | .nulls form => form.count < 2 ^ 31
  | _ => True

def Piece.PlacedAll (known : Known) (types : List SlotType) : List Piece → Prop
  | [] => types = []
  | first :: rest =>
      first.Fits types ∧ first.Placed known ∧
        Piece.PlacedAll (known.after first) (types.drop first.members.length) rest

end

def Piece.stands : Piece → Bool
  | .library _ _ | .string _ _ | .object _ _ _ _ | .array _ _ _ _ _ => true
  | _ => false

def Piece.PlacedTop (known : Known) : List Piece → Prop
  | [] => True
  | first :: rest => first.stands = true ∧ first.Placed known ∧ Piece.PlacedTop (known.after first) rest

structure ClassSound (info : ClassInfo) : Prop where
  name : Latin info.name
  kind : ClassKind.resolve? info.library info.name = some info.kind
  fields : ∀ field ∈ info.kind.fields, (info.indexOf? field).isSome = true
  members : ∀ member ∈ info.members, Latin member.name ∧ SlotType.Latin member.type
  count : info.members.length < 2 ^ 31

def ObjectSound : Object → Prop
  | .record self => ClassSound self.info
  | .string value => Latin value
  | .array self => self.length ≤ maxArrayLength ∧ SlotType.Latin self.element

-- A graph whose objects are sound, with its links inside of it.
structure GraphSound (top : ObjectId) (graph : Graph) : Prop where
  sorted : Table.Sorted graph
  objects : ∀ id object, graph.get? id = some object → ObjectSound object
  links : ∀ id object target, graph.get? id = some object → Member.ref target ∈ object.slots →
    ∃ other, graph.get? target = some other
  root : ∃ object, graph.get? top = some object

structure Layout where
  header : Header
  pieces : List Piece

namespace Layout

def bytes (layout : Layout) : List UInt8 :=
  Write.header layout.header ++ (Write.pieces layout.pieces ++ Write.recordTag .messageEnd)

def libraries (layout : Layout) : Table LibraryId String .arrival := Table.ofList (Piece.librariesAll layout.pieces)

-- The objects of the layout are those of the graph, each of them once.
structure Lays (layout : Layout) (graph : Graph) : Prop where
  placed : Piece.PlacedTop ⟨[], []⟩ layout.pieces
  once : ((Piece.objectsAll layout.pieces).map Prod.fst).Nodup
  same : ∀ id object, (id, object) ∈ Piece.objectsAll layout.pieces ↔ graph.get? id = some object

end Layout

end Flowline.Record
