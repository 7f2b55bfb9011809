import Flowline.Record.Fault

set_option autoImplicit false

namespace Flowline.Record

open Flowline.Graph

def maxArrayLength : Nat := 0x100000

-- What the slots of an object are declared to hold: each slot for itself, or all the same.
inductive Slots where
  | members (info : ClassInfo)
  | elements (type : SlotType)
deriving DecidableEq

structure Frame where
  id : ObjectId
  slots : Slots
  filled : Nat
  length : Nat
deriving DecidableEq

def Frame.remaining (frame : Frame) : Nat := frame.length - frame.filled

def Frame.next? (frame : Frame) : Option SlotType :=
  match frame.slots with
  | .members info => info.members[frame.filled]?.map MemberInfo.type
  | .elements type => some type

def Frame.primitive? (frame : Frame) : Option PrimitiveKind :=
  match frame.next? with
  | some (.primitive kind) => some kind
  | _ => none

structure Waiting where
  owner : ObjectId
  index : Nat
deriving DecidableEq

structure Draft where
  graph : Graph
  declarations : Table ObjectId ClassInfo .ascending
  libraries : Table LibraryId String .arrival
  stack : List Frame
  pending : Table ObjectId (List Waiting) .ascending

namespace Draft

def empty : Draft := ⟨∅, ∅, ∅, [], ∅⟩

def primitive? (draft : Draft) : Option PrimitiveKind := draft.stack.head?.bind Frame.primitive?

def append (draft : Draft) (id : ObjectId) (values : Array Member) : Draft :=
  { draft with graph := draft.graph.modify id fun object => object.mapSlots (· ++ values) }

def await (draft : Draft) (id : ObjectId) (slot : Waiting) : Draft :=
  { draft with pending := draft.pending.insert id (((draft.pending.get? id).getD []) ++ [slot]) }

def store (draft : Draft) (member : Member) (position : Nat) : Except Fault Draft :=
  match draft.stack with
  | [] => .error (.noContainer position)
  | frame :: outer =>
      let stored :=
        { draft with stack := { frame with filled := frame.filled + 1 } :: outer }.append frame.id #[member]
      match member with
      | .pending id => .ok (stored.await id ⟨frame.id, frame.filled⟩)
      | _ => .ok stored

def storeNulls (draft : Draft) (count position : Nat) : Except Fault Draft :=
  match draft.stack with
  | [] => .error (.noContainer position)
  | frame :: outer =>
      if frame.remaining < count then .error (.nullRunOverflow position count frame.remaining)
      else
        .ok ({ draft with stack := { frame with filled := frame.filled + count } :: outer }.append frame.id
          (Array.replicate count .null))

def patch (draft : Draft) (slot : Waiting) (id : ObjectId) (position : Nat) : Except Fault Draft :=
  match (draft.graph.get? slot.owner).bind fun object => object.slots[slot.index]? with
  | some found =>
      if found = .pending id then
        .ok { draft with
          graph := draft.graph.modify slot.owner fun object =>
            object.mapSlots fun slots => slots.setIfInBounds slot.index (.ref id) }
      else .error (.referenceMismatch position id found)
  | none => .error (.referenceMismatch position id .null)

def patchAll (draft : Draft) (slots : List Waiting) (id : ObjectId) (position : Nat) :
    Except Fault Draft :=
  match slots with
  | [] => .ok draft
  | slot :: rest =>
      match draft.patch slot id position with
      | .ok draft => draft.patchAll rest id position
      | .error fault => .error fault

def enter (draft : Draft) (id : ObjectId) (object : Object) (position : Nat) : Except Fault Draft :=
  if draft.graph.contains id then .error (.duplicateObject position id)
  else
    let waiting := (draft.pending.get? id).getD []
    { draft with
      graph := draft.graph.insert id object
      pending := draft.pending.erase id }.patchAll waiting id position

def openFrame (draft : Draft) (id : ObjectId) (object : Object) (slots : Slots) : Draft :=
  { draft with stack := ⟨id, slots, 0, object.slotCount⟩ :: draft.stack }

def add (draft : Draft) (id : ObjectId) (object : Object) (slots : Option Slots) (position : Nat) :
    Except Fault Draft := do
  let linked ← if draft.stack.isEmpty then .ok draft else draft.store (.ref id) position
  let entered ← linked.enter id object position
  match slots with
  | some slots => return entered.openFrame id object slots
  | none => return entered

def addArray (draft : Draft) (id : ObjectId) (length : Nat) (element : SlotType) (position : Nat) :
    Except Fault Draft :=
  if maxArrayLength < length then .error (.arrayTooLarge position length maxArrayLength)
  else draft.add id (.array ⟨element, length, #[]⟩) (some (.elements element)) position

def addInstance (draft : Draft) (id : ObjectId) (info : ClassInfo) (position : Nat) : Except Fault Draft :=
  draft.add id (.record ⟨info, #[]⟩) (some (.members info)) position

def addClass (draft : Draft) (id : ObjectId) (name : String) (library : LibraryId) (members : List MemberInfo)
    (position : Nat) : Except Fault Draft :=
  if library ≠ systemLibrary ∧ !draft.libraries.contains library then
    .error (.undeclaredLibrary position library)
  else
    match ClassKind.resolve? library name with
    | none => .error (.unknownClass position library name)
    | some kind =>
        let info : ClassInfo := ⟨name, kind, library, members⟩
        match kind.fields.find? fun field => (info.indexOf? field).isNone with
        | some field => .error (.missingMember position kind field)
        | none =>
            { draft with declarations := draft.declarations.insert id info }.addInstance id info position

def closeFilled (draft : Draft) : Draft :=
  { draft with stack := draft.stack.dropWhile fun frame => frame.remaining = 0 }

def finish (draft : Draft) (header : Header) : Except Fault Message :=
  match draft.pending.entries with
  | (id, _) :: _ => .error (.unresolvedReference id)
  | [] =>
      if draft.graph.contains header.top then .ok ⟨header, draft.graph, draft.libraries⟩
      else .error (.missingRoot header.top)

end Draft

end Flowline.Record
