import Flowline.Record.Cursor
import Flowline.Record.Draft

set_option autoImplicit false

namespace Flowline.Record

open Flowline.Graph

-- The library of a class. A class without a library of its own is one of the system library.
def readLibrary (inLibrary : Bool) : Read LibraryId :=
  if inLibrary then Read.int32 else return systemLibrary

def readBounds (shape : ArrayShape) (rank : Nat) : Read (List Int32) :=
  if shape.hasLowerBounds then Read.many rank Read.int32 else return []

def readClass (draft : Draft) (inLibrary : Bool) (position : Nat) : Read Draft := do
  let id ← Read.int32
  let name ← Read.string
  let count ← Read.length
  let names ← Read.many count Read.string
  let tags ← Read.many count Read.slotTag
  let types ← Read.slotTypes tags
  let library ← readLibrary inLibrary
  Read.lift (draft.addClass id name library (names.zipWith MemberInfo.mk types) position)

def readArray (draft : Draft) (position : Nat) : Read Draft := do
  let id ← Read.int32
  let shape ← Read.arrayShape
  let rank ← Read.length
  let lengths ← Read.many rank Read.length
  let _ ← readBounds shape rank
  let tag ← Read.slotTag
  let type ← Read.slotType tag
  match shape, lengths with
  | .single, [length] => Read.lift (draft.addArray id length type position)
  | _, _ => Read.fail (.unsupportedArray position shape rank)

def readObject (draft : Draft) (position : Nat) : Read Draft := do
  let id ← Read.int32
  let other ← Read.int32
  match draft.declarations.get? other with
  | some info => Read.lift (draft.addInstance id info position)
  | none => Read.fail (.unknownDeclaration position other)

def readReference (draft : Draft) (position : Nat) : Read Draft := do
  let id ← Read.int32
  Read.lift (draft.store (if draft.graph.contains id then .ref id else .pending id) position)

def readRecord (draft : Draft) (tag : RecordTag) (position : Nat) : Read Draft :=
  match tag with
  | .library => do
      let id ← Read.int32
      let name ← Read.string
      return { draft with libraries := draft.libraries.insert id name }
  | .systemClass => readClass draft false position
  | .libraryClass => readClass draft true position
  | .object => readObject draft position
  | .string => do
      let id ← Read.int32
      let value ← Read.string
      Read.lift (draft.add id (.string value) none position)
  | .primitiveArray => do
      let id ← Read.int32
      let length ← Read.length
      let kind ← Read.primitiveKind
      Read.lift (draft.addArray id length (.primitive kind) position)
  | .objectArray => do
      let id ← Read.int32
      let length ← Read.length
      Read.lift (draft.addArray id length .object position)
  | .stringArray => do
      let id ← Read.int32
      let length ← Read.length
      Read.lift (draft.addArray id length .string position)
  | .array => readArray draft position
  | .primitive => do
      let kind ← Read.primitiveKind
      let value ← Read.primitive kind
      Read.lift (draft.store (.primitive value) position)
  | .reference => readReference draft position
  | .null => Read.lift (draft.storeNulls 1 position)
  | .nullsShort => do
      let count ← Read.uint8
      Read.lift (draft.storeNulls count.toNat position)
  | .nulls => do
      let count ← Read.length
      Read.lift (draft.storeNulls count position)
  | .header | .messageEnd => Read.fail (.unexpectedRecord position tag)
  | .classUntyped | .classUntypedInLibrary | .domainMap | .domainString | .domainLibrary | .methodCall
  | .methodReturn => Read.fail (.unsupportedRecord position tag)

-- The next item of a message: a primitive without a tag where the next slot is declared to hold one,
-- and otherwise a record. There is no draft to go on with at the end of the message.
def readItem (draft : Draft) : Read (Option Draft) := do
  match draft.primitive? with
  | some kind =>
      let start ← Read.position
      let value ← Read.primitive kind
      let stored ← Read.lift (draft.store (.primitive value) start)
      return some stored.closeFilled
  | none =>
      let start ← Read.position
      let tag ← Read.recordTag
      if tag = .messageEnd then
        match draft.stack with
        | frame :: _ => Read.fail (.unfinishedObject start frame.id)
        | [] => return none
      else
        let next ← readRecord draft tag start
        return some next.closeFilled

def readHeader : Read Header := do
  let start ← Read.position
  let tag ← Read.recordTag
  if tag = .header then
    let top ← Read.int32
    let id ← Read.int32
    let major ← Read.int32
    let minor ← Read.int32
    return ⟨top, id, major, minor⟩
  else Read.fail (.missingHeader start tag)

end Flowline.Record
