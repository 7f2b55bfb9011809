import Flowline.Record.Tag

set_option autoImplicit false

namespace Flowline.Record

open Flowline.Graph

inductive Fault where
  | unexpectedEnd (position needed : Nat)
  | badLengthPrefix (position : Nat)
  | negativeLength (position : Nat) (value : Int32)
  | unknownRecordTag (position : Nat) (byte : UInt8)
  | unknownSlotTag (position : Nat) (byte : UInt8)
  | unknownPrimitiveKind (position : Nat) (byte : UInt8)
  | unknownArrayShape (position : Nat) (byte : UInt8)
  | unsupportedPrimitive (position : Nat) (kind : PrimitiveKind)
  | unsupportedRecord (position : Nat) (tag : RecordTag)
  | unsupportedArray (position : Nat) (shape : ArrayShape) (rank : Nat)
  | missingHeader (position : Nat) (tag : RecordTag)
  | unexpectedRecord (position : Nat) (tag : RecordTag)
  | undeclaredLibrary (position : Nat) (library : LibraryId)
  | unknownClass (position : Nat) (library : LibraryId) (name : String)
  | missingMember (position : Nat) (kind : ClassKind) (name : String)
  | unknownDeclaration (position : Nat) (id : ObjectId)
  | duplicateObject (position : Nat) (id : ObjectId)
  | noContainer (position : Nat)
  | arrayTooLarge (position length limit : Nat)
  | nullRunOverflow (position count remaining : Nat)
  | referenceMismatch (position : Nat) (id : ObjectId) (found : Member)
  | unfinishedObject (position : Nat) (id : ObjectId)
  | unresolvedReference (id : ObjectId)
  | missingRoot (id : ObjectId)
deriving DecidableEq

def Fault.message : Fault → String
  | .unexpectedEnd position needed =>
      "unexpected end of stream at byte " ++ toString position ++ " (needed " ++ toString needed ++
        " more bytes)"
  | .badLengthPrefix position => "malformed length prefix at byte " ++ toString position
  | .negativeLength position value =>
      "negative length " ++ toString value ++ " at byte " ++ toString position
  | .unknownRecordTag position byte =>
      "unknown record tag " ++ toString byte ++ " at byte " ++ toString position
  | .unknownSlotTag position byte =>
      "unknown binary type " ++ toString byte ++ " at byte " ++ toString position
  | .unknownPrimitiveKind position byte =>
      "unknown primitive type " ++ toString byte ++ " at byte " ++ toString position
  | .unknownArrayShape position byte =>
      "unknown array type " ++ toString byte ++ " at byte " ++ toString position
  | .unsupportedPrimitive position kind =>
      "primitive type " ++ kind.label ++ " at byte " ++ toString position ++ " is not implemented"
  | .unsupportedRecord position tag =>
      "record " ++ tag.label ++ " at byte " ++ toString position ++ " is not implemented"
  | .unsupportedArray position shape rank =>
      shape.label ++ " array of rank " ++ toString rank ++ " at byte " ++ toString position ++
        " is not supported"
  | .missingHeader position tag =>
      "expected a stream header at byte " ++ toString position ++ ", found " ++ tag.label
  | .unexpectedRecord position tag =>
      "unexpected " ++ tag.label ++ " record at byte " ++ toString position
  | .undeclaredLibrary position library =>
      "library " ++ toString library ++ " used at byte " ++ toString position ++ " was never declared"
  | .unknownClass position library name =>
      "unknown class '" ++ name ++ "' in library " ++ toString library ++ " at byte " ++ toString position
  | .missingMember position kind name =>
      "class " ++ kind.name ++ " at byte " ++ toString position ++ " has no member '" ++ name ++ "'"
  | .unknownDeclaration position id =>
      "object at byte " ++ toString position ++ " refers to undeclared class map " ++ toString id
  | .duplicateObject position id =>
      "object id " ++ toString id ++ " at byte " ++ toString position ++ " was already defined"
  | .noContainer position =>
      "member record at byte " ++ toString position ++ " outside of any object"
  | .arrayTooLarge position length limit =>
      "array at byte " ++ toString position ++ " has " ++ toString length ++ " items, but at most " ++
        toString limit ++ " are supported"
  | .nullRunOverflow position count remaining =>
      "run of " ++ toString count ++ " nulls at byte " ++ toString position ++ " exceeds the " ++
        toString remaining ++ " remaining slots"
  | .referenceMismatch position id found =>
      "patching object " ++ toString id ++ " at byte " ++ toString position ++ " found " ++ found.shown ++
        " in the waiting slot"
  | .unfinishedObject position id =>
      "message ended at byte " ++ toString position ++ " while object " ++ toString id ++ " was incomplete"
  | .unresolvedReference id => "reference to object " ++ toString id ++ " was never resolved"
  | .missingRoot id => "root object " ++ toString id ++ " was never defined"

end Flowline.Record
