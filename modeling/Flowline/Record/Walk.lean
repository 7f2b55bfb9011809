import Flowline.Record.Item

set_option autoImplicit false

namespace Flowline.Record

open Flowline.Graph

namespace Fault

def moved (offset : Nat) : Fault → Fault
  | .unexpectedEnd position needed => .unexpectedEnd (position + offset) needed
  | .badLengthPrefix position => .badLengthPrefix (position + offset)
  | .negativeLength position value => .negativeLength (position + offset) value
  | .unknownRecordTag position byte => .unknownRecordTag (position + offset) byte
  | .unknownSlotTag position byte => .unknownSlotTag (position + offset) byte
  | .unknownPrimitiveKind position byte => .unknownPrimitiveKind (position + offset) byte
  | .unknownArrayShape position byte => .unknownArrayShape (position + offset) byte
  | .unsupportedPrimitive position kind => .unsupportedPrimitive (position + offset) kind
  | .unsupportedRecord position tag => .unsupportedRecord (position + offset) tag
  | .unsupportedArray position shape rank => .unsupportedArray (position + offset) shape rank
  | .missingHeader position tag => .missingHeader (position + offset) tag
  | .unexpectedRecord position tag => .unexpectedRecord (position + offset) tag
  | .undeclaredLibrary position library => .undeclaredLibrary (position + offset) library
  | .unknownClass position library name => .unknownClass (position + offset) library name
  | .missingMember position kind name => .missingMember (position + offset) kind name
  | .unknownDeclaration position id => .unknownDeclaration (position + offset) id
  | .duplicateObject position id => .duplicateObject (position + offset) id
  | .noContainer position => .noContainer (position + offset)
  | .arrayTooLarge position length limit => .arrayTooLarge (position + offset) length limit
  | .nullRunOverflow position count remaining => .nullRunOverflow (position + offset) count remaining
  | .referenceMismatch position id found => .referenceMismatch (position + offset) id found
  | .unfinishedObject position id => .unfinishedObject (position + offset) id
  | .unresolvedReference id => .unresolvedReference id
  | .missingRoot id => .missingRoot id

-- Something else was in a slot than a link to the object it waits for.
def ofSlot : Fault → Bool
  | .referenceMismatch _ _ _ => true
  | _ => false

end Fault

-- A relation of the outcomes of reads, here and further behind, that is kept however reads are put together.
-- A condition on single reads is one that looks at the first of the two only.
structure Congruent (offset : Nat) (related : ∀ α : Type, Read α → Read α → Prop) : Prop where
  returned : ∀ {α : Type} (value : α), related α (pure value) (pure value)
  refused : ∀ {α : Type} (fault : Fault), fault.ofSlot = false →
    related α (Read.fail fault) (Read.fail (fault.moved offset))
  located : ∀ {α : Type} {next behind : Nat → Read α}, (∀ start, related α (next start) (behind (start + offset))) →
    related α (Read.position >>= next) (Read.position >>= behind)
  taken : ∀ count, related (List UInt8) (Read.take count) (Read.take count)
  chained : ∀ {α β : Type} {first second : Read α} {next behind : α → Read β}, related α first second →
    (∀ value, related β (next value) (behind value)) → related β (first >>= next) (second >>= behind)

-- What becomes of the draft by its own operations is related too.
structure Handled (offset : Nat) (related : ∀ α : Type, Read α → Read α → Prop) (draft : Draft) : Prop where
  stored : ∀ member position, related Draft (Read.lift (draft.store member position))
    (Read.lift (draft.store member (position + offset)))
  nulls : ∀ count position, related Draft (Read.lift (draft.storeNulls count position))
    (Read.lift (draft.storeNulls count (position + offset)))
  string : ∀ id value position, related Draft (Read.lift (draft.add id (.string value) none position))
    (Read.lift (draft.add id (.string value) none (position + offset)))
  array : ∀ id length element position, related Draft (Read.lift (draft.addArray id length element position))
    (Read.lift (draft.addArray id length element (position + offset)))
  instantiated : ∀ id info position, related Draft (Read.lift (draft.addInstance id info position))
    (Read.lift (draft.addInstance id info (position + offset)))
  declared : ∀ id name library members position,
    related Draft (Read.lift (draft.addClass id name library members position))
      (Read.lift (draft.addClass id name library members (position + offset)))

namespace Read

variable {α β : Type}

theorem number_map (count : Nat) (cast : Nat → α) (make : α → β) :
    (do return make (← (do return cast (← natural count)))) = (do return make (cast (← natural count)) : Read β) := by
  simp only [bind_assoc, pure_bind]

-- A primitive is made of the bytes of its width, or is of a kind that is refused.
theorem primitive_form (kind : PrimitiveKind) :
    (∃ (count : Nat) (make : Nat → Primitive), 0 < count ∧ primitive kind = (do return make (← natural count))) ∨
      primitive kind = (do fail (.unsupportedPrimitive (← position) kind)) := by
  cases kind with
  | boolean =>
      refine .inl ⟨1, fun value => .boolean (decide (value.toUInt8 ≠ 0)), by decide, ?_⟩
      exact (congrArg (fun read : Read Bool => do return Primitive.boolean (← read)) (number_map 1 _ _)).trans
        (number_map 1 _ _)
  | byte => exact .inl ⟨1, _, by decide, number_map 1 _ Primitive.byte⟩
  | sbyte => exact .inl ⟨1, _, by decide, number_map 1 _ Primitive.sbyte⟩
  | int16 => exact .inl ⟨2, _, by decide, number_map 2 _ Primitive.int16⟩
  | uint16 => exact .inl ⟨2, _, by decide, number_map 2 _ Primitive.uint16⟩
  | int32 => exact .inl ⟨4, _, by decide, number_map 4 _ Primitive.int32⟩
  | uint32 => exact .inl ⟨4, _, by decide, number_map 4 _ Primitive.uint32⟩
  | int64 => exact .inl ⟨8, _, by decide, number_map 8 _ Primitive.int64⟩
  | uint64 => exact .inl ⟨8, _, by decide, number_map 8 _ Primitive.uint64⟩
  | decimal => exact .inl ⟨8, _, by decide, number_map 8 _ Primitive.decimal⟩
  | timeSpan => exact .inl ⟨8, _, by decide, number_map 8 _ Primitive.timeSpan⟩
  | dateTime => exact .inl ⟨8, _, by decide, number_map 8 _ Primitive.dateTime⟩
  | char | currency | double | single | null | string => exact .inr rfl

end Read

namespace Congruent

variable {offset : Nat} {related : ∀ α : Type, Read α → Read α → Prop} (congruent : Congruent offset related)

include congruent

section Values

variable {α β : Type}

theorem mapped (read : Read α) (make : α → β) (one : related α read read) :
    related β (do return make (← read)) (do return make (← read)) :=
  congruent.chained one fun value => congruent.returned (make value)

theorem number (count : Nat) (make : Nat → α) :
    related α (do return make (← Read.natural count)) (do return make (← Read.natural count)) :=
  congruent.mapped _ make (congruent.mapped _ Read.littleEndian (congruent.taken count))

theorem uint8 : related UInt8 Read.uint8 Read.uint8 := congruent.number 1 _

theorem int32 : related Int32 Read.int32 Read.int32 := congruent.number 4 _

theorem length : related Nat Read.length Read.length := by
  refine congruent.located fun start => congruent.chained congruent.int32 fun value => ?_
  by_cases negative : value < 0
  · simp only [if_pos negative]
    exact congruent.refused (.negativeLength start value) rfl
  · simp only [if_neg negative]
    exact congruent.returned _

theorem groups (start left weight value : Nat) :
    related Nat (Read.groups start left weight value) (Read.groups (start + offset) left weight value) := by
  induction left generalizing weight value with
  | zero => exact congruent.refused (.badLengthPrefix start) rfl
  | succ left ih =>
      refine congruent.chained congruent.uint8 fun byte => ?_
      by_cases long : left = 0 ∧ 8 ≤ byte
      · simp only [if_pos long]
        exact congruent.refused (.badLengthPrefix start) rfl
      · simp only [if_neg long]
        by_cases last : byte < 128
        · simp only [if_pos last]
          exact congruent.returned _
        · simp only [if_neg last]
          exact ih _ _

theorem string : related String Read.string Read.string := by
  refine congruent.chained ?_ fun count => congruent.mapped _ _ (congruent.taken count)
  exact congruent.located fun start => congruent.groups start 5 1 0

theorem known (meaning : UInt8 → Option α) (unknown : Nat → UInt8 → Fault)
    (other : ∀ start byte, (unknown start byte).ofSlot = false)
    (behind : ∀ start byte, unknown (start + offset) byte = (unknown start byte).moved offset) :
    related α (Read.known meaning unknown) (Read.known meaning unknown) := by
  refine congruent.located fun start => congruent.chained congruent.uint8 fun byte => ?_
  cases meaning byte with
  | some value => exact congruent.returned value
  | none =>
      dsimp only
      rw [behind]
      exact congruent.refused (unknown start byte) (other start byte)

theorem record_tag : related RecordTag Read.recordTag Read.recordTag :=
  congruent.known _ _ (fun _ _ => rfl) fun _ _ => rfl

theorem slot_tag : related SlotTag Read.slotTag Read.slotTag := congruent.known _ _ (fun _ _ => rfl) fun _ _ => rfl

theorem primitive_kind : related PrimitiveKind Read.primitiveKind Read.primitiveKind :=
  congruent.known _ _ (fun _ _ => rfl) fun _ _ => rfl

theorem array_shape : related ArrayShape Read.arrayShape Read.arrayShape :=
  congruent.known _ _ (fun _ _ => rfl) fun _ _ => rfl

theorem slot_type (tag : SlotTag) : related SlotType (Read.slotType tag) (Read.slotType tag) := by
  cases tag with
  | primitive => exact congruent.mapped _ SlotType.primitive congruent.primitive_kind
  | systemClass => exact congruent.mapped _ SlotType.systemClass congruent.string
  | userClass =>
      exact congruent.chained congruent.string fun name =>
        congruent.mapped _ (SlotType.userClass name) congruent.int32
  | primitiveArray => exact congruent.mapped _ SlotType.primitiveArray congruent.primitive_kind
  | string | object | objectArray | stringArray => exact congruent.returned _

theorem slot_types (tags : List SlotTag) : related (List SlotType) (Read.slotTypes tags) (Read.slotTypes tags) := by
  induction tags with
  | nil => exact congruent.returned []
  | cons tag tags ih =>
      exact congruent.chained (congruent.slot_type tag) fun first => congruent.mapped _ (first :: ·) ih

theorem primitive (kind : PrimitiveKind) : related Primitive (Read.primitive kind) (Read.primitive kind) := by
  rcases Read.primitive_form kind with ⟨count, make, _, form⟩ | form
  · rw [form]
    exact congruent.number count make
  · rw [form]
    exact congruent.located fun start => congruent.refused (.unsupportedPrimitive start kind) rfl

theorem many (count : Nat) (read : Read α) (each : related α read read) :
    related (List α) (Read.many count read) (Read.many count read) := by
  induction count with
  | zero => exact congruent.returned []
  | succ count ih => exact congruent.chained each fun first => congruent.mapped _ (first :: ·) ih

end Values

theorem library (inLibrary : Bool) : related LibraryId (readLibrary inLibrary) (readLibrary inLibrary) := by
  cases inLibrary with
  | true => exact congruent.int32
  | false => exact congruent.returned systemLibrary

theorem bounds (shape : ArrayShape) (rank : Nat) :
    related (List Int32) (readBounds shape rank) (readBounds shape rank) := by
  unfold readBounds
  split
  · exact congruent.many rank _ congruent.int32
  · exact congruent.returned []

theorem header : related Header readHeader readHeader := by
  refine congruent.located fun start => congruent.chained congruent.record_tag fun tag => ?_
  by_cases first : tag = .header
  · simp only [if_pos first]
    exact congruent.chained congruent.int32 fun top =>
      congruent.chained congruent.int32 fun id =>
      congruent.chained congruent.int32 fun major => congruent.mapped _ (Header.mk top id major) congruent.int32
  · simp only [if_neg first]
    exact congruent.refused (.missingHeader start tag) rfl

section Records

variable {draft : Draft} (handled : Handled offset related draft)

include handled

theorem declaration (inLibrary : Bool) (start : Nat) :
    related Draft (readClass draft inLibrary start) (readClass draft inLibrary (start + offset)) :=
  congruent.chained congruent.int32 fun id =>
    congruent.chained congruent.string fun name =>
    congruent.chained congruent.length fun count =>
    congruent.chained (congruent.many count _ congruent.string) fun _ =>
    congruent.chained (congruent.many count _ congruent.slot_tag) fun tags =>
    congruent.chained (congruent.slot_types tags) fun _ =>
    congruent.chained (congruent.library inLibrary) fun library =>
      handled.declared id name library _ start

theorem array (start : Nat) : related Draft (readArray draft start) (readArray draft (start + offset)) := by
  refine congruent.chained congruent.int32 fun id =>
    congruent.chained congruent.array_shape fun shape =>
    congruent.chained congruent.length fun rank =>
    congruent.chained (congruent.many rank _ congruent.length) fun lengths =>
    congruent.chained (congruent.bounds shape rank) fun _ =>
    congruent.chained congruent.slot_tag fun tag =>
    congruent.chained (congruent.slot_type tag) fun type => ?_
  split
  · exact handled.array id _ type start
  · exact congruent.refused (.unsupportedArray start shape rank) rfl

theorem object (start : Nat) : related Draft (readObject draft start) (readObject draft (start + offset)) := by
  refine congruent.chained congruent.int32 fun id =>
    congruent.chained congruent.int32 fun other => ?_
  cases draft.declarations.get? other with
  | some info => exact handled.instantiated id info start
  | none => exact congruent.refused (.unknownDeclaration start other) rfl

theorem record (tag : RecordTag) (start : Nat) :
    related Draft (readRecord draft tag start) (readRecord draft tag (start + offset)) := by
  cases tag with
  | library => exact congruent.chained congruent.int32 fun id => congruent.mapped _ _ congruent.string
  | systemClass => exact congruent.declaration handled false start
  | libraryClass => exact congruent.declaration handled true start
  | object => exact congruent.object handled start
  | string =>
      exact congruent.chained congruent.int32 fun id =>
        congruent.chained congruent.string fun value => handled.string id value start
  | primitiveArray =>
      exact congruent.chained congruent.int32 fun id =>
        congruent.chained congruent.length fun length =>
        congruent.chained congruent.primitive_kind fun kind => handled.array id length _ start
  | objectArray | stringArray =>
      exact congruent.chained congruent.int32 fun id =>
        congruent.chained congruent.length fun length => handled.array id length _ start
  | array => exact congruent.array handled start
  | primitive =>
      exact congruent.chained congruent.primitive_kind fun kind =>
        congruent.chained (congruent.primitive kind) fun value => handled.stored (.primitive value) start
  | reference => exact congruent.chained congruent.int32 fun id => handled.stored _ start
  | null => exact handled.nulls 1 start
  | nullsShort => exact congruent.chained congruent.uint8 fun count => handled.nulls _ start
  | nulls => exact congruent.chained congruent.length fun count => handled.nulls count start
  | header => exact congruent.refused (.unexpectedRecord start .header) rfl
  | messageEnd => exact congruent.refused (.unexpectedRecord start .messageEnd) rfl
  | classUntyped => exact congruent.refused (.unsupportedRecord start .classUntyped) rfl
  | classUntypedInLibrary => exact congruent.refused (.unsupportedRecord start .classUntypedInLibrary) rfl
  | domainMap => exact congruent.refused (.unsupportedRecord start .domainMap) rfl
  | domainString => exact congruent.refused (.unsupportedRecord start .domainString) rfl
  | domainLibrary => exact congruent.refused (.unsupportedRecord start .domainLibrary) rfl
  | methodCall => exact congruent.refused (.unsupportedRecord start .methodCall) rfl
  | methodReturn => exact congruent.refused (.unsupportedRecord start .methodReturn) rfl

theorem item : related (Option Draft) (readItem draft) (readItem draft) := by
  unfold readItem
  cases draft.primitive? with
  | some kind =>
      exact congruent.located fun start =>
        congruent.chained (congruent.primitive kind) fun value =>
        congruent.chained (handled.stored (.primitive value) start) fun stored => congruent.returned _
  | none =>
      refine congruent.located fun start => congruent.chained congruent.record_tag fun tag => ?_
      by_cases ends : tag = .messageEnd
      · simp only [if_pos ends]
        cases draft.stack with
        | nil => exact congruent.returned none
        | cons frame outer => exact congruent.refused (.unfinishedObject start frame.id) rfl
      · simp only [if_neg ends]
        exact congruent.chained (congruent.record handled tag start) fun next => congruent.returned _

end Records

end Congruent

end Flowline.Record
