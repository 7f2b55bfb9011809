import Flowline.Outcome
import Flowline.Record.Cursor
import Mathlib.Tactic.Ring

set_option autoImplicit false

namespace Flowline.Record

open Flowline.Graph

def Takes {α : Type} (read : Read α) (bytes : List UInt8) (value : α) : Prop :=
  ∀ rest position, read ⟨bytes ++ rest, position⟩ = (.ok value, ⟨rest, position + bytes.length⟩)

namespace Write

def natural : Nat → Nat → List UInt8
  | 0, _ => []
  | count + 1, value => value.toUInt8 :: natural count (value / 256)

def int32 (value : Int32) : List UInt8 := natural 4 value.toUInt32.toNat

def length (count : Nat) : List UInt8 := natural 4 count

-- Seven bits to a byte, the low ones first; all bytes but the last one are 128 or more.
def groups (value : Nat) : List UInt8 :=
  if value < 128 then [value.toUInt8] else (value % 128 + 128).toUInt8 :: groups (value / 128)

def characters (text : String) : List UInt8 := text.toList.map fun char => char.toNat.toUInt8

def string (text : String) : List UInt8 := groups text.toList.length ++ characters text

def place {α β : Type} [DecidableEq α] (named : List (α × β)) (meaning : α) : UInt8 :=
  (named.findIdx fun entry => entry.1 = meaning).toUInt8

def recordTag (tag : RecordTag) : List UInt8 := [place RecordTag.named tag]

def slotTag (tag : SlotTag) : List UInt8 := [place SlotTag.named tag]

def primitiveKind (kind : PrimitiveKind) : List UInt8 :=
  [(primitiveKinds.findIdx fun other => other = kind).toUInt8 + 1]

def slotType : SlotType → List UInt8
  | .primitive kind | .primitiveArray kind => primitiveKind kind
  | .systemClass name => string name
  | .userClass name library => string name ++ int32 library
  | .string | .object | .objectArray | .stringArray => []

def primitive : Primitive → List UInt8
  | .boolean value => [if value then 1 else 0]
  | .byte value => natural 1 value.toNat
  | .sbyte value => natural 1 value.toUInt8.toNat
  | .int16 value => natural 2 value.toUInt16.toNat
  | .uint16 value => natural 2 value.toNat
  | .int32 value => int32 value
  | .uint32 value => natural 4 value.toNat
  | .int64 value | .decimal value | .timeSpan value => natural 8 value.toUInt64.toNat
  | .uint64 value | .dateTime value => natural 8 value.toNat

end Write

structure Latin (text : String) : Prop where
  characters : ∀ char ∈ text.toList, char.toNat < 256
  length : text.toList.length < 2 ^ 31

theorem latin_iff (text : String) :
    Latin text ↔ text.toList.all (fun char => decide (char.toNat < 256)) = true ∧ text.toList.length < 2 ^ 31 := by
  rw [List.all_eq_true]
  simp only [decide_eq_true_eq]
  exact ⟨fun latin => ⟨latin.characters, latin.length⟩, fun both => ⟨both.1, both.2⟩⟩

instance (text : String) : Decidable (Latin text) := decidable_of_iff _ (latin_iff text).symm

def SlotType.Latin : SlotType → Prop
  | .systemClass name | .userClass name _ => Record.Latin name
  | _ => True

section Takes

variable {α β : Type}

theorem takes_pure (value : α) : Takes (pure value : Read α) [] value := fun _ _ => rfl

theorem takes_lift (value : α) : Takes (Read.lift (.ok value)) [] value := fun _ _ => rfl

theorem takes_lifted (result : Except Fault α) (value : α) (done : result = .ok value) :
    Takes (Read.lift result) [] value := by
  rw [done]
  exact takes_lift value

theorem takes_bind (read : Read α) (next : α → Read β) (first second : List UInt8) (value : α) (result : β)
    (one : Takes read first value) (two : Takes (next value) second result) :
    Takes (read >>= next) (first ++ second) result := by
  intro rest position
  rw [run_bind, List.append_assoc, one (second ++ rest) position]
  dsimp only
  rw [two rest (position + first.length), List.length_append, Nat.add_assoc]

theorem takes_last (read : Read α) (next : α → Read β) (bytes : List UInt8) (value : α) (result : β)
    (one : Takes read bytes value) (two : Takes (next value) [] result) : Takes (read >>= next) bytes result := by
  have both := takes_bind read next bytes [] value result one two
  rw [List.append_nil] at both
  exact both

theorem takes_bind_pure (read : Read α) (next : α → β) (bytes : List UInt8) (value : α)
    (one : Takes read bytes value) :
    Takes (do return next (← read)) bytes (next value) :=
  takes_last read (fun value => pure (next value)) bytes value (next value) one (takes_pure _)

theorem takes_position (next : Nat → Read α) (bytes : List UInt8) (value : α)
    (each : ∀ start, Takes (next start) bytes value) : Takes (Read.position >>= next) bytes value := by
  intro rest position
  rw [run_bind]
  exact each position rest position

theorem split_append (bytes rest : List UInt8) :
    Read.split? bytes.length (bytes ++ rest) = some (bytes, rest) := by
  induction bytes with
  | nil => rfl
  | cons byte bytes ih => simp only [List.length_cons, List.cons_append, Read.split?, ih]

theorem takes_take (bytes : List UInt8) : Takes (Read.take bytes.length) bytes bytes := by
  intro rest position
  simp only [Read.take, split_append]

theorem takes_many (read : Read α) (write : α → List UInt8) (values : List α)
    (each : ∀ value ∈ values, Takes read (write value) value) :
    Takes (Read.many values.length read) (values.flatMap write) values := by
  induction values with
  | nil => exact takes_pure _
  | cons value values ih =>
      have first := each value List.mem_cons_self
      have others := ih fun other member => each other (List.mem_cons_of_mem _ member)
      rw [List.flatMap_cons]
      exact takes_bind _ _ _ _ value _ first (takes_bind_pure _ (value :: ·) _ _ others)

end Takes

section Numbers

theorem length_natural (count value : Nat) : (Write.natural count value).length = count := by
  induction count generalizing value with
  | zero => rfl
  | succ count ih => rw [Write.natural, List.length_cons, ih]

theorem little_endian_natural (count value : Nat) (fits : value < 256 ^ count) :
    Read.littleEndian (Write.natural count value) = value := by
  induction count generalizing value with
  | zero =>
      rw [Nat.pow_zero] at fits
      rw [Nat.lt_one_iff.mp fits]
      rfl
  | succ count ih =>
      have less : value / 256 < 256 ^ count := by
        rw [Nat.pow_succ] at fits
        exact Nat.div_lt_of_lt_mul (by rw [Nat.mul_comm]; exact fits)
      rw [Write.natural, Read.littleEndian, ih (value / 256) less, Nat.toUInt8, UInt8.toNat_ofNat']
      exact Nat.mod_add_div value 256

theorem takes_natural (count value : Nat) (fits : value < 256 ^ count) :
    Takes (Read.natural count) (Write.natural count value) value := by
  have taken := takes_take (Write.natural count value)
  rw [length_natural] at taken
  have made := takes_bind_pure (Read.take count) Read.littleEndian _ _ taken
  rw [little_endian_natural count value fits] at made
  exact made

theorem takes_uint8 (value : UInt8) : Takes Read.uint8 [value] value := by
  have byte := takes_bind_pure (Read.natural 1) Nat.toUInt8 _ _ (takes_natural 1 value.toNat value.toNat_lt)
  have bytes : Write.natural 1 value.toNat = [value] := by
    simp [Write.natural]
  have back : value.toNat.toUInt8 = value := by simp
  rw [bytes, back] at byte
  exact byte

theorem takes_number {α : Type} (count value : Nat) (make : Nat → α) (result : α) (fits : value < 256 ^ count)
    (back : make value = result) :
    Takes (do return make (← Read.natural count)) (Write.natural count value) result := by
  rw [← back]
  exact takes_bind_pure (Read.natural count) make _ _ (takes_natural count value fits)

theorem takes_int32 (value : Int32) : Takes Read.int32 (Write.int32 value) value :=
  takes_number 4 _ _ value value.toUInt32.toNat_lt (by simp)

theorem takes_int8 (value : Int8) : Takes Read.int8 (Write.natural 1 value.toUInt8.toNat) value :=
  takes_number 1 _ _ value value.toUInt8.toNat_lt (by simp)

theorem takes_int16 (value : Int16) : Takes Read.int16 (Write.natural 2 value.toUInt16.toNat) value :=
  takes_number 2 _ _ value value.toUInt16.toNat_lt (by simp)

theorem takes_uint16 (value : UInt16) : Takes Read.uint16 (Write.natural 2 value.toNat) value :=
  takes_number 2 _ _ value value.toNat_lt (by simp)

theorem takes_uint32 (value : UInt32) : Takes Read.uint32 (Write.natural 4 value.toNat) value :=
  takes_number 4 _ _ value value.toNat_lt (by simp)

theorem takes_int64 (value : Int64) : Takes Read.int64 (Write.natural 8 value.toUInt64.toNat) value :=
  takes_number 8 _ _ value value.toUInt64.toNat_lt (by simp)

theorem takes_uint64 (value : UInt64) : Takes Read.uint64 (Write.natural 8 value.toNat) value :=
  takes_number 8 _ _ value value.toNat_lt (by simp)

theorem takes_byte (value : UInt8) : Takes Read.uint8 (Write.natural 1 value.toNat) value :=
  takes_number 1 _ _ value value.toNat_lt (by simp)

theorem takes_bool (value : Bool) : Takes Read.bool [if value then 1 else 0] value := by
  have taken := takes_bind_pure Read.uint8 (fun byte => decide (byte ≠ 0)) _ _ (takes_uint8 (if value then 1 else 0))
  cases value <;> exact taken

theorem takes_length (count : Nat) (fits : count < 2 ^ 31) : Takes Read.length (Write.length count) count := by
  have small : count.toUInt32.toNat = count := by
    rw [Nat.toUInt32, UInt32.toNat_ofNat']
    omega
  have back : count.toUInt32.toInt32.toInt = count := by
    change count.toUInt32.toBitVec.toInt = count
    rw [BitVec.toInt_eq_toNat_bmod, UInt32.toNat_toBitVec, small]
    exact Int.bmod_eq_of_le (by omega) (by omega)
  refine takes_position _ _ _ fun start => ?_
  have number := takes_number 4 count (fun value => value.toUInt32.toInt32) _ (by omega) rfl
  refine takes_last _ _ _ count.toUInt32.toInt32 count number ?_
  have positive : ¬ count.toUInt32.toInt32 < 0 := by
    rw [Int32.lt_iff_toInt_lt, back]
    simp
  rw [if_neg positive, back]
  exact takes_pure _

theorem byte_to_nat (value : Nat) (fits : value < 256) : value.toUInt8.toNat = value := by
  rw [Nat.toUInt8, UInt8.toNat_ofNat', Nat.mod_eq_of_lt fits]

theorem eight_le (byte : UInt8) : 8 ≤ byte ↔ 8 ≤ byte.toNat := UInt8.le_iff_toNat_le

theorem is_last (byte : UInt8) : byte < 128 ↔ byte.toNat < 128 := UInt8.lt_iff_toNat_lt

theorem takes_groups (start left weight before value : Nat) (fits : value < 8 * 128 ^ left) :
    Takes (Read.groups start (left + 1) weight before) (Write.groups value) (before + value * weight) := by
  induction left generalizing weight before value with
  | zero =>
      rw [Nat.pow_zero, Nat.mul_one] at fits
      have byte := byte_to_nat value (by omega)
      rw [Write.groups, if_pos (by omega)]
      refine takes_bind Read.uint8 _ _ [] value.toUInt8 _ (takes_uint8 _) ?_
      have short : ¬ (0 = 0 ∧ 8 ≤ value.toUInt8) := by
        rw [eight_le, byte]
        omega
      have last : value.toUInt8 < 128 := by
        rw [is_last, byte]
        omega
      dsimp only
      rw [if_neg short, if_pos last, byte, Nat.mod_eq_of_lt (by omega)]
      exact takes_pure _
  | succ left ih =>
      rw [Nat.pow_succ] at fits
      have inner : ∀ byte : UInt8, ¬ (left + 1 = 0 ∧ 8 ≤ byte) := fun _ both => Nat.succ_ne_zero left both.1
      rw [Write.groups]
      split
      · rename_i single
        have byte := byte_to_nat value (by omega)
        refine takes_bind Read.uint8 _ _ [] value.toUInt8 _ (takes_uint8 _) ?_
        have last : value.toUInt8 < 128 := by
          rw [is_last, byte]
          exact single
        dsimp only
        rw [if_neg (inner _), if_pos last, byte, Nat.mod_eq_of_lt single]
        exact takes_pure _
      · have byte := byte_to_nat (value % 128 + 128) (by omega)
        have rest := ih (128 * weight) (before + value % 128 * weight) (value / 128) (by omega)
        have total : before + value % 128 * weight + value / 128 * (128 * weight) = before + value * weight := by
          have parts : value = value % 128 + value / 128 * 128 := by omega
          conv => rhs; rw [parts]
          ring
        rw [total] at rest
        refine takes_bind Read.uint8 _ [_] _ (value % 128 + 128).toUInt8 _ (takes_uint8 _) ?_
        have more : ¬ (value % 128 + 128).toUInt8 < 128 := by
          rw [is_last, byte]
          exact Nat.not_lt_of_le (Nat.le_add_left 128 _)
        have bits : (value % 128 + 128) % 128 = value % 128 := by omega
        dsimp only
        rw [if_neg (inner _), if_neg more, byte, bits]
        exact rest

theorem takes_length_groups (count : Nat) (fits : count < 2 ^ 31) :
    Takes Read.lengthPrefix (Write.groups count) count := by
  refine takes_position _ _ _ fun start => ?_
  have groups := takes_groups start 4 1 0 count (by omega)
  rw [Nat.mul_one, Nat.zero_add] at groups
  exact groups

theorem characters_back (text : String) (latin : Latin text) :
    String.ofList ((Write.characters text).map fun byte => Char.ofNat byte.toNat) = text := by
  have same : (Write.characters text).map (fun byte => Char.ofNat byte.toNat) = text.toList := by
    rw [Write.characters, List.map_map]
    conv => rhs; rw [← List.map_id text.toList]
    refine List.map_congr_left fun char member => ?_
    have small := latin.characters char member
    change Char.ofNat char.toNat.toUInt8.toNat = char
    rw [byte_to_nat char.toNat small, Char.ofNat_toNat]
  rw [same, String.ofList_toList]

theorem takes_string (text : String) (latin : Latin text) : Takes Read.string (Write.string text) text := by
  refine takes_bind _ _ _ _ text.toList.length _ (takes_length_groups _ latin.length) ?_
  have taken := takes_take (Write.characters text)
  rw [Write.characters, List.length_map] at taken
  have made := takes_bind_pure _ (fun bytes : List UInt8 => String.ofList (bytes.map fun byte => Char.ofNat byte.toNat))
    _ _ taken
  rw [← Write.characters, characters_back text latin] at made
  exact made

end Numbers

section Tags

theorem takes_known {α : Type} (meaning : UInt8 → Option α) (unknown : Nat → UInt8 → Fault) (byte : UInt8) (value : α)
    (known : meaning byte = some value) : Takes (Read.known meaning unknown) [byte] value := by
  refine takes_position _ _ _ fun start => ?_
  refine takes_bind _ _ _ [] byte _ (takes_uint8 byte) ?_
  rw [known]
  exact takes_pure _

theorem takes_record_tag (tag : RecordTag) : Takes Read.recordTag (Write.recordTag tag) tag :=
  takes_known _ _ _ tag (by cases tag <;> decide)

theorem takes_slot_tag (tag : SlotTag) : Takes Read.slotTag (Write.slotTag tag) tag :=
  takes_known _ _ _ tag (by cases tag <;> decide)

theorem takes_primitive_kind (kind : PrimitiveKind) : Takes Read.primitiveKind (Write.primitiveKind kind) kind :=
  takes_known _ _ _ kind (by cases kind <;> decide)

theorem takes_array_shape : Takes Read.arrayShape [0] .single := takes_known _ _ _ _ (by decide)

theorem takes_slot_type (type : SlotType) (latin : SlotType.Latin type) :
    Takes (Read.slotType (slotTag type)) (Write.slotType type) type := by
  cases type with
  | primitive kind => exact takes_bind_pure _ SlotType.primitive _ _ (takes_primitive_kind kind)
  | string => exact takes_pure _
  | object => exact takes_pure _
  | systemClass name => exact takes_bind_pure _ SlotType.systemClass _ _ (takes_string name latin)
  | userClass name library =>
      exact takes_bind _ _ _ _ name _ (takes_string name latin)
        (takes_bind_pure _ (SlotType.userClass name) _ _ (takes_int32 library))
  | objectArray => exact takes_pure _
  | stringArray => exact takes_pure _
  | primitiveArray kind => exact takes_bind_pure _ SlotType.primitiveArray _ _ (takes_primitive_kind kind)

theorem takes_slot_types (types : List SlotType) (latin : ∀ type ∈ types, SlotType.Latin type) :
    Takes (Read.slotTypes (types.map slotTag)) (types.flatMap Write.slotType) types := by
  induction types with
  | nil => exact takes_pure _
  | cons type types ih =>
      have others := ih fun other member => latin other (List.mem_cons_of_mem _ member)
      rw [List.flatMap_cons, List.map_cons]
      exact takes_bind _ _ _ _ type _ (takes_slot_type type (latin type List.mem_cons_self))
        (takes_bind_pure _ (type :: ·) _ _ others)

theorem takes_primitive (value : Primitive) : Takes (Read.primitive value.kind) (Write.primitive value) value := by
  refine takes_position _ _ _ fun start => ?_
  cases value with
  | boolean value => exact takes_bind_pure _ Primitive.boolean _ _ (takes_bool value)
  | byte value => exact takes_bind_pure _ Primitive.byte _ _ (takes_byte value)
  | sbyte value => exact takes_bind_pure _ Primitive.sbyte _ _ (takes_int8 value)
  | int16 value => exact takes_bind_pure _ Primitive.int16 _ _ (takes_int16 value)
  | uint16 value => exact takes_bind_pure _ Primitive.uint16 _ _ (takes_uint16 value)
  | int32 value => exact takes_bind_pure _ Primitive.int32 _ _ (takes_int32 value)
  | uint32 value => exact takes_bind_pure _ Primitive.uint32 _ _ (takes_uint32 value)
  | int64 value => exact takes_bind_pure _ Primitive.int64 _ _ (takes_int64 value)
  | uint64 value => exact takes_bind_pure _ Primitive.uint64 _ _ (takes_uint64 value)
  | decimal value => exact takes_bind_pure _ Primitive.decimal _ _ (takes_int64 value)
  | timeSpan value => exact takes_bind_pure _ Primitive.timeSpan _ _ (takes_int64 value)
  | dateTime value => exact takes_bind_pure _ Primitive.dateTime _ _ (takes_uint64 value)

end Tags

end Flowline.Record
