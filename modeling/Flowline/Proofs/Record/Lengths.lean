import Flowline.Proofs.Record.Bytes
import Mathlib.Data.Nat.Digits.Defs

set_option autoImplicit false

namespace Flowline.Record

def grouped (bytes : List UInt8) : Nat := Nat.ofDigits 128 (bytes.map fun byte => byte.toNat % 128)

-- Bytes that spell a length in so many groups at most. The last group there may be has three bits only.
structure Spells (count : Nat) (more : List UInt8) (last : UInt8) : Prop where
  going : ∀ byte ∈ more, 128 ≤ byte
  ended : last < 128
  few : more.length < count
  small : more.length + 1 = count → last < 8

def Cut (count : Nat) (bytes : List UInt8) : Prop := bytes.length < count ∧ ∀ byte ∈ bytes, 128 ≤ byte

-- Bytes that go on up to the last group there may be, which is too large.
structure Overflows (count : Nat) (more : List UInt8) (last : UInt8) : Prop where
  going : ∀ byte ∈ more, 128 ≤ byte
  large : 8 ≤ last
  full : more.length + 1 = count

section Fronts

variable {left : Nat} {more : List UInt8} {byte last : UInt8}

theorem Spells.cons (going : 128 ≤ byte) (spells : Spells left more last) : Spells (left + 1) (byte :: more) last where
  going := List.forall_mem_cons.mpr ⟨going, spells.going⟩
  ended := spells.ended
  few := Nat.succ_lt_succ spells.few
  small full := spells.small (Nat.succ.inj full)

theorem Spells.tail (spells : Spells (left + 1) (byte :: more) last) : Spells left more last where
  going := (List.forall_mem_cons.mp spells.going).2
  ended := spells.ended
  few := Nat.lt_of_succ_lt_succ spells.few
  small full := spells.small (congrArg Nat.succ full)

theorem Overflows.cons (going : 128 ≤ byte) (overflows : Overflows left more last) :
    Overflows (left + 1) (byte :: more) last where
  going := List.forall_mem_cons.mpr ⟨going, overflows.going⟩
  large := overflows.large
  full := congrArg Nat.succ overflows.full

theorem front_cases (left : Nat) (bytes : List UInt8) :
    (∃ more last rest, bytes = more ++ last :: rest ∧ Spells (left + 1) more last) ∨ Cut (left + 1) bytes ∨
      ∃ more last rest, bytes = more ++ last :: rest ∧ Overflows (left + 1) more last := by
  induction bytes generalizing left with
  | nil => exact Or.inr (Or.inl ⟨Nat.succ_pos left, nofun⟩)
  | cons byte rest ih =>
      by_cases ended : byte < 128
      · by_cases small : left = 0 → byte < 8
        · exact Or.inl ⟨[], byte, rest, rfl, nofun, ended, Nat.succ_pos left, fun full => small (Nat.succ.inj full).symm⟩
        · obtain ⟨none_left, large⟩ := Classical.not_imp.mp small
          refine Or.inr (Or.inr ⟨[], byte, rest, rfl, nofun, UInt8.not_lt.mp large, ?_⟩)
          rw [none_left]
          rfl
      · have going := UInt8.not_lt.mp ended
        cases left with
        | zero =>
            have large : (8 : UInt8) ≤ byte := UInt8.le_trans (by decide) going
            exact Or.inr (Or.inr ⟨[], byte, rest, rfl, nofun, large, rfl⟩)
        | succ left =>
            rcases ih left with ⟨more, last, behind, rfl, spells⟩ | cut | ⟨more, last, behind, rfl, overflows⟩
            · exact Or.inl ⟨byte :: more, last, behind, rfl, spells.cons going⟩
            · exact Or.inr (Or.inl ⟨Nat.succ_lt_succ cut.1, List.forall_mem_cons.mpr ⟨going, cut.2⟩⟩)
            · exact Or.inr (Or.inr ⟨byte :: more, last, behind, rfl, overflows.cons going⟩)

theorem grouped_cons (byte : UInt8) (bytes : List UInt8) :
    grouped (byte :: bytes) = byte.toNat % 128 + 128 * grouped bytes := Nat.ofDigits_cons

theorem grouped_append (bytes : List UInt8) (last : UInt8) :
    grouped (bytes ++ [last]) = grouped bytes + 128 ^ bytes.length * (last.toNat % 128) := by
  rw [grouped, List.map_append, Nat.ofDigits_append, List.length_map, List.map_singleton, Nat.ofDigits_singleton]
  rfl

theorem grouped_lt (bytes : List UInt8) : grouped bytes < 128 ^ bytes.length := by
  have below := Nat.ofDigits_lt_base_pow_length (b := 128) (l := bytes.map fun byte => byte.toNat % 128) (by decide)
    fun digit member => by
      obtain ⟨byte, _, rfl⟩ := List.mem_map.mp member
      exact Nat.mod_lt _ (by decide)
  rw [List.length_map] at below
  exact below

theorem spelt_small (spells : Spells (left + 1) more last) : grouped (more ++ [last]) < 8 * 128 ^ left := by
  by_cases full : more.length = left
  · have low := grouped_lt more
    have small : last.toNat < 8 := UInt8.lt_iff_toNat_lt.mp (spells.small (congrArg Nat.succ full))
    rw [full] at low
    rw [grouped_append, full, Nat.mod_eq_of_lt (Nat.lt_of_lt_of_le small (by decide))]
    calc
      grouped more + 128 ^ left * last.toNat < 128 ^ left + 128 ^ left * last.toNat := Nat.add_lt_add_right low _
      _ = 128 ^ left * (last.toNat + 1) := by ring
      _ ≤ 128 ^ left * 8 := Nat.mul_le_mul_left _ small
      _ = 8 * 128 ^ left := Nat.mul_comm _ _
  · have fewer : more.length + 1 ≤ left := Nat.lt_of_le_of_ne (Nat.le_of_lt_succ spells.few) full
    have below := grouped_lt (more ++ [last])
    rw [List.length_append] at below
    calc
      grouped (more ++ [last]) < 128 ^ (more.length + 1) := below
      _ ≤ 128 ^ left := Nat.pow_le_pow_right (by decide) fewer
      _ ≤ 8 * 128 ^ left := Nat.le_mul_of_pos_left _ (by decide)

end Fronts

section Groups

variable (start weight value : Nat) {left : Nat} {more : List UInt8} {last : UInt8}

theorem groups_byte (left : Nat) (byte : UInt8) (rest : List UInt8) (position : Nat) :
    Read.groups start (left + 1) weight value ⟨byte :: rest, position⟩ =
      if left = 0 ∧ 8 ≤ byte then (.error (.badLengthPrefix start), ⟨rest, position + 1⟩)
      else if byte < 128 then (.ok (value + byte.toNat % 128 * weight), ⟨rest, position + 1⟩)
      else Read.groups start left (128 * weight) (value + byte.toNat % 128 * weight) ⟨rest, position + 1⟩ := by
  have read := takes_uint8 byte rest position
  rw [List.singleton_append] at read
  rw [Read.groups, run_bind, read]
  dsimp only
  split
  · rfl
  · split <;> rfl

theorem groups_going (left : Nat) (byte : UInt8) (rest : List UInt8) (position : Nat) (going : 128 ≤ byte) :
    Read.groups start (left + 2) weight value ⟨byte :: rest, position⟩ =
      Read.groups start (left + 1) (128 * weight) (value + byte.toNat % 128 * weight) ⟨rest, position + 1⟩ := by
  rw [groups_byte, if_neg fun both => Nat.succ_ne_zero left both.1, if_neg (UInt8.not_lt.mpr going)]

theorem groups_spelt (rest : List UInt8) (position : Nat) (spells : Spells (left + 1) more last) :
    Read.groups start (left + 1) weight value ⟨more ++ last :: rest, position⟩ =
      (.ok (value + grouped (more ++ [last]) * weight), ⟨rest, position + (more.length + 1)⟩) := by
  induction more generalizing left weight value position with
  | nil =>
      have small : ¬ (left = 0 ∧ 8 ≤ last) := by
        rintro ⟨rfl, large⟩
        exact UInt8.not_le.mpr (spells.small rfl) large
      rw [List.nil_append, groups_byte, if_neg small, if_pos spells.ended, List.nil_append, grouped_cons]
      simp [grouped]
  | cons byte more ih =>
      cases left with
      | zero => exact absurd spells.few (by simp)
      | succ left =>
          have going := spells.going byte List.mem_cons_self
          have total : value + byte.toNat % 128 * weight + grouped (more ++ [last]) * (128 * weight) =
              value + (byte.toNat % 128 + 128 * grouped (more ++ [last])) * weight := by ring
          have behind : position + 1 + (more.length + 1) = position + (more.length + 1 + 1) := by omega
          rw [List.cons_append, groups_going _ _ _ _ _ _ _ going, ih (128 * weight) _ (position + 1) spells.tail,
            total, behind, List.cons_append, grouped_cons, List.length_cons]

theorem groups_cut (bytes : List UInt8) (position : Nat) (cut : Cut (left + 1) bytes) :
    Read.groups start (left + 1) weight value ⟨bytes, position⟩ =
      (.error (.unexpectedEnd (position + bytes.length) 1), ⟨[], position + bytes.length⟩) := by
  induction bytes generalizing left weight value position with
  | nil => rfl
  | cons byte rest ih =>
      cases left with
      | zero => exact absurd cut.1 (by simp)
      | succ left =>
          have parts := List.forall_mem_cons.mp cut.2
          rw [groups_going _ _ _ _ _ _ _ parts.1, ih (128 * weight) _ (position + 1)
            ⟨Nat.lt_of_succ_lt_succ cut.1, parts.2⟩, List.length_cons, Nat.add_right_comm, Nat.add_assoc]

theorem groups_overflow (rest : List UInt8) (position : Nat) (overflows : Overflows (left + 1) more last) :
    Read.groups start (left + 1) weight value ⟨more ++ last :: rest, position⟩ =
      (.error (.badLengthPrefix start), ⟨rest, position + (left + 1)⟩) := by
  induction more generalizing left weight value position with
  | nil =>
      have none_left : left = 0 := (Nat.succ.inj overflows.full).symm
      rw [List.nil_append, groups_byte, if_pos ⟨none_left, overflows.large⟩, none_left]
  | cons byte more ih =>
      have parts := List.forall_mem_cons.mp overflows.going
      cases left with
      | zero => exact absurd overflows.full (by simp)
      | succ left =>
          rw [List.cons_append, groups_going _ _ _ _ _ _ _ parts.1, ih (128 * weight) _ (position + 1)
            ⟨parts.2, overflows.large, Nat.succ.inj overflows.full⟩, Nat.add_right_comm, Nat.add_assoc]

end Groups

section Words

namespace Read

-- The groups in 32-bit words: each is masked, shifted to its place and joined with those before it.
def wordGroups (start : Nat) : Nat → UInt32 → Read Nat
  | 0, _ => fail (.badLengthPrefix start)
  | left + 1, word => do
      let byte ← uint8
      if left = 0 ∧ byte &&& 0xF8 ≠ 0 then fail (.badLengthPrefix start)
      else
        let word := word ||| (byte &&& 0x7F).toUInt32 <<< (7 * (4 - left)).toUInt32
        if byte &&& 0x80 = 0 then return word.toNat else wordGroups start left word

def wordPrefix : Read Nat := do
  let start ← position
  wordGroups start 5 0

end Read

theorem beyond_three_bits (byte : UInt8) : byte &&& 0xF8 ≠ 0 ↔ 8 ≤ byte := by
  obtain ⟨⟨value⟩⟩ := byte
  revert value
  decide +kernel

theorem no_other_group (byte : UInt8) : byte &&& 0x80 = 0 ↔ byte < 128 := by
  obtain ⟨⟨value⟩⟩ := byte
  revert value
  decide +kernel

theorem group_bits (byte : UInt8) : (byte &&& 0x7F).toUInt32.toNat = byte.toNat % 128 := by
  rw [UInt8.toNat_toUInt32, UInt8.toNat_and]
  exact Nat.and_two_pow_sub_one_eq_mod byte.toNat 7

-- A group has no bit in common with the word below its place, and none beyond the word's 32 bits.
theorem join_group (word : UInt32) (byte : UInt8) (place : Nat) (low : word.toNat < 2 ^ (7 * place)) (within : place ≤ 4)
    (small : place = 4 → byte < 8) :
    (word ||| (byte &&& 0x7F).toUInt32 <<< (7 * place).toUInt32).toNat =
      word.toNat + byte.toNat % 128 * 2 ^ (7 * place) := by
  have shift : (7 * place).toUInt32.toNat % 32 = 7 * place := by
    rw [Nat.toUInt32, UInt32.toNat_ofNat']
    omega
  have fits : byte.toNat % 128 * 2 ^ (7 * place) < 2 ^ 32 := by
    by_cases last : place = 4
    · have three : byte.toNat < 8 := UInt8.lt_iff_toNat_lt.mp (small last)
      rw [last]
      omega
    · have power : 2 ^ (7 * place) ≤ 2 ^ 21 := Nat.pow_le_pow_right (by decide) (by omega)
      have group : byte.toNat % 128 < 128 := Nat.mod_lt _ (by decide)
      calc
        byte.toNat % 128 * 2 ^ (7 * place) ≤ 127 * 2 ^ 21 := Nat.mul_le_mul (Nat.le_of_lt_succ group) power
        _ < 2 ^ 32 := by decide
  rw [UInt32.toNat_or, UInt32.toNat_shiftLeft, shift, group_bits, Nat.shiftLeft_eq, Nat.mod_eq_of_lt fits, Nat.or_comm,
    Nat.mul_comm, ← Nat.two_pow_add_eq_or_of_lt low, Nat.add_comm]

theorem groups_in_words (start left : Nat) (word : UInt32) (few : left ≤ 5) (low : word.toNat < 2 ^ (7 * (5 - left))) :
    Read.groups start left (2 ^ (7 * (5 - left))) word.toNat = Read.wordGroups start left word := by
  induction left generalizing word with
  | zero => rfl
  | succ left ih =>
      have place : 5 - (left + 1) = 4 - left := by omega
      rw [place] at low ⊢
      rw [Read.groups, Read.wordGroups]
      refine bind_congr fun byte => ?_
      simp only [beyond_three_bits, no_other_group]
      by_cases large : left = 0 ∧ 8 ≤ byte
      · rw [if_pos large, if_pos large]
      · have small : 4 - left = 4 → byte < 8 := fun last => UInt8.not_le.mp fun more => large ⟨by omega, more⟩
        have joined := join_group word byte (4 - left) low (Nat.sub_le 4 left) small
        rw [if_neg large, if_neg large, ← joined]
        have next : 5 - left = 4 - left + 1 := by omega
        have power : 2 ^ (7 * (5 - left)) = 128 * 2 ^ (7 * (4 - left)) := by
          rw [next, Nat.mul_add, Nat.pow_add, Nat.mul_comm]
        rw [← power, ih _ (Nat.le_of_succ_le few)]
        rw [joined, power]
        have group : byte.toNat % 128 ≤ 127 := Nat.le_of_lt_succ (Nat.mod_lt _ (by decide))
        have most := Nat.mul_le_mul_right (2 ^ (7 * (4 - left))) group
        omega

theorem prefix_in_words : Read.lengthPrefix = Read.wordPrefix :=
  bind_congr fun start => groups_in_words start 5 0 (Nat.le_refl 5) (by decide)

end Words

section Lengths

variable (bytes : List UInt8) (position : Nat) {more : List UInt8} {last : UInt8}

theorem prefix_groups :
    Read.lengthPrefix ⟨bytes, position⟩ = Read.groups position (4 + 1) 1 0 ⟨bytes, position⟩ := by
  rw [Read.lengthPrefix, run_bind]
  rfl

theorem prefix_spelt (rest : List UInt8) (spells : Spells 5 more last) :
    Read.lengthPrefix ⟨more ++ last :: rest, position⟩ =
      (.ok (grouped (more ++ [last])), ⟨rest, position + (more.length + 1)⟩) := by
  rw [prefix_groups, groups_spelt position 1 0 rest position spells, Nat.zero_add, Nat.mul_one]

theorem prefix_cut (cut : Cut 5 bytes) :
    Read.lengthPrefix ⟨bytes, position⟩ =
      (.error (.unexpectedEnd (position + bytes.length) 1), ⟨[], position + bytes.length⟩) := by
  rw [prefix_groups, groups_cut position 1 0 bytes position cut]

theorem prefix_overflow (rest : List UInt8) (overflows : Overflows 5 more last) :
    Read.lengthPrefix ⟨more ++ last :: rest, position⟩ = (.error (.badLengthPrefix position), ⟨rest, position + 5⟩) := by
  rw [prefix_groups, groups_overflow position 1 0 rest position overflows]

/-- A length is read just where the next five bytes hold one that ends it, which is at most 7 if it is the fifth; it is
the sum of the groups up to there. Bytes that end too early and lengths that are too large fail so. What is written for a
length below two to the thirty-first, and for a string of characters of one byte, is read back with anything behind it. -/
theorem lengths_read :
    (∀ bytes position,
        ((∃ value after, Read.lengthPrefix ⟨bytes, position⟩ = (.ok value, after)) ↔
          ∃ more last rest, bytes = more ++ last :: rest ∧ Spells 5 more last) ∧
        (∀ more last rest, bytes = more ++ last :: rest → Spells 5 more last →
          Read.lengthPrefix ⟨bytes, position⟩ =
              (.ok (grouped (more ++ [last])), ⟨rest, position + (more ++ [last]).length⟩) ∧
            grouped (more ++ [last]) < 2 ^ 31) ∧
        (Cut 5 bytes → Read.lengthPrefix ⟨bytes, position⟩ =
          (.error (.unexpectedEnd (position + bytes.length) 1), ⟨[], position + bytes.length⟩)) ∧
        (¬ Cut 5 bytes → (¬ ∃ more last rest, bytes = more ++ last :: rest ∧ Spells 5 more last) →
          Read.lengthPrefix ⟨bytes, position⟩ =
            (.error (.badLengthPrefix position), ⟨bytes.drop 5, position + 5⟩))) ∧
      Read.lengthPrefix = Read.wordPrefix ∧
      (∀ count < 2 ^ 31, Takes Read.lengthPrefix (Write.groups count) count) ∧
      ∀ text, Latin text → Takes Read.string (Write.string text) text := by
  refine ⟨fun bytes position => ⟨⟨?_, ?_⟩, ?_, prefix_cut bytes position, ?_⟩, prefix_in_words, takes_length_groups,
    takes_string⟩
  · rintro ⟨value, after, done⟩
    rcases front_cases 4 bytes with spelt | cut | ⟨more, last, rest, rfl, overflows⟩
    · exact spelt
    · rw [prefix_cut bytes position cut] at done
      cases done
    · rw [prefix_overflow position rest overflows] at done
      cases done
  · rintro ⟨more, last, rest, rfl, spells⟩
    exact ⟨_, _, prefix_spelt position rest spells⟩
  · rintro more last rest rfl spells
    rw [List.length_append]
    exact ⟨prefix_spelt position rest spells, spelt_small spells⟩
  · intro whole unspelt
    rcases front_cases 4 bytes with spelt | cut | ⟨more, last, rest, rfl, overflows⟩
    · exact absurd spelt unspelt
    · exact absurd cut whole
    · have five : more.length + 1 = 5 := overflows.full
      have behind : (more ++ last :: rest).drop 5 = rest := by
        rw [← five, ← List.drop_drop, List.drop_left]
        rfl
      rw [behind]
      exact prefix_overflow position rest overflows

-- A length in two groups, one that is cut, one that is too large, the largest one and a string with a letter that is
-- not of ASCII.
theorem lengths_read_several :
    Read.lengthPrefix ⟨[0x96, 0x01, 0x05], 3⟩ = (.ok 150, ⟨[0x05], 5⟩) ∧
      Read.lengthPrefix ⟨[0x80], 3⟩ = (.error (.unexpectedEnd 4 1), ⟨[], 4⟩) ∧
      Read.lengthPrefix ⟨[0xFF, 0xFF, 0xFF, 0xFF, 0x7F, 0x05], 3⟩ = (.error (.badLengthPrefix 3), ⟨[0x05], 8⟩) ∧
      Takes Read.lengthPrefix (Write.groups 2147483647) 2147483647 ∧ Takes Read.string (Write.string "caf\u00e9") "caf\u00e9" := by
  have spells : Spells 5 [0x96] 0x01 := ⟨by decide +kernel, by decide, by decide, by decide⟩
  have unspelt : ¬ ∃ more last rest, [0xFF, 0xFF, 0xFF, 0xFF, 0x7F, 0x05] = more ++ last :: rest ∧ Spells 5 more last := by
    intro spelt
    obtain ⟨value, after, done⟩ := (lengths_read.1 _ 3).1.mpr spelt
    cases done
  have cut : Cut 5 [0x80] := ⟨by decide, by decide +kernel⟩
  exact ⟨((lengths_read.1 _ 3).2.1 [0x96] 0x01 [0x05] rfl spells).1, (lengths_read.1 _ 3).2.2.1 cut,
    (lengths_read.1 _ 3).2.2.2 (fun cut => absurd cut.1 (by decide)) unspelt, lengths_read.2.2.1 _ (by decide),
    lengths_read.2.2.2 _ ((latin_iff _).mpr (by decide))⟩

end Lengths

end Flowline.Record
