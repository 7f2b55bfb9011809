import Flowline.Proofs.Record.Bytes
import Flowline.Record.Decode

set_option autoImplicit false

namespace Flowline.Record

open Flowline.Graph

def Cursor.moved (offset : Nat) (cursor : Cursor) : Cursor := ⟨cursor.rest, cursor.position + offset⟩

def movedResult {α : Type} (offset : Nat) (result : Except Fault α) : Except Fault α :=
  result.mapError (Fault.moved offset)

-- The bytes end before a read has got what it needs.
def RunsOut {α : Type} (read : Read α) (bytes : List UInt8) (position : Nat) : Prop :=
  ∃ start needed, (read ⟨bytes, position⟩).1 = .error (.unexpectedEnd start needed) ∧
    start ≤ position + bytes.length ∧ position + bytes.length < start + needed

-- From a cursor on the second read does further behind what the first one does, whatever bytes follow.
structure AlikeAt {α : Type} (offset : Nat) (left right : Read α) (cursor : Cursor) : Prop where
  done : ∀ value after, left cursor = (.ok value, after) →
    ∃ taken, cursor.rest = taken ++ after.rest ∧ after.position = cursor.position + taken.length ∧
      (∀ more, right ⟨taken ++ more, cursor.position + offset⟩ = (.ok value, ⟨more, after.position + offset⟩)) ∧
      ∀ front back, taken = front ++ back → back ≠ [] → RunsOut right front (cursor.position + offset)
  failed : ∀ fault after, left cursor = (.error fault, after) →
    right (cursor.moved offset) = (.error (fault.moved offset), after.moved offset)

structure Alike {α : Type} (offset : Nat) (left right : Read α) : Prop where
  anywhere : ∀ cursor, AlikeAt offset left right cursor

section Alike

variable {α β : Type} {offset : Nat}

theorem alike_lift (result : Except Fault α) :
    Alike offset (Read.lift result) (Read.lift (movedResult offset result)) := by
  refine ⟨fun cursor => ⟨fun value after done => ?_, fun fault after failed => ?_⟩⟩
  · cases done
    refine ⟨[], rfl, rfl, fun more => rfl, fun front back whole more => ?_⟩
    exact absurd (List.append_eq_nil_iff.mp whole.symm).2 more
  · cases failed
    rfl

theorem alike_pure (value : α) : Alike offset (pure value : Read α) (pure value) := alike_lift (.ok value)

theorem alike_fail (fault : Fault) :
    Alike offset (Read.fail fault : Read α) (Read.fail (fault.moved offset)) := alike_lift (.error fault)

theorem alike_lifted (left right : Except Fault α) (same : right = movedResult offset left) :
    Alike offset (Read.lift left) (Read.lift right) := by
  rw [same]
  exact alike_lift left

theorem runs_out_bind (first : Read α) (next : α → Read β) (bytes : List UInt8) (position : Nat)
    (short : RunsOut first bytes position) : RunsOut (first >>= next) bytes position := by
  obtain ⟨start, needed, failed, bounds⟩ := short
  refine ⟨start, needed, ?_, bounds⟩
  rw [run_bind]
  rcases outcome : first ⟨bytes, position⟩ with ⟨(fault | value), reached⟩
  · rw [outcome] at failed
    cases failed
    rfl
  · rw [outcome] at failed
    cases failed

theorem runs_out_next (first : Read α) (next : α → Read β) (taken front : List UInt8) (position : Nat) (value : α)
    (done : first ⟨taken ++ front, position⟩ = (.ok value, ⟨front, position + taken.length⟩))
    (short : RunsOut (next value) front (position + taken.length)) :
    RunsOut (first >>= next) (taken ++ front) position := by
  obtain ⟨start, needed, failed, below, above⟩ := short
  refine ⟨start, needed, ?_, ?_, ?_⟩
  · rw [run_bind, done]
    exact failed
  · rw [List.length_append]
    omega
  · rw [List.length_append]
    omega

-- Bytes of two reads that are cut end in those of the first one, or in those of the next one.
theorem runs_out_within (first : Read α) (next : α → Read β) (taken later front back : List UInt8) (position : Nat)
    (value : α) (done : ∀ more, first ⟨taken ++ more, position⟩ = (.ok value, ⟨more, position + taken.length⟩))
    (short : ∀ front back, taken = front ++ back → back ≠ [] → RunsOut first front position)
    (cut : ∀ front back, later = front ++ back → back ≠ [] → RunsOut (next value) front (position + taken.length))
    (split : taken ++ later = front ++ back) (more : back ≠ []) : RunsOut (first >>= next) front position := by
  rcases List.append_eq_append_iff.mp split with ⟨inner, frontParts, laterParts⟩ | ⟨inner, takenParts, backParts⟩
  · rw [frontParts]
    exact runs_out_next first next taken inner _ value (done inner) (cut inner back laterParts more)
  · cases inner with
    | nil =>
        rw [List.append_nil] at takenParts
        rw [List.nil_append] at backParts
        have ended := runs_out_next first next taken [] _ value (done []) (cut [] later rfl (backParts ▸ more))
        rw [List.append_nil, takenParts] at ended
        exact ended
    | cons byte inner => exact runs_out_bind first next front _ (short front (byte :: inner) takenParts (by simp))

theorem alike_bind_at (first second : Read α) (next behind : α → Read β) (cursor : Cursor)
    (one : AlikeAt offset first second cursor)
    (two : ∀ value after, first cursor = (.ok value, after) → AlikeAt offset (next value) (behind value) after) :
    AlikeAt offset (first >>= next) (second >>= behind) cursor := by
  constructor
  · intro result after done
    rw [run_bind] at done
    rcases outcome : first cursor with ⟨(fault | value), middle⟩
    · rw [outcome] at done
      cases done
    · rw [outcome] at done
      obtain ⟨taken, parts, place, whole, short⟩ := one.done value middle outcome
      obtain ⟨later, rest, last, through, cut⟩ := (two value middle outcome).done result after done
      have go : ∀ more, second ⟨taken ++ more, cursor.position + offset⟩ =
          (.ok value, ⟨more, cursor.position + offset + taken.length⟩) := by
        intro more
        rw [whole more, place, Nat.add_right_comm]
      rw [place, Nat.add_right_comm] at cut
      refine ⟨taken ++ later, ?_, ?_, fun more => ?_, fun front back split more => ?_⟩
      · rw [List.append_assoc, ← rest, parts]
      · rw [last, place, List.length_append, Nat.add_assoc]
      · rw [List.append_assoc, run_bind, whole (later ++ more)]
        exact through more
      · exact runs_out_within second behind taken later front back _ value go short cut split more
  · intro fault after failed
    rw [run_bind] at failed
    rcases outcome : first cursor with ⟨(early | value), middle⟩
    · rw [outcome] at failed
      cases failed
      rw [run_bind, one.failed fault after outcome]
    · rw [outcome] at failed
      obtain ⟨taken, parts, place, whole, _⟩ := one.done value middle outcome
      rw [Cursor.moved, run_bind, parts, whole middle.rest]
      exact (two value middle outcome).failed fault after failed

theorem alike_bind (first second : Read α) (next behind : α → Read β) (one : Alike offset first second)
    (two : ∀ value, Alike offset (next value) (behind value)) : Alike offset (first >>= next) (second >>= behind) :=
  ⟨fun cursor => alike_bind_at first second next behind cursor (one.anywhere cursor) fun value after _ =>
    (two value).anywhere after⟩

theorem alike_position (next behind : Nat → Read α)
    (each : ∀ start, Alike offset (next start) (behind (start + offset))) :
    Alike offset (Read.position >>= next) (Read.position >>= behind) :=
  ⟨fun cursor => ⟨((each cursor.position).anywhere cursor).done, ((each cursor.position).anywhere cursor).failed⟩⟩

theorem alike_take (count : Nat) : Alike offset (Read.take count) (Read.take count) := by
  refine ⟨fun cursor => ?_⟩
  by_cases enough : count ≤ cursor.rest.length
  · refine ⟨fun value after done => ?_, fun fault after failed => ?_⟩
    · rw [Read.take_enough count cursor enough] at done
      cases done
      have size : (cursor.rest.take count).length = count := by simp [enough]
      refine ⟨cursor.rest.take count, (List.take_append_drop count _).symm, ?_, fun more => ?_, ?_⟩
      · rw [size]
      · have taken := takes_take (cursor.rest.take count) more (cursor.position + offset)
        rw [size] at taken
        rw [taken, Nat.add_right_comm]
      · intro front back split more
        have shorter : front.length < count := by
          have positive := List.length_pos_iff.mpr more
          have sum := congrArg List.length split
          rw [size, List.length_append] at sum
          omega
        refine ⟨cursor.position + offset, count, ?_, Nat.le_add_right _ _, Nat.add_lt_add_left shorter _⟩
        rw [Read.take_short count _ shorter]
    · rw [Read.take_enough count cursor enough] at failed
      cases failed
  · have short : cursor.rest.length < count := Nat.lt_of_not_le enough
    refine ⟨fun value after done => ?_, fun fault after failed => ?_⟩
    · rw [Read.take_short count cursor short] at done
      cases done
    · rw [Read.take_short count cursor short] at failed
      cases failed
      exact Read.take_short count (cursor.moved offset) short

theorem alike_congruent : Congruent offset fun _ => Alike offset where
  returned := alike_pure
  refused := fun fault _ => alike_fail fault
  located := alike_position _ _
  taken := alike_take
  chained := alike_bind _ _ _ _

end Alike

end Flowline.Record
