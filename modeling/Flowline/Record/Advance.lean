import Flowline.Outcome
import Flowline.Record.Walk

set_option autoImplicit false

namespace Flowline.Record

def Advances {α : Type} (read : Read α) : Prop :=
  ∀ cursor : Cursor, (read cursor).2.rest.length ≤ cursor.rest.length

def Consumes {α : Type} (read : Read α) : Prop :=
  ∀ (cursor : Cursor) (value : α), (read cursor).1 = .ok value →
    (read cursor).2.rest.length < cursor.rest.length

namespace Read

variable {α β : Type}

theorem bind_advances (read : Read α) (next : α → Read β) (first : Advances read)
    (second : ∀ value, Advances (next value)) : Advances (read >>= next) :=
  respects_bind (fun before after : Cursor => after.rest.length ≤ before.rest.length)
    (fun _ _ _ earlier later => Nat.le_trans later earlier) read next first second

theorem bind_consumes (read : Read α) (next : α → Read β) (first : Consumes read)
    (second : ∀ value, Advances (next value)) : Consumes (read >>= next) := by
  intro cursor result done
  have before := first cursor
  rw [run_bind] at done ⊢
  rcases outcome : read cursor with ⟨(fault | value), reached⟩
  · rw [outcome] at done
    cases done
  · rw [outcome] at before
    exact Nat.lt_of_le_of_lt (second value reached) (before value rfl)

theorem position_consumes (next : Nat → Read α) (each : ∀ start, Consumes (next start)) :
    Consumes (position >>= next) :=
  fun cursor => each cursor.position cursor

theorem split_take (count : Nat) (items : List α) :
    split? count items = if count ≤ items.length then some (items.take count, items.drop count) else none := by
  induction count generalizing items with
  | zero => simp [split?]
  | succ count ih =>
      cases items with
      | nil => simp [split?]
      | cons item rest =>
          simp only [split?, ih rest, List.length_cons, Nat.add_le_add_iff_right]
          by_cases enough : count ≤ rest.length
          · simp [enough]
          · simp [enough]

theorem take_enough (count : Nat) (cursor : Cursor) (enough : count ≤ cursor.rest.length) :
    take count cursor = (.ok (cursor.rest.take count), ⟨cursor.rest.drop count, cursor.position + count⟩) := by
  simp only [take, split_take, if_pos enough]

theorem take_short (count : Nat) (cursor : Cursor) (short : cursor.rest.length < count) :
    take count cursor = (.error (.unexpectedEnd cursor.position count), cursor) := by
  simp only [take, split_take, if_neg (Nat.not_le_of_lt short)]

end Read

theorem advances_congruent : Congruent 0 fun _ read _ => Advances read where
  returned := fun _ _ => Nat.le_refl _
  refused := fun _ _ _ => Nat.le_refl _
  located := fun each cursor => each cursor.position cursor
  taken := by
    intro count cursor
    rcases Nat.lt_or_ge cursor.rest.length count with short | enough
    · exact Nat.le_of_eq (by rw [Read.take_short count cursor short])
    · rw [Read.take_enough count cursor enough]
      exact (List.drop_sublist count cursor.rest).length_le
  chained := fun first second => Read.bind_advances _ _ first second

theorem advances_handled (draft : Draft) : Handled 0 (fun _ read _ => Advances read) draft where
  stored := fun _ _ _ => Nat.le_refl _
  nulls := fun _ _ _ => Nat.le_refl _
  string := fun _ _ _ _ => Nat.le_refl _
  array := fun _ _ _ _ _ => Nat.le_refl _
  instantiated := fun _ _ _ _ => Nat.le_refl _
  declared := fun _ _ _ _ _ _ => Nat.le_refl _

theorem lift_advances {α : Type} (result : Except Fault α) : Advances (Read.lift result) := fun _ => Nat.le_refl _

theorem item_advances (draft : Draft) : Advances (readItem draft) :=
  advances_congruent.item (advances_handled draft)

theorem number_consumes {α : Type} (count : Nat) (value : Nat → α) (positive : 0 < count) :
    Consumes (do return value (← Read.natural count) : Read α) := by
  have whole : Consumes (Read.take count) := by
    intro cursor bytes done
    rcases Nat.lt_or_ge cursor.rest.length count with short | enough
    · rw [Read.take_short count cursor short] at done
      cases done
    · rw [Read.take_enough count cursor enough]
      show (cursor.rest.drop count).length < cursor.rest.length
      rw [List.length_drop]
      omega
  exact Read.bind_consumes _ _ (Read.bind_consumes _ _ whole fun _ => advances_congruent.returned _)
    fun _ => advances_congruent.returned _

theorem known_consumes {α : Type} (meaning : UInt8 → Option α) (unknown : Nat → UInt8 → Fault) :
    Consumes (Read.known meaning unknown) := by
  refine Read.position_consumes _ fun start =>
    Read.bind_consumes _ _ (number_consumes 1 _ (by decide)) fun byte => ?_
  split
  · exact lift_advances _
  · exact lift_advances _

theorem primitive_consumes (kind : Graph.PrimitiveKind) : Consumes (Read.primitive kind) := by
  rcases Read.primitive_form kind with ⟨count, make, positive, form⟩ | form
  · rw [form]
    exact number_consumes count make positive
  · rw [form]
    exact fun _ _ done => nomatch done

theorem item_consumes (draft : Draft) : Consumes (readItem draft) := by
  unfold readItem
  split
  · exact Read.position_consumes _ fun start => Read.bind_consumes _ _ (primitive_consumes _) fun _ =>
      Read.bind_advances _ _ (lift_advances _) fun _ => lift_advances _
  · refine Read.position_consumes _ fun start => Read.bind_consumes _ _ (known_consumes _ _) fun tag => ?_
    split
    · split
      · exact lift_advances _
      · exact lift_advances _
    · exact Read.bind_advances _ _ (advances_congruent.record (advances_handled draft) _ start) fun _ =>
        lift_advances _

theorem header_consumes : Consumes readHeader := by
  refine Read.position_consumes _ fun start => Read.bind_consumes _ _ (known_consumes _ _) fun tag => ?_
  have number : Advances Read.int32 := advances_congruent.int32
  split
  · exact Read.bind_advances _ _ number fun _ => Read.bind_advances _ _ number fun _ =>
      Read.bind_advances _ _ number fun _ => Read.bind_advances _ _ number fun _ => lift_advances _
  · exact lift_advances _

end Flowline.Record
