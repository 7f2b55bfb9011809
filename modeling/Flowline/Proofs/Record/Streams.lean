import Flowline.Proofs.Record.Changes
import Flowline.Proofs.Record.Moved

set_option autoImplicit false

namespace Flowline.Record

open Flowline.Graph

section Drafts

variable {α β : Type} (offset : Nat)

theorem moved_bind (first : Except Fault α) (next : α → Except Fault β) :
    movedResult offset (first >>= next) =
      movedResult offset first >>= fun value => movedResult offset (next value) := by
  cases first <;> rfl

variable (draft : Draft)

theorem store_moved (member : Member) (position : Nat) :
    draft.store member (position + offset) = movedResult offset (draft.store member position) := by
  simp only [Draft.store]
  cases draft.stack with
  | nil => rfl
  | cons frame outer => cases member <;> rfl

theorem store_nulls_moved (count position : Nat) :
    draft.storeNulls count (position + offset) = movedResult offset (draft.storeNulls count position) := by
  simp only [Draft.storeNulls]
  cases draft.stack with
  | nil => rfl
  | cons frame outer => by_cases full : frame.remaining < count <;> simp [full] <;> rfl

theorem patch_moved (slot : Waiting) (id : ObjectId) (position : Nat) :
    draft.patch slot id (position + offset) = movedResult offset (draft.patch slot id position) := by
  simp only [Draft.patch]
  split
  · split <;> rfl
  · rfl

theorem patch_all_moved (slots : List Waiting) (id : ObjectId) (position : Nat) :
    draft.patchAll slots id (position + offset) = movedResult offset (draft.patchAll slots id position) := by
  induction slots generalizing draft with
  | nil => rfl
  | cons slot rest ih =>
      simp only [Draft.patchAll, patch_moved]
      cases draft.patch slot id position with
      | ok patched => exact ih patched
      | error fault => rfl

theorem enter_moved (id : ObjectId) (object : Object) (position : Nat) :
    draft.enter id object (position + offset) = movedResult offset (draft.enter id object position) := by
  by_cases known : draft.graph.contains id
  · simp only [Draft.enter, if_pos known]
    rfl
  · simp only [Draft.enter, if_neg known]
    exact patch_all_moved offset _ _ id position

theorem add_moved (id : ObjectId) (object : Object) (slots : Option Slots) (position : Nat) :
    draft.add id object slots (position + offset) = movedResult offset (draft.add id object slots position) := by
  have entering : ∀ opening : Draft → Except Fault Draft,
      (∀ entered, opening entered = movedResult offset (opening entered)) → ∀ linked : Draft,
        (linked.enter id object (position + offset) >>= opening) =
          movedResult offset (linked.enter id object position >>= opening) := by
    intro opening still linked
    rw [enter_moved, moved_bind]
    congr 1
    funext entered
    exact still entered
  simp only [Draft.add]
  by_cases outside : draft.stack.isEmpty = true
  · simp only [if_pos outside]
    exact entering _ (fun entered => by cases slots <;> rfl) draft
  · simp only [if_neg outside]
    rw [store_moved, moved_bind]
    congr 1
    funext linked
    exact entering _ (fun entered => by cases slots <;> rfl) linked

theorem add_array_moved (id : ObjectId) (length : Nat) (element : SlotType) (position : Nat) :
    draft.addArray id length element (position + offset) =
      movedResult offset (draft.addArray id length element position) := by
  by_cases large : maxArrayLength < length
  · simp only [Draft.addArray, if_pos large]
    rfl
  · simp only [Draft.addArray, if_neg large]
    exact add_moved offset draft id _ _ position

theorem add_instance_moved (id : ObjectId) (info : ClassInfo) (position : Nat) :
    draft.addInstance id info (position + offset) = movedResult offset (draft.addInstance id info position) :=
  add_moved offset draft id _ _ position

theorem add_class_moved (id : ObjectId) (name : String) (library : LibraryId) (members : List MemberInfo)
    (position : Nat) :
    draft.addClass id name library members (position + offset) =
      movedResult offset (draft.addClass id name library members position) := by
  simp only [Draft.addClass]
  split
  · rfl
  · split
    · rfl
    · split
      · rfl
      · exact add_instance_moved offset _ id _ position

end Drafts

theorem alike_handled (offset : Nat) (draft : Draft) : Handled offset (fun _ => Alike offset) draft where
  stored := fun member position => alike_lifted _ _ (store_moved offset draft member position)
  nulls := fun count position => alike_lifted _ _ (store_nulls_moved offset draft count position)
  string := fun id value position => alike_lifted _ _ (add_moved offset draft id (.string value) none position)
  array := fun id length element position => alike_lifted _ _ (add_array_moved offset draft id length element position)
  instantiated := fun id info position => alike_lifted _ _ (add_instance_moved offset draft id info position)
  declared := fun id name library members position =>
    alike_lifted _ _ (add_class_moved offset draft id name library members position)

theorem alike_item (offset : Nat) (draft : Draft) : Alike offset (readItem draft) (readItem draft) :=
  alike_congruent.item (alike_handled offset draft)

theorem alike_items (offset : Nat) (draft : Draft) : Alike offset (readItems draft) (readItems draft) := by
  refine ⟨fun cursor => ?_⟩
  fun_induction readItems draft cursor with
  | case1 draft cursor fault next step =>
      rw [items_bind]
      refine alike_bind_at _ _ _ _ _ ((alike_item offset draft).anywhere cursor) fun value after done => ?_
      rw [step] at done
      cases done
  | case2 draft cursor next step =>
      rw [items_bind]
      refine alike_bind_at _ _ _ _ _ ((alike_item offset draft).anywhere cursor) fun value after done => ?_
      rw [step] at done
      cases done
      exact (alike_pure draft).anywhere next
  | case3 draft cursor following next step ih =>
      rw [items_bind]
      refine alike_bind_at _ _ _ _ _ ((alike_item offset draft).anywhere cursor) fun value after done => ?_
      rw [step] at done
      cases done
      exact ih

theorem alike_message (offset : Nat) : Alike offset readMessage readMessage := by
  refine alike_bind _ _ _ _ alike_congruent.header fun header =>
    alike_bind _ _ _ _ (alike_items offset .empty) fun draft => alike_lifted _ _ ?_
  -- What is missing at the end of a message has no position.
  simp only [Draft.finish]
  split
  · rfl
  · split <;> rfl

theorem messages_end (cursor : Cursor) (ended : cursor.isAtEnd = true) : readMessages cursor = .ok [] := by
  rw [readMessages, if_pos ended]

theorem messages_fail (cursor next : Cursor) (fault : Fault) (more : ¬ cursor.isAtEnd = true)
    (read : readMessage cursor = (.error fault, next)) : readMessages cursor = .error fault := by
  rw [readMessages, if_neg more]
  split
  · rename_i other
    rw [read] at other
    cases other
    rfl
  · rename_i other
    rw [read] at other
    cases other

theorem messages_next (cursor next : Cursor) (message : Message) (more : ¬ cursor.isAtEnd = true)
    (read : readMessage cursor = (.ok message, next)) :
    readMessages cursor = (readMessages next).map (message :: ·) := by
  rw [readMessages, if_neg more]
  split
  · rename_i other
    rw [read] at other
    cases other
  · rename_i other
    rw [read] at other
    cases other
    cases readMessages next <;> rfl

theorem moved_map {α β : Type} (offset : Nat) (result : Except Fault α) (make : α → β) :
    movedResult offset (result.map make) = (movedResult offset result).map make := by
  cases result <;> rfl

theorem messages_moved (offset : Nat) (cursor : Cursor) :
    readMessages (cursor.moved offset) = movedResult offset (readMessages cursor) := by
  fun_induction readMessages cursor with
  | case1 cursor ended => exact messages_end (cursor.moved offset) ended
  | case2 cursor more fault next step =>
      exact messages_fail _ _ _ more (((alike_message offset).anywhere cursor).failed fault next step)
  | case3 cursor more message next step ih =>
      obtain ⟨taken, parts, place, whole, _⟩ := ((alike_message offset).anywhere cursor).done message next step
      have read : readMessage (cursor.moved offset) = (.ok message, next.moved offset) := by
        rw [Cursor.moved, parts, whole next.rest]
        rfl
      rw [messages_next (cursor.moved offset) (next.moved offset) message more read, ih, ← moved_map]
      cases readMessages next <;> rfl

theorem messages_append (cursor : Cursor) (messages : List Message) (more : List UInt8)
    (done : readMessages cursor = .ok messages) :
    readMessages ⟨cursor.rest ++ more, cursor.position⟩ =
      (readMessages ⟨more, cursor.position + cursor.rest.length⟩).map (messages ++ ·) := by
  fun_induction readMessages cursor generalizing messages with
  | case1 cursor ended =>
      cases done
      have empty : cursor.rest = [] := List.isEmpty_iff.mp ended
      rw [empty]
      simp only [List.nil_append, List.length_nil, Nat.add_zero]
      cases readMessages ⟨more, cursor.position⟩ <;> rfl
  | case2 cursor going fault next step => cases done
  | case3 cursor going message next step ih =>
      obtain ⟨taken, parts, place, whole, _⟩ := ((alike_message 0).anywhere cursor).done message next step
      have inside : ¬ (⟨cursor.rest ++ more, cursor.position⟩ : Cursor).isAtEnd = true := by
        simp only [Cursor.isAtEnd, List.isEmpty_iff] at going ⊢
        exact fun none => going (List.append_eq_nil_iff.mp none).1
      have read : readMessage ⟨cursor.rest ++ more, cursor.position⟩ =
          (.ok message, ⟨next.rest ++ more, next.position⟩) := by
        rw [parts, List.append_assoc]
        exact whole (next.rest ++ more)
      rw [messages_next _ _ message inside read]
      cases others : readMessages next with
      | error fault =>
          rw [others] at done
          cases done
      | ok later =>
          rw [others] at done
          cases done
          rw [ih later others, place, parts, List.length_append, Nat.add_assoc]
          cases readMessages ⟨more, cursor.position + (taken.length + next.rest.length)⟩ <;> rfl

-- Whole streams one behind the other are read one after the other. A message is told by its own bytes, of which
-- there is at least one, and fewer of them end before it does.
theorem decode_append :
    (∀ (first second : List UInt8) (messages : List Message), decode first = .ok messages →
      decode (first ++ second) =
        match decode second with
        | .ok others => .ok (messages ++ others)
        | .error fault => .error (fault.moved first.length)) ∧
    ∀ (bytes : List UInt8) (position : Nat) (message : Message) (after : Cursor),
      readMessage ⟨bytes, position⟩ = (.ok message, after) →
      ∃ count, 0 < count ∧ count ≤ bytes.length ∧ after = ⟨bytes.drop count, position + count⟩ ∧
        (∀ more, readMessage ⟨bytes.take count ++ more, position⟩ = (.ok message, ⟨more, position + count⟩)) ∧
        ∀ fewer < count, RunsOut readMessage (bytes.take fewer) position := by
  constructor
  · intro first second messages done
    have whole := messages_append (.ofBytes first) messages second done
    have later := messages_moved first.length (.ofBytes second)
    simp only [decode]
    change readMessages ⟨first ++ second, 0⟩ = _
    change readMessages ⟨second, 0 + first.length⟩ = _ at later
    change readMessages ⟨first ++ second, 0⟩ = (readMessages ⟨second, 0 + first.length⟩).map _ at whole
    rw [whole, later]
    cases readMessages (.ofBytes second) <;> rfl
  · intro bytes position message after done
    obtain ⟨taken, parts, place, whole, short⟩ := ((alike_message 0).anywhere ⟨bytes, position⟩).done message after done
    have fewer := message_consumes ⟨bytes, position⟩ message (by rw [done])
    rw [done] at fewer
    change bytes = taken ++ after.rest at parts
    have size := congrArg List.length parts
    rw [List.length_append] at size
    have front : bytes.take taken.length = taken := by rw [parts, List.take_left']; rfl
    refine ⟨taken.length, ?_, ?_, ?_, fun more => ?_, fun some below => ?_⟩
    · change after.rest.length < bytes.length at fewer
      omega
    · omega
    · have back : bytes.drop taken.length = after.rest := by rw [parts, List.drop_left']; rfl
      rw [back]
      exact congrArg (Cursor.mk after.rest) place
    · rw [front]
      have read := whole more
      rw [place] at read
      exact read
    · refine short (bytes.take some) (taken.drop some) ?_ ?_
      · rw [parts, List.take_append_of_le_length (Nat.le_of_lt below), List.take_append_drop]
      · exact fun none => absurd (List.drop_eq_nil_iff.mp none) (Nat.not_le_of_lt below)

def letter : List UInt8 := [0, 1, 0, 0, 0, 255, 255, 255, 255, 1, 0, 0, 0, 0, 0, 0, 0, 6, 1, 0, 0, 0, 1, 97, 11]

theorem letter_decodes : (decode letter).isOk = true := by decide +kernel

theorem letter_reads : (readMessage ⟨letter, 3⟩).1.isOk = true := by decide +kernel

theorem decode_append_letter :
    (∃ messages, decode letter = .ok messages ∧ decode (letter ++ letter) = .ok (messages ++ messages) ∧
      decode (letter ++ [6]) = .error (.missingHeader 25 .string)) ∧
    ∃ message after, readMessage ⟨letter, 3⟩ = (.ok message, after) ∧
      ∃ count, 0 < count ∧ count ≤ letter.length ∧ after = ⟨letter.drop count, 3 + count⟩ ∧
        (∀ more, readMessage ⟨letter.take count ++ more, 3⟩ = (.ok message, ⟨more, 3 + count⟩)) ∧
        ∀ fewer < count, RunsOut readMessage (letter.take fewer) 3 := by
  constructor
  · cases decoded : decode letter with
    | error fault =>
        have decodes := letter_decodes
        rw [decoded] at decodes
        cases decodes
    | ok messages =>
        have twice := decode_append.1 letter letter messages decoded
        have stray := decode_append.1 letter [6] messages decoded
        have alone : decode [6] = .error (.missingHeader 0 .string) := messages_fail _ _ _ (by decide) rfl
        rw [decoded] at twice
        rw [alone] at stray
        exact ⟨messages, rfl, twice, stray⟩
  · cases read : readMessage ⟨letter, 3⟩ with
    | mk result after =>
      cases result with
      | error fault =>
          have reads := letter_reads
          rw [read] at reads
          cases reads
      | ok message => exact ⟨message, after, rfl, decode_append.2 letter 3 message after read⟩

end Flowline.Record
