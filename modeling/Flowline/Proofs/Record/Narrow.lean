import Flowline.Proofs.Record.Changes
import Flowline.Proofs.Table.Ascending
import Flowline.Proofs.Text.Narrow

set_option autoImplicit false

namespace Flowline.Record

open Flowline.Graph

def NarrowStrings (graph : Graph) : Prop :=
  ∀ id text, graph.get? id = some (.string text) → Text.Narrow text.toList

section Graphs

variable {graph : Graph}

theorem narrow_empty : NarrowStrings ∅ := fun _ _ none => nomatch none

theorem narrow_slots (narrow : NarrowStrings graph) (owner : ObjectId) (change : Array Member → Array Member) :
    NarrowStrings (graph.modify owner fun object => object.mapSlots change) := by
  intro id text found
  by_cases same : id = owner
  · subst same
    rw [Table.get?_modify_self] at found
    obtain ⟨object, held, changed⟩ := Option.map_eq_some_iff.mp found
    cases object with
    | record self | array self => cases changed
    | string value =>
        cases changed
        exact narrow id text held
  · rw [Table.get?_modify_of_ne graph owner id _ same] at found
    exact narrow id text found

theorem narrow_insert (narrow : NarrowStrings graph) (id : ObjectId) (object : Object)
    (good : ∀ text, object = .string text → Text.Narrow text.toList) : NarrowStrings (graph.insert id object) := by
  intro other text found
  by_cases same : other = id
  · subst same
    rw [Table.get?_insert_self] at found
    exact good text (Option.some.inj found)
  · rw [Table.get?_insert_of_ne graph id other object same] at found
    exact narrow other text found

end Graphs

section Drafts

variable {draft : Draft}

theorem narrow_store (narrow : NarrowStrings draft.graph) (member : Member) (position : Nat) (after : Draft)
    (done : draft.store member position = .ok after) : NarrowStrings after.graph := by
  unfold Draft.store at done
  split at done
  · cases done
  · split at done
    · cases done
      exact narrow_slots narrow _ _
    · cases done
      exact narrow_slots narrow _ _

theorem narrow_nulls (narrow : NarrowStrings draft.graph) (count position : Nat) (after : Draft)
    (done : draft.storeNulls count position = .ok after) : NarrowStrings after.graph := by
  unfold Draft.storeNulls at done
  split at done
  · cases done
  · split at done
    · cases done
    · cases done
      exact narrow_slots narrow _ _

theorem narrow_patch (narrow : NarrowStrings draft.graph) (slot : Waiting) (id : ObjectId) (position : Nat)
    (after : Draft) (done : draft.patch slot id position = .ok after) : NarrowStrings after.graph := by
  unfold Draft.patch at done
  split at done
  · split at done
    · cases done
      exact narrow_slots narrow _ _
    · cases done
  · cases done

theorem narrow_patch_all (narrow : NarrowStrings draft.graph) (slots : List Waiting) (id : ObjectId) (position : Nat)
    (after : Draft) (done : draft.patchAll slots id position = .ok after) : NarrowStrings after.graph := by
  induction slots generalizing draft with
  | nil =>
      cases done
      exact narrow
  | cons slot rest ih =>
      unfold Draft.patchAll at done
      split at done
      · rename_i patched first
        exact ih (narrow_patch narrow slot id position patched first) done
      · cases done

theorem narrow_enter (narrow : NarrowStrings draft.graph) (id : ObjectId) (object : Object) (position : Nat)
    (after : Draft) (good : ∀ text, object = .string text → Text.Narrow text.toList)
    (done : draft.enter id object position = .ok after) : NarrowStrings after.graph := by
  unfold Draft.enter at done
  split at done
  · cases done
  · exact narrow_patch_all (narrow_insert narrow id object good) _ id position after done

theorem add_eq (draft : Draft) (id : ObjectId) (object : Object) (slots : Option Slots) (position : Nat) :
    draft.add id object slots position =
      (if draft.stack.isEmpty then .ok draft else draft.store (.ref id) position : Except Fault Draft) >>= fun linked =>
        linked.enter id object position >>= fun entered => .ok (slots.elim entered (entered.openFrame id object)) := by
  unfold Draft.add
  cases slots <;> cases draft.stack.isEmpty <;> rfl

theorem add_cases (draft : Draft) (id : ObjectId) (object : Object) (slots : Option Slots) (position : Nat)
    (after : Draft) (done : draft.add id object slots position = .ok after) :
    ∃ linked entered, (linked = draft ∨ draft.store (.ref id) position = .ok linked) ∧
      linked.enter id object position = .ok entered ∧ after.graph = entered.graph := by
  rw [add_eq] at done
  rcases linking : (if draft.stack.isEmpty then .ok draft else draft.store (.ref id) position : Except Fault Draft)
    with fault | linked
  · rw [linking] at done
    cases done
  · rw [linking] at done
    change (linked.enter id object position >>= _) = .ok after at done
    rcases entering : linked.enter id object position with fault | entered
    · rw [entering] at done
      cases done
    · rw [entering] at done
      refine ⟨linked, entered, ?_, entering, ?_⟩
      · split at linking
        · cases linking
          exact .inl rfl
        · exact .inr linking
      · cases slots <;> cases done <;> rfl

theorem narrow_add (narrow : NarrowStrings draft.graph) (id : ObjectId) (object : Object) (slots : Option Slots)
    (position : Nat) (after : Draft) (good : ∀ text, object = .string text → Text.Narrow text.toList)
    (done : draft.add id object slots position = .ok after) : NarrowStrings after.graph := by
  obtain ⟨linked, entered, linking, entering, same⟩ := add_cases draft id object slots position after done
  have holds : NarrowStrings linked.graph := by
    rcases linking with rfl | stored
    · exact narrow
    · exact narrow_store narrow (.ref id) position linked stored
  rw [same]
  exact narrow_enter holds id object position entered good entering

theorem narrow_add_instance (narrow : NarrowStrings draft.graph) (id : ObjectId) (info : ClassInfo) (position : Nat)
    (after : Draft) (done : draft.addInstance id info position = .ok after) : NarrowStrings after.graph :=
  narrow_add narrow id (.record ⟨info, #[]⟩) _ position after (fun _ same => nomatch same) done

theorem narrow_add_array (narrow : NarrowStrings draft.graph) (id : ObjectId) (length : Nat) (element : SlotType)
    (position : Nat) (after : Draft) (done : draft.addArray id length element position = .ok after) :
    NarrowStrings after.graph := by
  unfold Draft.addArray at done
  split at done
  · cases done
  · exact narrow_add narrow id (.array ⟨element, length, #[]⟩) _ position after (fun _ same => nomatch same) done

theorem narrow_add_class (narrow : NarrowStrings draft.graph) (id : ObjectId) (name : String) (library : LibraryId)
    (members : List MemberInfo) (position : Nat) (after : Draft)
    (done : draft.addClass id name library members position = .ok after) : NarrowStrings after.graph := by
  unfold Draft.addClass at done
  split at done
  · cases done
  · split at done
    · cases done
    · dsimp only at done
      split at done
      · cases done
      · refine narrow_add_instance ?_ id _ position after done
        exact narrow

end Drafts

theorem narrow_admits {draft : Draft} (narrow : NarrowStrings draft.graph) (start : Nat) :
    Admits draft start fun after => NarrowStrings after.graph where
  library := fun _ _ => narrow
  primitive := fun value after done => narrow_store narrow (.primitive value) start after done
  reference := fun _ after done => narrow_store narrow _ start after done
  nulls := fun count after done => narrow_nulls narrow count start after done
  string := by
    intro id value after good done
    refine narrow_add narrow id (.string value) none start after ?_ done
    rintro _ ⟨⟩
    exact good
  array := fun id length element after done => narrow_add_array narrow id length element start after done
  object := fun id _ info after _ done => narrow_add_instance narrow id info start after done
  declaration := fun id name library members after done =>
    narrow_add_class narrow id name library members start after done

theorem narrow_item {draft : Draft} (narrow : NarrowStrings draft.graph) : Gives (readItem draft) fun following =>
    ∀ next, following = some next → NarrowStrings next.graph := by
  rintro cursor _ after done next rfl
  obtain ⟨_, middle, held, rfl⟩ := item_gives (narrow_admits narrow) cursor (some next) after done
  exact held

theorem message_narrow : Gives readMessage fun message => NarrowStrings message.graph := by
  refine gives_bind _ _ fun header => ?_
  have items := items_carry .empty (fun draft => NarrowStrings draft.graph) (fun _ narrow => narrow_item narrow)
    narrow_empty
  refine gives_bind_of _ _ items fun draft last => gives_lift _ fun message done => ?_
  obtain ⟨_, _, rfl⟩ := finish_ok draft header message done
  exact last.1

theorem decode_narrow (bytes : List UInt8) (messages : List Message) (done : decode bytes = .ok messages) :
    ∀ message ∈ messages, NarrowStrings message.graph :=
  messages_each _ message_narrow (.ofBytes bytes) messages done

end Flowline.Record
