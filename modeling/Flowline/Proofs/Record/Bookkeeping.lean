import Flowline.Proofs.Record.Coherent

set_option autoImplicit false

namespace Flowline.Record

open Flowline.Graph

def Matching {α : Type} (read : Read α) : Prop :=
  ∀ cursor fault after, read cursor = (.error fault, after) → fault.ofSlot = false

theorem matching_lift {α : Type} (result : Except Fault α)
    (each : ∀ fault, result = .error fault → fault.ofSlot = false) : Matching (Read.lift result) := by
  intro cursor fault after failed
  cases failed
  exact each fault rfl

theorem matching_take (count : Nat) : Matching (Read.take count) := by
  intro cursor fault after failed
  rcases Nat.lt_or_ge cursor.rest.length count with short | enough
  · rw [Read.take_short count cursor short] at failed
    cases failed
    rfl
  · rw [Read.take_enough count cursor enough] at failed
    cases failed

theorem matching_bind {α β : Type} (first : Read α) (next : α → Read β) (start : Matching first)
    (each : ∀ value, Matching (next value)) : Matching (first >>= next) := by
  intro cursor fault after failed
  cases bind_failed first next cursor after fault failed with
  | inl early => exact start cursor fault after early
  | inr late =>
      obtain ⟨value, reached, _, rest⟩ := late
      exact each value reached fault after rest

theorem matching_congruent : Congruent 0 fun _ read _ => Matching read where
  returned := fun _ _ _ _ failed => nomatch failed
  refused := fun fault other => matching_lift (.error fault) fun _ same => Except.error.inj same ▸ other
  located := fun each cursor => each cursor.position cursor
  taken := matching_take
  chained := matching_bind _ _

section Drafts

variable {draft : Draft}

theorem store_matching (member : Member) (position : Nat) (fault : Fault)
    (failed : draft.store member position = .error fault) : fault.ofSlot = false := by
  cases stack : draft.stack with
  | nil =>
      simp only [Draft.store, stack] at failed
      cases failed
      rfl
  | cons frame outer =>
      simp only [Draft.store, stack] at failed
      cases member <;> cases failed

theorem nulls_matching (count position : Nat) (fault : Fault)
    (failed : draft.storeNulls count position = .error fault) : fault.ofSlot = false := by
  cases stack : draft.stack with
  | nil =>
      simp only [Draft.storeNulls, stack] at failed
      cases failed
      rfl
  | cons frame outer =>
      by_cases overflow : frame.remaining < count
      · simp only [Draft.storeNulls, stack, if_pos overflow] at failed
        cases failed
        rfl
      · simp only [Draft.storeNulls, stack, if_neg overflow] at failed
        cases failed

section Adding

variable {known : Known} (reading : Reading draft known)

include reading

theorem add_matching (id : ObjectId) (object : Object) (slots : Option Slots) (position : Nat)
    (bare : object.slots = #[]) (fillable : slots ≠ none → object.Fillable) (fault : Fault)
    (failed : draft.add id object slots position = .error fault) : fault.ofSlot = false := by
  by_cases fresh : view draft.graph id = none
  · obtain ⟨after, done, _⟩ := reading_added reading id object slots position fresh bare fillable
    rw [done] at failed
    cases failed
  · rw [add_known reading id object slots position fresh] at failed
    cases failed
    rfl

theorem instance_matching (id : ObjectId) (info : ClassInfo) (position : Nat) (fault : Fault)
    (failed : draft.addInstance id info position = .error fault) : fault.ofSlot = false := by
  refine add_matching reading id (.record ⟨info, #[]⟩) (some (.members info)) position rfl ?_ fault failed
  intro _ text same
  cases same

theorem array_matching (id : ObjectId) (length : Nat) (element : SlotType) (position : Nat) (fault : Fault)
    (failed : draft.addArray id length element position = .error fault) : fault.ofSlot = false := by
  by_cases large : maxArrayLength < length
  · simp only [Draft.addArray, if_pos large] at failed
    cases failed
    rfl
  · simp only [Draft.addArray, if_neg large] at failed
    refine add_matching reading id (.array ⟨element, length, #[]⟩) (some (.elements element)) position rfl ?_ fault
      failed
    intro _ text same
    cases same

end Adding

section Records

variable {libraries : List (LibraryId × String)} (reading : Reading draft ⟨libraries, []⟩)

include reading

theorem class_matching (id : ObjectId) (name : String) (library : LibraryId) (members : List MemberInfo)
    (position : Nat) (fault : Fault) (failed : draft.addClass id name library members position = .error fault) :
    fault.ofSlot = false := by
  unfold Draft.addClass at failed
  split at failed
  · cases failed
    rfl
  · split at failed
    · cases failed
      rfl
    · dsimp only at failed
      split at failed
      · cases failed
        rfl
      · exact instance_matching (reading_redeclared reading _) id _ position fault failed

theorem matching_handled : Handled 0 (fun _ read _ => Matching read) draft where
  stored := fun member position => matching_lift _ (store_matching member position)
  nulls := fun count position => matching_lift _ (nulls_matching count position)
  string := fun id value position =>
    matching_lift _ (add_matching reading id (.string value) none position rfl fun some => absurd rfl some)
  array := fun id length element position => matching_lift _ (array_matching reading id length element position)
  instantiated := fun id info position => matching_lift _ (instance_matching reading id info position)
  declared := fun id name library members position =>
    matching_lift _ (class_matching reading id name library members position)

end Records

end Drafts

theorem finish_matching (draft : Draft) (header : Header) (fault : Fault)
    (failed : draft.finish header = .error fault) : fault.ofSlot = false := by
  unfold Draft.finish at failed
  split at failed
  · cases failed
    rfl
  · split at failed
    · cases failed
    · cases failed
      rfl

-- The places of a stream at which a message begins.
inductive Begins (bytes : List UInt8) : Cursor → Prop where
  | first : Begins bytes (.ofBytes bytes)
  | later (start after : Cursor) (message : Message) (before : Begins bytes start)
      (read : readMessage start = (.ok message, after)) : Begins bytes after

-- The drafts of the messages of a stream, with the places at which their next items begin.
inductive Reached (bytes : List UInt8) : Draft → Cursor → Prop where
  | opening (start after : Cursor) (header : Header) (begins : Begins bytes start)
      (read : readHeader start = (.ok header, after)) : Reached bytes .empty after
  | item (draft next : Draft) (cursor after : Cursor) (before : Reached bytes draft cursor)
      (read : readItem draft cursor = (.ok (some next), after)) : Reached bytes next after

structure Agreeing (draft : Draft) : Prop where
  room : ∀ frame ∈ draft.stack.head?, frame.filled < frame.length ∧ frame.next? ≠ none
  frames : ∀ frame ∈ draft.stack, frame.filled ≤ frame.length ∧ ∃ object, draft.graph.get? frame.id = some object ∧
    object.slotCount = frame.length ∧ object.slots.size = frame.filled
  waiting : ∀ id slots, draft.pending.get? id = some slots → draft.graph.get? id = none ∧ slots ≠ [] ∧ slots.Nodup ∧
    ∀ slot ∈ slots, slotOf draft.graph slot = some (.pending id)
  once : ∀ id other slots others slot, draft.pending.get? id = some slots → draft.pending.get? other = some others →
    slot ∈ slots → slot ∈ others → id = other
  listed : ∀ id slot, slotOf draft.graph slot = some (.pending id) →
    ∃ slots, draft.pending.get? id = some slots ∧ slot ∈ slots

theorem next_declared (frame : Frame) (sized : frame.Sized) (left : frame.filled < frame.length) :
    frame.next? ≠ none := by
  rcases frame with ⟨id, slots, filled, length⟩
  cases slots with
  | elements type => exact Option.some_ne_none type
  | members info =>
      have same : length = info.members.length := sized
      rw [same] at left
      simp [Frame.next?, left]

theorem coherent_agreeing (draft : Draft) (coherent : Coherent draft) (room : HasRoom draft 1) : Agreeing draft := by
  obtain ⟨libraries, reading⟩ := coherent.reading
  have waits := reading.waits
  exact {
    room := by
      intro frame top
      have left : frame.filled < frame.length := Nat.lt_of_sub_pos (room frame top)
      exact ⟨left, next_declared frame (coherent.frames frame (List.mem_of_mem_head? top)).1 left⟩
    frames := by
      intro frame member
      obtain ⟨_, below, settled, seen, count⟩ := coherent.frames frame member
      obtain ⟨same, seenAgain, _, size⟩ := reading.frames frame member
      rw [seen] at seenAgain
      cases seenAgain
      obtain ⟨object, found, rfl⟩ := view_found draft.graph frame.id settled seen
      rw [settle_size] at size
      exact ⟨below, object, found, (slot_count_map object _).symm.trans count, size⟩
    waiting := fun id slots known => ⟨waits.absent id slots known, waits.listed id slots known⟩
    once := by
      intro id other slots others slot known knownOther member memberOther
      have held := (waits.listed id slots known).2.2 slot member
      rw [(waits.listed other others knownOther).2.2 slot memberOther] at held
      cases held
      rfl
    listed := waits.complete }

section Runs

variable {bytes : List UInt8} {draft : Draft} {cursor : Cursor}

theorem reached_coherent (reached : Reached bytes draft cursor) : Coherent draft ∧ HasRoom draft 1 := by
  induction reached with
  | opening start after header begins read => exact ⟨coherent_empty, fun _ none => nomatch none⟩
  | item draft next cursor after before read ih =>
      obtain ⟨position, middle, change, same⟩ := item_change draft cursor (some next) after read
      rw [same]
      exact coherent_closed (coherent_change ih.1 ih.2 position middle change)

theorem items_stop (reached : Reached bytes draft cursor) :
    ∃ last place, Reached bytes last place ∧
      ((∃ fault after, readItem last place = (.error fault, after) ∧
          readItems draft cursor = (.error fault, after)) ∨
        ∃ after, readItem last place = (.ok none, after) ∧ readItems draft cursor = (.ok last, after)) := by
  fun_induction readItems draft cursor with
  | case1 draft cursor fault next step => exact ⟨draft, cursor, reached, Or.inl ⟨fault, next, step, rfl⟩⟩
  | case2 draft cursor next step => exact ⟨draft, cursor, reached, Or.inr ⟨next, step, rfl⟩⟩
  | case3 draft cursor following next step ih => exact ih (.item draft following cursor next reached step)

theorem reached_matching (reached : Reached bytes draft cursor) : Matching (readItem draft) := by
  obtain ⟨libraries, reading⟩ := (reached_coherent reached).1.reading
  exact matching_congruent.item (matching_handled reading)

theorem message_matching (begins : Begins bytes cursor) (fault : Fault) (after : Cursor)
    (failed : readMessage cursor = (.error fault, after)) : fault.ofSlot = false := by
  cases bind_failed readHeader _ cursor after fault failed with
  | inl early => exact matching_congruent.header cursor fault after early
  | inr late =>
      obtain ⟨header, opened, read, rest⟩ := late
      obtain ⟨last, place, reached, ⟨other, stop, wrong, ends⟩ | ⟨stop, _, ends⟩⟩ :=
        items_stop (Reached.opening cursor opened header begins read)
      · have stops : fault = other := by
          rw [run_bind, ends] at rest
          cases rest
          rfl
        rw [stops]
        exact reached_matching reached place other stop wrong
      · rw [run_bind, ends] at rest
        exact matching_lift _ (finish_matching last header) stop fault after rest

theorem messages_matching (begins : Begins bytes cursor) (fault : Fault)
    (failed : readMessages cursor = .error fault) : fault.ofSlot = false := by
  fun_induction readMessages cursor with
  | case1 cursor ended => cases failed
  | case2 cursor more other next step =>
      cases failed
      exact message_matching begins fault next step
  | case3 cursor more message next step ih =>
      refine ih (.later cursor next message begins step) ?_
      cases others : readMessages next with
      | error other =>
          rw [others] at failed
          cases failed
          rfl
      | ok messages =>
          rw [others] at failed
          cases failed

end Runs

/-- Whatever the bytes are, open objects, slots and waiting slots agree whenever an item is about to be read, no
object gets more than it has slots for before it is closed, and no waiting slot holds anything but its link. -/
theorem stream_agreeing (bytes : List UInt8) :
    (∀ draft cursor, Reached bytes draft cursor →
      Agreeing draft ∧
      ∀ next after, readItem draft cursor = (.ok (some next), after) →
        ∃ position middle, Change draft position middle ∧ next = middle.closeFilled ∧
          ∀ frame ∈ middle.stack, frame.filled ≤ frame.length) ∧
    ∀ position id found, decode bytes ≠ .error (.referenceMismatch position id found) := by
  constructor
  · intro draft cursor reached
    obtain ⟨coherent, room⟩ := reached_coherent reached
    refine ⟨coherent_agreeing draft coherent room, fun next after read => ?_⟩
    obtain ⟨position, middle, change, same⟩ := item_change draft cursor (some next) after read
    have grown := coherent_change coherent room position middle change
    exact ⟨position, middle, change, same, fun frame member => (grown.frames frame member).2.1⟩
  · intro position id found failed
    have other := messages_matching .first _ failed
    cases other

-- An array of two items, of which the first one is a link to a string that comes in as the second one.
def early : List UInt8 :=
  [0, 1, 0, 0, 0, 255, 255, 255, 255, 1, 0, 0, 0, 0, 0, 0, 0, 16, 1, 0, 0, 0, 2, 0, 0, 0, 9, 2, 0, 0, 0, 6, 2, 0, 0, 0,
    1, 97, 11]

def earlyOpen : Draft :=
  { Draft.empty with
    graph := (∅ : Graph).insert 1 (.array ⟨.object, 2, #[]⟩)
    stack := [⟨1, .elements .object, 0, 2⟩] }

def earlyWaiting : Draft :=
  { Draft.empty with
    graph := (∅ : Graph).insert 1 (.array ⟨.object, 2, #[.pending 2]⟩)
    stack := [⟨1, .elements .object, 1, 2⟩]
    pending := (∅ : Table ObjectId (List Waiting) .ascending).insert 2 [⟨1, 0⟩] }

theorem early_waiting : Reached early earlyWaiting ⟨early.drop 31, 31⟩ := by
  have opening : Reached early .empty ⟨early.drop 17, 17⟩ := .opening _ _ ⟨1, -1, 1, 0⟩ .first rfl
  have array : Reached early earlyOpen ⟨early.drop 26, 26⟩ := .item _ _ _ _ opening rfl
  exact .item _ _ _ _ array rfl

theorem stream_agreeing_early :
    (Agreeing earlyWaiting ∧ earlyWaiting.pending.get? 2 = some [⟨1, 0⟩]) ∧ (decode early).isOk = true ∧
      ∀ position id found, decode early ≠ .error (.referenceMismatch position id found) :=
  ⟨⟨((stream_agreeing early).1 earlyWaiting ⟨early.drop 31, 31⟩ early_waiting).1, by decide⟩, by decide +kernel,
    (stream_agreeing early).2⟩

end Flowline.Record
