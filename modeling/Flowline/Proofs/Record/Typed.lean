import Flowline.Proofs.Record.Coherent

set_option autoImplicit false

namespace Flowline.Graph.Object

def slotType? (object : Object) (index : Nat) : Option SlotType :=
  match object with
  | .record self => self.info.members[index]?.map MemberInfo.type
  | .string _ => none
  | .array self => if index < self.length then some self.element else none

def Typed (object : Object) : Prop :=
  ∀ index kind, object.slotType? index = some (.primitive kind) →
    ∃ value, object.slots[index]? = some (.primitive value) ∧ value.kind = kind

-- Nulls go on from a slot that is not for primitives up to this one.
def Overrun (object : Object) (index : Nat) : Prop :=
  ∃ start < index, (∀ kind, object.slotType? start ≠ some (.primitive kind)) ∧
    ∀ between, start ≤ between → between ≤ index → object.slots[between]? = some .null

-- As far as the slots are filled, those for primitives hold what they should, or are overrun.
def Fitting (object : Object) : Prop :=
  ∀ index kind member, object.slotType? index = some (.primitive kind) → object.slots[index]? = some member →
    (∃ value, member = .primitive value ∧ value.kind = kind) ∨ object.Overrun index

theorem slot_type_map (object : Object) (change : Array Member → Array Member) :
    (object.mapSlots change).slotType? = object.slotType? := by
  cases object <;> rfl

theorem fitting_bare (object : Object) (bare : object.slots = #[]) : object.Fitting := by
  intro index kind member _ held
  rw [bare] at held
  cases held

theorem array_overrun (self : Items) (index : Nat) (kind : PrimitiveKind)
    (type : (Object.array self).slotType? index = some (.primitive kind)) : ¬ (Object.array self).Overrun index := by
  rintro ⟨start, before, other, _⟩
  refine other kind ?_
  simp only [slotType?] at type ⊢
  split at type
  · rename_i inside
    rw [if_pos (Nat.lt_trans before inside)]
    exact type
  · cases type

end Flowline.Graph.Object

namespace Flowline.Record

open Flowline.Graph

def Slots.type? (slots : Slots) (index : Nat) : Option SlotType :=
  match slots with
  | .members info => info.members[index]?.map MemberInfo.type
  | .elements type => some type

def Frame.Describes (frame : Frame) (object : Object) : Prop :=
  ∀ index type, object.slotType? index = some type → frame.slots.type? index = some type

theorem next_primitive (frame : Frame) (kind : PrimitiveKind)
    (next : frame.slots.type? frame.filled = some (.primitive kind)) : frame.primitive? = some kind := by
  have same : frame.next? = some (.primitive kind) := by
    rcases frame with ⟨id, slots, filled, length⟩
    cases slots <;> exact next
  rw [Frame.primitive?, same]

inductive Suits : Option PrimitiveKind → List Member → Prop where
  | primitive (value : Primitive) : Suits (some value.kind) [.primitive value]
  | single (member : Member) : Suits none [member]
  | nulls (count : Nat) : Suits none (List.replicate count .null)

theorem single_at {member other : Member} {index : Nat} (held : [member][index]? = some other) :
    index = 0 ∧ other = member := by
  rw [List.getElem?_singleton] at held
  split at held
  · exact ⟨by assumption, (Option.some.inj held).symm⟩
  · cases held

-- Only a run of nulls reaches further than the slot that is due.
theorem fitting_filled (object : Object) (fillable : object.Fillable) (fitting : object.Fitting)
    (due : Option PrimitiveKind) (members : List Member) (suits : Suits due members)
    (declared : ∀ kind, object.slotType? object.slots.size = some (.primitive kind) → due = some kind) :
    (object.mapSlots (· ++ members.toArray)).Fitting := by
  intro index kind member type held
  rw [Object.slot_type_map] at type
  rw [slots_map object _ fillable, Array.getElem?_append] at held
  by_cases old : index < object.slots.size
  · rw [if_pos old] at held
    refine (fitting index kind member type held).imp_right ?_
    rintro ⟨start, before, other, nulls⟩
    refine ⟨start, before, by rwa [Object.slot_type_map], fun between above below => ?_⟩
    rw [slots_map object _ fillable, Array.getElem?_append, if_pos (Nat.lt_of_le_of_lt below old)]
    exact nulls between above below
  · rw [if_neg old, List.getElem?_toArray] at held
    have first : index - object.slots.size = 0 → due = some kind := by
      intro none
      have same : index = object.slots.size := by omega
      rw [same] at type
      exact declared kind type
    cases suits with
    | primitive value =>
        obtain ⟨start, same⟩ := single_at held
        rw [same]
        exact Or.inl ⟨value, rfl, Option.some.inj (first start)⟩
    | single other =>
        obtain ⟨start, _⟩ := single_at held
        cases first start
    | nulls count =>
        rw [List.getElem?_replicate] at held
        split at held
        · rename_i inside
          refine Or.inr ⟨object.slots.size, ?_, ?_, fun between above below => ?_⟩
          · by_contra start
            cases first (by omega)
          · intro kind type
            rw [Object.slot_type_map] at type
            cases declared kind type
          · rw [slots_map object _ fillable, Array.getElem?_append, if_neg (Nat.not_lt_of_le above),
              List.getElem?_toArray, List.getElem?_replicate, if_pos (by omega)]
        · cases held

structure Extends (before : Draft) (members : List Member) (opened : List Frame) (after : Draft) : Prop where
  stack : after.stack = opened ++ fillTop before.stack members.length
  kept : ∀ id, view before.graph id ≠ none →
    view after.graph id = seenWith before.stack (view before.graph) members id
  fresh : ∀ id object, view before.graph id = none → view after.graph id = some object → object.slots = #[]
  opened : ∀ frame ∈ opened, ∀ object, view after.graph frame.id = some object → frame.Describes object

structure Shaped (draft : Draft) : Prop where
  described : ∀ frame ∈ draft.stack, ∀ object, view draft.graph frame.id = some object → frame.Describes object
  fitting : ∀ id object, view draft.graph id = some object → object.Fitting

theorem shaped_empty : Shaped .empty where
  described := fun _ member => nomatch member
  fitting := fun _ _ none => nomatch none

section Steps

variable {draft : Draft}

theorem shaped_closed (shaped : Shaped draft) : Shaped draft.closeFilled where
  described := fun frame member => shaped.described frame ((List.dropWhile_sublist _).subset member)
  fitting := shaped.fitting

theorem described_extended (coherent : Coherent draft) (shaped : Shaped draft) (members : List Member)
    (opened : List Frame) (after : Draft) (extended : Extends draft members opened after) :
    ∀ frame ∈ after.stack, ∀ object, view after.graph frame.id = some object → frame.Describes object := by
  obtain ⟨libraries, reading⟩ := coherent.reading
  have still : ∀ frame ∈ draft.stack, ∀ object, view after.graph frame.id = some object → frame.Describes object := by
    intro frame member object found
    obtain ⟨old, present, _⟩ := reading.frames frame member
    rw [extended.kept frame.id (by simp [present])] at found
    obtain ⟨other, before, rfl | ⟨_, rfl⟩⟩ := seen_with_some _ _ _ _ _ found
    · exact shaped.described frame member _ before
    · intro index type
      rw [Object.slot_type_map]
      exact shaped.described frame member other before index type
  intro frame member
  rw [extended.stack] at member
  rcases List.mem_append.mp member with new | old
  · exact extended.opened frame new
  · cases stack : draft.stack with
    | nil =>
        rw [stack] at old
        cases old
    | cons top outer =>
        rw [stack] at old still
        rcases List.mem_cons.mp old with same | later
        · rw [same]
          exact still top List.mem_cons_self
        · exact still frame (List.mem_cons_of_mem _ later)

theorem shaped_extended (coherent : Coherent draft) (shaped : Shaped draft) (members : List Member)
    (opened : List Frame) (after : Draft) (suits : Suits draft.primitive? members)
    (extended : Extends draft members opened after) : Shaped after where
  described := described_extended coherent shaped members opened after extended
  fitting := by
    obtain ⟨libraries, reading⟩ := coherent.reading
    intro id object found
    by_cases fresh : view draft.graph id = none
    · exact Object.fitting_bare object (extended.fresh id object fresh found)
    · rw [extended.kept id fresh] at found
      cases stack : draft.stack with
      | nil =>
          rw [stack] at found
          exact shaped.fitting id object found
      | cons frame outer =>
          have top : frame ∈ draft.stack := by simp [stack]
          simp only [stack, seenWith] at found
          by_cases same : id = frame.id
          · rw [if_pos same] at found
            obtain ⟨old, seen, rfl⟩ := Option.map_eq_some_iff.mp found
            obtain ⟨other, present, fillable, size⟩ := reading.frames frame top
            rw [seen] at present
            cases present
            refine fitting_filled old fillable (shaped.fitting frame.id old seen) _ members suits fun kind type => ?_
            rw [size] at type
            have due := next_primitive frame kind (shaped.described frame top old seen _ _ type)
            simpa [Draft.primitive?, stack] using due
          · rw [if_neg same] at found
            exact shaped.fitting id object found

section Changes

variable (coherent : Coherent draft)

include coherent

theorem extends_filled (frame : Frame) (outer : List Frame) (stack : draft.stack = frame :: outer)
    (members : List Member) (plain : ∀ member ∈ members, ∀ id, member ≠ .pending id) :
    Extends draft members []
      ({ draft with stack := frame.fill members.length :: outer }.append frame.id members.toArray) := by
  obtain ⟨libraries, reading⟩ := coherent.reading
  obtain ⟨_, seen⟩ := reading_filled reading frame outer stack members plain
  exact {
    stack := by
      rw [stack]
      rfl
    kept := fun id _ => seen id
    fresh := by
      intro id object missing found
      rw [seen id, (seen_with_none _ _ _ _).mpr missing] at found
      cases found
    opened := fun _ member => nomatch member }

theorem extends_store (member : Member) (position : Nat) (after : Draft) (plain : ∀ id, member ≠ .pending id)
    (done : draft.store member position = .ok after) : Extends draft [member] [] after := by
  obtain ⟨frame, outer, stack, rfl⟩ := store_ok member position after plain done
  exact extends_filled coherent frame outer stack [member] (plain_single member plain)

theorem extends_pending (target : ObjectId) (position : Nat) (after : Draft)
    (missing : draft.graph.get? target = none) (done : draft.store (.pending target) position = .ok after) :
    Extends draft [.ref target] [] after := by
  obtain ⟨frame, outer, stack, rfl⟩ := pending_ok target position after done
  obtain ⟨libraries, reading⟩ := coherent.reading
  obtain ⟨_, seen⟩ := reading_awaited reading frame outer stack target missing
  exact {
    stack := by
      rw [stack]
      rfl
    kept := fun id _ => seen id
    fresh := by
      intro id object absent found
      rw [seen id, (seen_with_none _ _ _ _).mpr absent] at found
      cases found
    opened := fun _ member => nomatch member }

theorem extends_nulls (count position : Nat) (after : Draft) (done : draft.storeNulls count position = .ok after) :
    Extends draft (List.replicate count .null) [] after := by
  obtain ⟨frame, outer, stack, _, rfl⟩ := nulls_ok count position after done
  have nulls := extends_filled coherent frame outer stack (List.replicate count .null)
    fun member inside id same => by simp [(List.mem_replicate.mp inside).2] at same
  rw [List.length_replicate, List.toArray_replicate] at nulls
  exact nulls

theorem extends_add (id : ObjectId) (object : Object) (slots : Option Slots) (position : Nat) (after : Draft)
    (bare : object.slots = #[]) (fillable : slots ≠ none → object.Fillable)
    (described : ∀ frame ∈ opened id object slots, frame.Describes object)
    (done : draft.add id object slots position = .ok after) :
    Extends draft [.ref id] (opened id object slots) after := by
  obtain ⟨libraries, reading⟩ := coherent.reading
  have fresh := add_fresh coherent id object slots position after done
  obtain ⟨made, whole_done, added⟩ := reading_added reading id object slots position fresh bare fillable
  rw [done] at whole_done
  cases whole_done
  exact {
    stack := added.stack
    kept := fun other known => added.kept other fun same => known (same ▸ fresh)
    fresh := by
      intro other new missing found
      by_cases same : other = id
      · rw [same, added.entered] at found
        cases found
        exact bare
      · rw [added.kept other same, (seen_with_none _ _ _ _).mpr missing] at found
        cases found
    opened := by
      intro frame member new found
      have same : frame.id = id := by
        cases slots with
        | none => cases member
        | some slots => rw [List.mem_singleton.mp member]
      rw [same, added.entered] at found
      cases found
      exact described frame member }

theorem extends_instance (id : ObjectId) (info : ClassInfo) (position : Nat) (after : Draft)
    (done : draft.addInstance id info position = .ok after) : ∃ opened, Extends draft [.ref id] opened after := by
  refine ⟨_, extends_add coherent id (.record ⟨info, #[]⟩) (some (.members info)) position after rfl ?_ ?_ done⟩
  · exact fun _ text same => nomatch same
  · intro frame member index type known
    rw [List.mem_singleton.mp member]
    exact known

theorem extends_array (id : ObjectId) (length : Nat) (element : SlotType) (position : Nat) (after : Draft)
    (done : draft.addArray id length element position = .ok after) :
    ∃ opened, Extends draft [.ref id] opened after := by
  simp only [Draft.addArray] at done
  by_cases large : maxArrayLength < length
  · rw [if_pos large] at done
    cases done
  · rw [if_neg large] at done
    refine ⟨_, extends_add coherent id (.array ⟨element, length, #[]⟩) (some (.elements element)) position after rfl ?_
      ?_ done⟩
    · intro _ text same
      cases same
    · intro frame member index type known
      rw [List.mem_singleton.mp member]
      simp only [Object.slotType?] at known
      split at known
      · exact known
      · cases known

theorem extends_change (position : Nat) (after : Draft) (change : Change draft position after) :
    ∃ members opened, Suits none members ∧ Extends draft members opened after := by
  cases change with
  | library id name =>
      refine ⟨[], [], .nulls 0, ?_, fun other _ => ?_, fun other object missing found => ?_, fun _ new => by cases new⟩
      · cases draft.stack <;> rfl
      · exact (seen_with_nothing draft.stack (view draft.graph) other).symm
      · rw [missing] at found
        cases found
  | primitive value after done =>
      have stored := extends_store coherent (.primitive value) position after (fun _ same => by cases same) done
      exact ⟨_, _, .single _, stored⟩
  | reference id after done =>
      by_cases known : draft.graph.contains id = true
      · rw [if_pos known] at done
        have stored := extends_store coherent (.ref id) position after (fun _ same => by cases same) done
        exact ⟨_, _, .single _, stored⟩
      · rw [if_neg known] at done
        exact ⟨_, _, .single _, extends_pending coherent id position after (by simpa [Table.contains] using known) done⟩
  | nulls count after done => exact ⟨_, _, .nulls count, extends_nulls coherent count position after done⟩
  | string id value after done =>
      exact ⟨_, _, .single _, extends_add coherent id (.string value) none position after rfl
        (fun some => absurd rfl some) (fun _ member => by cases member) done⟩
  | array id length element after done =>
      obtain ⟨opened, extended⟩ := extends_array coherent id length element position after done
      exact ⟨_, opened, .single _, extended⟩
  | object id other info after declared done =>
      obtain ⟨opened, extended⟩ := extends_instance coherent id info position after done
      exact ⟨_, opened, .single _, extended⟩
  | declaration id name library members after done =>
      obtain ⟨kind, fits, added⟩ := class_made id name library members position after done
      obtain ⟨opened, extended⟩ := extends_instance (coherent_declaring coherent id _ fits) id _ position after added
      exact ⟨_, opened, .single _, extended.stack, extended.kept, extended.fresh, extended.opened⟩

end Changes

theorem primitive_kind (kind : PrimitiveKind) : Gives (Read.primitive kind) fun value => value.kind = kind := by
  refine gives_bind _ _ fun start => ?_
  cases kind with
  | boolean | byte | sbyte | int16 | uint16 | int32 | uint32 | int64 | uint64 | decimal | timeSpan | dateTime =>
      exact gives_bind _ _ fun value => gives_pure _ rfl
  | _ => exact gives_fail _

theorem item_extends (coherent : Coherent draft) : Gives (readItem draft) fun following =>
    ∀ next, following = some next → ∃ position middle members opened, Change draft position middle ∧
      Suits draft.primitive? members ∧ Extends draft members opened middle ∧ next = middle.closeFilled := by
  unfold readItem
  cases due : draft.primitive? with
  | some kind =>
      refine gives_bind _ _ fun start => gives_bind_of _ _ (primitive_kind kind) fun value same => ?_
      have stored : Gives (Read.lift (draft.store (.primitive value) start)) fun after =>
          draft.store (.primitive value) start = .ok after := gives_lift _ fun after done => done
      refine gives_bind_of _ _ stored fun middle done => gives_pure _ ?_
      rintro next ⟨⟩
      rw [← same]
      exact ⟨start, middle, _, _, .primitive value middle done, .primitive value,
        extends_store coherent (.primitive value) start middle (fun _ same => nomatch same) done, rfl⟩
  | none =>
      refine gives_bind _ _ fun start => gives_bind _ _ fun tag => ?_
      by_cases ends : tag = .messageEnd
      · simp only [if_pos ends]
        cases draft.stack with
        | nil => exact gives_pure _ fun next none => nomatch none
        | cons frame outer => exact gives_fail _
      · simp only [if_neg ends]
        refine gives_bind_of _ _ (record_gives (change_admits draft) tag start) fun middle change => gives_pure _ ?_
        rintro next ⟨⟩
        obtain ⟨members, opened, suits, extended⟩ := extends_change coherent start middle change
        exact ⟨start, middle, members, opened, change, suits, extended, rfl⟩

end Steps

structure Settled (draft : Draft) : Prop where
  coherent : Coherent draft
  room : HasRoom draft 1
  shaped : Shaped draft

theorem items_settled : Gives (readItems .empty) fun last => Settled last ∧ last.stack = [] := by
  refine items_carry .empty Settled (fun draft settled cursor following after done => ?_)
    ⟨coherent_empty, (fun _ none => nomatch none), shaped_empty⟩
  intro next same
  obtain ⟨position, middle, members, opened, change, suits, extended, rfl⟩ :=
    item_extends settled.coherent cursor following after done next same
  obtain ⟨coherent, room⟩ := coherent_closed (coherent_change settled.coherent settled.room position middle change)
  refine ⟨coherent, room, shaped_closed ?_⟩
  exact shaped_extended settled.coherent settled.shaped members opened middle suits extended

theorem finish_seen (draft : Draft) (header : Header) (message : Message) (coherent : Coherent draft)
    (done : draft.finish header = .ok message) :
    ∀ entry ∈ message.graph.entries, view draft.graph entry.1 = some entry.2 := by
  obtain ⟨libraries, reading⟩ := coherent.reading
  obtain ⟨empty, _, rfl⟩ := finish_ok draft header message done
  intro entry member
  rw [view_settled draft reading.waits empty entry.1]
  exact Table.seek_member _ reading.waits.sorted entry.1 entry.2 member

theorem message_fitting : Gives readMessage fun message =>
    Complete message ∧ ∀ entry ∈ message.graph.entries, entry.2.Fitting := by
  refine gives_bind _ _ fun header => gives_bind_of _ _ items_settled fun draft last => ?_
  refine gives_lift _ fun message done => ⟨finish_complete draft header message last.1.coherent last.2 done, ?_⟩
  intro entry member
  exact last.1.shaped.fitting entry.1 entry.2 (finish_seen draft header message last.1.coherent done entry member)

theorem fitting_or_overrun (object : Object) (filled : object.slots.size = object.slotCount)
    (fitting : object.Fitting) (index : Nat) (kind : PrimitiveKind)
    (type : object.slotType? index = some (.primitive kind)) :
    (∃ value, object.slots[index]? = some (.primitive value) ∧ value.kind = kind) ∨ object.Overrun index := by
  have inside : index < object.slots.size := by
    rw [filled]
    cases object with
    | record self =>
        obtain ⟨info, found, _⟩ := Option.map_eq_some_iff.mp type
        exact (List.getElem?_eq_some_iff.mp found).1
    | string text => cases type
    | array self =>
        simp only [Object.slotType?] at type
        split at type
        · assumption
        · cases type
  have held : object.slots[index]? = some object.slots[index] := Array.getElem?_eq_getElem inside
  refine (fitting index kind _ type held).imp_left ?_
  rintro ⟨value, same, known⟩
  exact ⟨value, held.trans (congrArg some same), known⟩

theorem overrun_untyped (object : Object) (index : Nat) (kind : PrimitiveKind)
    (type : object.slotType? index = some (.primitive kind)) (overrun : object.Overrun index) : ¬ object.Typed := by
  intro typed
  obtain ⟨value, held, _⟩ := typed index kind type
  obtain ⟨start, before, _, nulls⟩ := overrun
  rw [nulls index (Nat.le_of_lt before) (Nat.le_refl _)] at held
  cases held

/-- In whatever is decoded, a slot for primitives of a kind holds one of that kind, unless nulls go on over it from a
slot of another type in front of it. So the slots of an object are as declared exactly if none is overrun, and those
of arrays always are. -/
theorem decode_typed (bytes : List UInt8) (messages : List Message) (done : decode bytes = .ok messages) :
    ∀ message ∈ messages, ∀ entry ∈ message.graph.entries,
      (∀ index kind, entry.2.slotType? index = some (.primitive kind) →
        (∃ value, entry.2.slots[index]? = some (.primitive value) ∧ value.kind = kind) ∨ entry.2.Overrun index) ∧
      (entry.2.Typed ↔
        ∀ index kind, entry.2.slotType? index = some (.primitive kind) → ¬ entry.2.Overrun index) ∧
      ∀ self, entry.2 = .array self → entry.2.Typed := by
  intro message member entry inside
  obtain ⟨complete, fitting⟩ := messages_each _ message_fitting (.ofBytes bytes) messages done message member
  have each := fitting_or_overrun entry.2 (complete.filled entry inside) (fitting entry inside)
  refine ⟨each, ⟨?_, ?_⟩, ?_⟩
  · intro typed index kind type overrun
    exact overrun_untyped entry.2 index kind type overrun typed
  · intro none index kind type
    exact (each index kind type).resolve_right (none index kind type)
  · intro self array index kind type
    refine (each index kind type).resolve_right ?_
    rw [array] at type ⊢
    exact Object.array_overrun self index kind type

-- One instance with a slot for an object and one for a number, and two nulls for both of them.
def overrunning : List UInt8 :=
  [0, 1, 0, 0, 0, 255, 255, 255, 255, 1, 0, 0, 0, 0, 0, 0, 0,
    4, 1, 0, 0, 0, 12, 83, 121, 115, 116, 101, 109, 46, 73, 110, 116, 51, 50, 2, 0, 0, 0,
    1, 97, 7, 109, 95, 118, 97, 108, 117, 101, 2, 0, 8, 13, 2, 11]

def heldAt (messages : List Message) (index : Nat) : List (Option SlotType × Option Member) :=
  messages.flatMap fun message => message.graph.entries.map fun entry =>
    (entry.2.slotType? index, entry.2.slots[index]?)

theorem overrunning_held :
    (decode overrunning).toOption.map (heldAt · 1) = some [(some (.primitive .int32), some .null)] := by
  decide +kernel

theorem decode_untyped :
    ∃ messages, decode overrunning = .ok messages ∧ ∃ message ∈ messages, ∃ entry ∈ message.graph.entries,
      entry.2.slotType? 1 = some (.primitive .int32) ∧ entry.2.slots[1]? = some .null ∧ ¬ entry.2.Typed := by
  have held := overrunning_held
  cases decoded : decode overrunning with
  | error fault =>
      rw [decoded] at held
      cases held
  | ok messages =>
      rw [decoded] at held
      have one : heldAt messages 1 = [(some (.primitive .int32), some .null)] := Option.some.inj held
      obtain ⟨message, member, inside⟩ := List.mem_flatMap.mp (one ▸ List.mem_singleton_self _)
      obtain ⟨entry, present, same⟩ := List.mem_map.mp inside
      obtain ⟨type, null⟩ := Prod.mk.inj same
      refine ⟨messages, rfl, message, member, entry, present, type, null, fun typed => ?_⟩
      obtain ⟨value, filled, _⟩ := typed 1 .int32 type
      rw [null] at filled
      cases filled

theorem decode_typed_circle :
    ∃ messages, decode circle.bytes = .ok messages ∧ messages.length = 1 ∧
      ∀ message ∈ messages, ∀ entry ∈ message.graph.entries,
        (∀ index kind, entry.2.slotType? index = some (.primitive kind) →
          (∃ value, entry.2.slots[index]? = some (.primitive value) ∧ value.kind = kind) ∨ entry.2.Overrun index) ∧
        (entry.2.Typed ↔
          ∀ index kind, entry.2.slotType? index = some (.primitive kind) → ¬ entry.2.Overrun index) ∧
        ∀ self, entry.2 = .array self → entry.2.Typed := by
  have decodes := circle_decodes
  cases decoded : decode circle.bytes with
  | error fault =>
      rw [decoded] at decodes
      cases decodes
  | ok messages =>
      rw [decoded] at decodes
      exact ⟨messages, rfl, Option.some.inj decodes, decode_typed circle.bytes messages decoded⟩

end Flowline.Record
