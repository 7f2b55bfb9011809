import Flowline.Proofs.Record.Changes
import Flowline.Proofs.Record.RoundTrip

set_option autoImplicit false

namespace Flowline.Record

open Flowline.Graph

structure ClassFits (libraries : Table LibraryId String .arrival) (info : ClassInfo) : Prop where
  kind : ClassKind.resolve? info.library info.name = some info.kind
  library : info.library = systemLibrary ∨ libraries.contains info.library = true
  fields : ∀ field ∈ info.kind.fields, (info.indexOf? field).isSome = true

def ObjectFits (libraries : Table LibraryId String .arrival) : Object → Prop
  | .record self => ClassFits libraries self.info
  | .string _ => True
  | .array self => self.length ≤ maxArrayLength

-- A message with its root, whose objects have all that they are declared to have.
structure Complete (message : Message) : Prop where
  sorted : Table.Sorted message.graph
  root : message.graph.contains message.rootId = true
  fits : ∀ entry ∈ message.graph.entries, ObjectFits message.libraries entry.2
  filled : ∀ entry ∈ message.graph.entries, entry.2.slots.size = entry.2.slotCount
  settled : ∀ entry ∈ message.graph.entries, ∀ target, Member.pending target ∉ entry.2.slots
  links : ∀ entry ∈ message.graph.entries, ∀ target, Member.ref target ∈ entry.2.slots →
    message.graph.contains target = true
  fields : ∀ id self, (id, Object.record self) ∈ message.graph.entries →
    ∀ field ∈ self.kind.fields, ∃ member, self.member? field = some member

section Objects

variable (object : Object) (change : Array Member → Array Member)

theorem slot_count_map : (object.mapSlots change).slotCount = object.slotCount := by
  cases object <;> rfl

theorem fits_map (libraries : Table LibraryId String .arrival) :
    ObjectFits libraries (object.mapSlots change) ↔ ObjectFits libraries object := by
  cases object <;> exact Iff.rfl

theorem mem_slots_append (values : List Member) (member : Member)
    (inside : member ∈ (object.mapSlots (· ++ values.toArray)).slots) : member ∈ object.slots ∨ member ∈ values := by
  cases object with
  | string text => exact Or.inl inside
  | record self => simpa [Object.mapSlots, Object.slots] using inside
  | array self => simpa [Object.mapSlots, Object.slots] using inside

end Objects

theorem seen_with_some (stack : List Frame) (seen : ObjectId → Option Object) (members : List Member) (id : ObjectId)
    (object : Object) (found : seenWith stack seen members id = some object) :
    ∃ old, seen id = some old ∧
      (object = old ∨ id ∈ stack.map Frame.id ∧ object = old.mapSlots (· ++ members.toArray)) := by
  cases stack with
  | nil => exact ⟨object, found, Or.inl rfl⟩
  | cons frame outer =>
      simp only [seenWith] at found
      by_cases same : id = frame.id
      · rw [if_pos same, ← same] at found
        obtain ⟨old, before, rfl⟩ := Option.map_eq_some_iff.mp found
        exact ⟨old, before, Or.inr ⟨by simp [same], rfl⟩⟩
      · rw [if_neg same] at found
        exact ⟨object, found, Or.inl rfl⟩

theorem seen_with_found (stack : List Frame) (seen : ObjectId → Option Object) (members : List Member) (id : ObjectId)
    (old : Object) (found : seen id = some old) :
    ∃ object, seenWith stack seen members id = some object ∧ object.slotCount = old.slotCount := by
  cases after : seenWith stack seen members id with
  | none =>
      rw [seen_with_none, found] at after
      cases after
  | some object =>
      obtain ⟨other, before, rfl | ⟨_, rfl⟩⟩ := seen_with_some stack seen members id object after
      · rw [found] at before
        cases before
        exact ⟨_, rfl, rfl⟩
      · rw [found] at before
        cases before
        exact ⟨_, rfl, slot_count_map _ _⟩

def Expected (draft : Draft) (target : ObjectId) : Prop :=
  view draft.graph target ≠ none ∨ draft.pending.get? target ≠ none

def Framed (graph : Graph) (frame : Frame) : Prop :=
  frame.Sized ∧ frame.filled ≤ frame.length ∧
    ∃ object, view graph frame.id = some object ∧ object.slotCount = frame.length

-- A draft whose objects are full, but for the open ones.
structure Coherent (draft : Draft) : Prop where
  reading : ∃ libraries, Reading draft ⟨libraries, []⟩
  frames : ∀ frame ∈ draft.stack, Framed draft.graph frame
  full : ∀ id object, view draft.graph id = some object → id ∉ draft.stack.map Frame.id →
    object.slots.size = object.slotCount
  fits : ∀ id object, view draft.graph id = some object → ObjectFits draft.libraries object
  declared : ∀ id info, draft.declarations.get? id = some info → ClassFits draft.libraries info
  links : ∀ id object target, view draft.graph id = some object → Member.ref target ∈ object.slots →
    Expected draft target

def HasRoom (draft : Draft) (count : Nat) : Prop := ∀ frame ∈ draft.stack.head?, count ≤ frame.remaining

structure Growth (before : Draft) (members : List Member) (opened : List Frame) (after : Draft) : Prop where
  reading : ∃ libraries, Reading after ⟨libraries, []⟩
  stack : after.stack = opened ++ fillTop before.stack members.length
  libraries : after.libraries = before.libraries
  declarations : after.declarations = before.declarations
  kept : ∀ id, view before.graph id ≠ none →
    view after.graph id = seenWith before.stack (view before.graph) members id
  fresh : ∀ id object, view before.graph id = none → view after.graph id = some object →
    object.slots = #[] ∧ ObjectFits before.libraries object ∧ (object.slotCount = 0 ∨ id ∈ opened.map Frame.id)
  opened : ∀ frame ∈ opened, Framed after.graph frame
  waiting : ∀ target, before.pending.get? target ≠ none → Expected after target
  links : ∀ target, Member.ref target ∈ members → Expected after target

theorem fill_top_ids (stack : List Frame) (count : Nat) :
    (fillTop stack count).map Frame.id = stack.map Frame.id := by
  cases stack <;> rfl

section Steps

variable {draft : Draft}

theorem coherent_empty : Coherent .empty where
  reading := ⟨[], reading_empty⟩
  frames := fun _ member => nomatch member
  full := fun _ _ none => nomatch none
  fits := fun _ _ none => nomatch none
  declared := fun _ _ none => nomatch none
  links := fun _ _ _ none => nomatch none

theorem framed_grown (coherent : Coherent draft) (members : List Member) (opened : List Frame) (after : Draft)
    (room : HasRoom draft members.length) (growth : Growth draft members opened after) :
    ∀ frame ∈ after.stack, Framed after.graph frame := by
  have kept : ∀ frame, Framed draft.graph frame →
      ∃ object, view after.graph frame.id = some object ∧ object.slotCount = frame.length := by
    intro frame ⟨_, _, old, found, count⟩
    obtain ⟨object, seen, same⟩ := seen_with_found draft.stack (view draft.graph) members frame.id old found
    rw [growth.kept frame.id (by simp [found])]
    exact ⟨object, seen, same.trans count⟩
  intro frame member
  rw [growth.stack] at member
  rcases List.mem_append.mp member with new | old
  · exact growth.opened frame new
  · cases stack : draft.stack with
    | nil =>
        rw [stack] at old
        cases old
    | cons top outer =>
        have frames := coherent.frames
        rw [stack] at old frames
        rcases List.mem_cons.mp old with same | later
        · have before := frames top List.mem_cons_self
          have enough := room top (by simp [stack])
          subst same
          refine ⟨before.1, ?_, kept top before⟩
          have below := before.2.1
          simp only [Frame.remaining] at enough
          simp only [Frame.fill]
          omega
        · have before := frames frame (List.mem_cons_of_mem _ later)
          exact ⟨before.1, before.2.1, kept frame before⟩

theorem expected_grown (members : List Member) (opened : List Frame) (after : Draft)
    (growth : Growth draft members opened after) (target : ObjectId) (expected : Expected draft target) :
    Expected after target := by
  rcases expected with present | waiting
  · refine Or.inl ?_
    rw [growth.kept target present, Ne, seen_with_none]
    exact present
  · exact growth.waiting target waiting

theorem coherent_grown (coherent : Coherent draft) (members : List Member) (opened : List Frame) (after : Draft)
    (room : HasRoom draft members.length) (growth : Growth draft members opened after) : Coherent after where
  reading := growth.reading
  frames := framed_grown coherent members opened after room growth
  full := by
    intro id object found outside
    rw [growth.stack, List.map_append, List.mem_append, not_or, fill_top_ids] at outside
    by_cases fresh : view draft.graph id = none
    · obtain ⟨bare, _, none | inside⟩ := growth.fresh id object fresh found
      · rw [bare, none]
        rfl
      · exact absurd inside outside.1
    · rw [growth.kept id fresh] at found
      obtain ⟨old, before, rfl | ⟨inside, _⟩⟩ := seen_with_some _ _ _ _ _ found
      · exact coherent.full id _ before outside.2
      · exact absurd inside outside.2
  fits := by
    intro id object found
    rw [growth.libraries]
    by_cases fresh : view draft.graph id = none
    · exact (growth.fresh id object fresh found).2.1
    · rw [growth.kept id fresh] at found
      obtain ⟨old, before, rfl | ⟨_, rfl⟩⟩ := seen_with_some _ _ _ _ _ found
      · exact coherent.fits id _ before
      · exact (fits_map _ _ _).mpr (coherent.fits id old before)
  declared := by
    rw [growth.declarations, growth.libraries]
    exact coherent.declared
  links := by
    intro id object target found link
    have keep := expected_grown members opened after growth target
    by_cases fresh : view draft.graph id = none
    · rw [(growth.fresh id object fresh found).1] at link
      cases Array.not_mem_empty _ link
    · rw [growth.kept id fresh] at found
      obtain ⟨old, before, rfl | ⟨_, rfl⟩⟩ := seen_with_some _ _ _ _ _ found
      · exact keep (coherent.links id _ target before link)
      · rcases mem_slots_append old members _ link with early | late
        · exact keep (coherent.links id old target before early)
        · exact growth.links target late

-- What becomes full is closed, so that the innermost open object has a free slot.
theorem coherent_closed (coherent : Coherent draft) : Coherent draft.closeFilled ∧ HasRoom draft.closeFilled 1 := by
  obtain ⟨libraries, reading⟩ := coherent.reading
  constructor
  · exact {
      reading := ⟨libraries, reading_closed reading⟩
      frames := fun frame member => coherent.frames frame ((List.dropWhile_sublist _).subset member)
      full := by
        intro id object found outside
        by_cases inside : id ∈ draft.stack.map Frame.id
        · obtain ⟨frame, member, rfl⟩ := List.mem_map.mp inside
          rw [← @List.takeWhile_append_dropWhile _ (fun frame : Frame => frame.remaining = 0) draft.stack] at member
          rcases List.mem_append.mp member with closing | still
          · have full : frame.remaining = 0 := by simpa using List.all_eq_true.mp List.all_takeWhile frame closing
            have known := (List.takeWhile_sublist _).subset closing
            obtain ⟨held, seen, _, size⟩ := reading.frames frame known
            obtain ⟨_, below, same, seenAgain, count⟩ := coherent.frames frame known
            change view draft.graph frame.id = some object at found
            rw [found] at seen seenAgain
            cases seen
            cases seenAgain
            simp only [Frame.remaining] at full
            omega
          · exact absurd (List.mem_map_of_mem still) outside
        · exact coherent.full id object found inside
      fits := coherent.fits
      declared := coherent.declared
      links := coherent.links }
  · intro frame top
    have open_still := List.head?_dropWhile_not (fun frame : Frame => decide (frame.remaining = 0)) draft.stack
    simp only [Draft.closeFilled, Option.mem_def] at top
    rw [top] at open_still
    simp only [decide_eq_false_iff_not] at open_still
    omega

theorem class_made (id : ObjectId) (name : String) (library : LibraryId) (members : List MemberInfo)
    (position : Nat) (after : Draft) (done : draft.addClass id name library members position = .ok after) :
    ∃ kind, ClassFits draft.libraries ⟨name, kind, library, members⟩ ∧
      { draft with declarations := draft.declarations.insert id ⟨name, kind, library, members⟩ }.addInstance id
        ⟨name, kind, library, members⟩ position = .ok after := by
  simp only [Draft.addClass] at done
  by_cases undeclared : library ≠ systemLibrary ∧ (!draft.libraries.contains library) = true
  · rw [if_pos undeclared] at done
    cases done
  · rw [if_neg undeclared] at done
    cases resolved : ClassKind.resolve? library name with
    | none =>
        rw [resolved] at done
        cases done
    | some kind =>
        rw [resolved] at done
        simp only at done
        cases missing : kind.fields.find? fun field =>
            ((⟨name, kind, library, members⟩ : ClassInfo).indexOf? field).isNone with
        | some field =>
            rw [missing] at done
            cases done
        | none =>
            rw [missing] at done
            refine ⟨kind, ?_, done⟩
            exact {
              kind := resolved
              library := by
                by_cases system : library = systemLibrary
                · exact Or.inl system
                · exact Or.inr (by simpa [system] using undeclared)
              fields := by
                intro field needed
                have found := List.find?_eq_none.mp missing field needed
                simpa [Option.isNone_iff_eq_none, Option.isSome_iff_ne_none] using found }

section Growths

variable (coherent : Coherent draft)

include coherent

theorem coherent_filled (frame : Frame) (outer : List Frame) (stack : draft.stack = frame :: outer)
    (members : List Member) (plain : ∀ member ∈ members, ∀ id, member ≠ .pending id)
    (known : ∀ target, Member.ref target ∈ members → view draft.graph target ≠ none)
    (room : HasRoom draft members.length) :
    Coherent ({ draft with stack := frame.fill members.length :: outer }.append frame.id members.toArray) := by
  obtain ⟨libraries, reading⟩ := coherent.reading
  obtain ⟨filled, seen⟩ := reading_filled reading frame outer stack members plain
  have expected : ∀ target, Expected draft target →
      Expected ({ draft with stack := frame.fill members.length :: outer }.append frame.id members.toArray) target := by
    rintro target (present | waiting)
    · refine Or.inl ?_
      rw [seen target, Ne, seen_with_none]
      exact present
    · exact Or.inr waiting
  refine coherent_grown coherent members [] _ room {
    reading := ⟨libraries, filled⟩
    stack := by
      rw [stack]
      rfl
    libraries := rfl
    declarations := rfl
    kept := fun id _ => seen id
    fresh := fun id object missing found => ?_
    opened := fun _ member => nomatch member
    waiting := fun target waiting => expected target (Or.inr waiting)
    links := fun target member => expected target (Or.inl (known target member)) }
  rw [seen id, (seen_with_none _ _ _ _).mpr missing] at found
  cases found

theorem coherent_awaited (frame : Frame) (outer : List Frame) (stack : draft.stack = frame :: outer)
    (target : ObjectId) (missing : draft.graph.get? target = none) (room : HasRoom draft 1) :
    Coherent (({ draft with stack := frame.fill 1 :: outer }.append frame.id #[.pending target]).await target
      ⟨frame.id, frame.filled⟩) := by
  obtain ⟨libraries, reading⟩ := coherent.reading
  obtain ⟨filled, seen⟩ := reading_awaited reading frame outer stack target missing
  have awaited : ∀ other, other = target ∨ draft.pending.get? other ≠ none →
      (draft.pending.insert target ((draft.pending.get? target).getD [] ++ [⟨frame.id, frame.filled⟩])).get? other ≠
        none := by
    intro other either
    by_cases same : other = target
    · rw [same, Table.get?_insert_self]
      exact Option.some_ne_none _
    · rw [Table.get?_insert_of_ne _ target other _ same]
      exact either.resolve_left same
  refine coherent_grown coherent [.ref target] [] _ room {
    reading := ⟨libraries, filled⟩
    stack := by
      rw [stack]
      rfl
    libraries := rfl
    declarations := rfl
    kept := fun id _ => seen id
    fresh := fun id object absent found => ?_
    opened := fun _ member => nomatch member
    waiting := fun other waiting => Or.inr (awaited other (Or.inr waiting))
    links := fun other member => Or.inr (awaited other (Or.inl (by simpa using member))) }
  rw [seen id, (seen_with_none _ _ _ _).mpr absent] at found
  cases found

theorem coherent_store (member : Member) (position : Nat) (after : Draft) (plain : ∀ id, member ≠ .pending id)
    (known : ∀ target, member = .ref target → view draft.graph target ≠ none) (room : HasRoom draft 1)
    (done : draft.store member position = .ok after) : Coherent after := by
  obtain ⟨frame, outer, stack, rfl⟩ := store_ok member position after plain done
  exact coherent_filled coherent frame outer stack [member] (plain_single member plain)
    (fun target inside => known target (List.mem_singleton.mp inside).symm) room

theorem coherent_pending (target : ObjectId) (position : Nat) (after : Draft)
    (missing : draft.graph.get? target = none) (room : HasRoom draft 1)
    (done : draft.store (.pending target) position = .ok after) : Coherent after := by
  obtain ⟨frame, outer, stack, rfl⟩ := pending_ok target position after done
  exact coherent_awaited coherent frame outer stack target missing room

theorem coherent_nulls (count position : Nat) (after : Draft)
    (done : draft.storeNulls count position = .ok after) : Coherent after := by
  obtain ⟨frame, outer, stack, enough, rfl⟩ := nulls_ok count position after done
  have room : HasRoom draft (List.replicate count Member.null).length := by
    intro other top
    rw [stack] at top
    cases top
    rw [List.length_replicate]
    exact enough
  have nulls := coherent_filled coherent frame outer stack (List.replicate count .null)
    (fun member inside id same => by simp [(List.mem_replicate.mp inside).2] at same)
    (fun target inside => by simp at inside) room
  rw [List.length_replicate, List.toArray_replicate] at nulls
  exact nulls

theorem add_fresh (id : ObjectId) (object : Object) (slots : Option Slots) (position : Nat) (after : Draft)
    (done : draft.add id object slots position = .ok after) : view draft.graph id = none := by
  obtain ⟨libraries, reading⟩ := coherent.reading
  by_contra known
  rw [add_known reading id object slots position known] at done
  cases done

theorem coherent_add (id : ObjectId) (object : Object) (slots : Option Slots) (position : Nat) (after : Draft)
    (bare : object.slots = #[]) (fits : ObjectFits draft.libraries object)
    (sized : ∀ frame ∈ opened id object slots, frame.Sized) (whole : slots = none → object.slotCount = 0)
    (fillable : slots ≠ none → object.Fillable) (room : HasRoom draft 1)
    (done : draft.add id object slots position = .ok after) : Coherent after := by
  obtain ⟨libraries, reading⟩ := coherent.reading
  have fresh := add_fresh coherent id object slots position after done
  obtain ⟨made, whole_done, added⟩ := reading_added reading id object slots position fresh bare fillable
  rw [done] at whole_done
  cases whole_done
  have there : view after.graph id ≠ none := by simp [added.entered]
  exact coherent_grown coherent [.ref id] (opened id object slots) after room {
    reading := ⟨libraries, added.reading⟩
    stack := added.stack
    libraries := added.reading.libraries.trans reading.libraries.symm
    declarations := added.declarations
    kept := fun other known => added.kept other fun same => known (same ▸ fresh)
    fresh := by
      intro other new missing found
      by_cases same : other = id
      · rw [same, added.entered] at found
        cases found
        refine ⟨bare, fits, ?_⟩
        cases slots with
        | none => exact Or.inl (whole rfl)
        | some slots => exact Or.inr (by simp [opened, same])
      · rw [added.kept other same, (seen_with_none _ _ _ _).mpr missing] at found
        cases found
    opened := by
      intro frame member
      refine ⟨sized frame member, ?_⟩
      cases slots with
      | none => cases member
      | some slots =>
          rw [List.mem_singleton.mp member]
          exact ⟨Nat.zero_le _, object, added.entered, rfl⟩
    waiting := by
      intro target waiting
      by_cases same : target = id
      · rw [same]
        exact Or.inl there
      · refine Or.inr ?_
        rw [added.pending target same]
        exact waiting
    links := by
      intro target member
      have same : target = id := by simpa using member
      rw [same]
      exact Or.inl there }

theorem coherent_instance (id : ObjectId) (info : ClassInfo) (position : Nat) (after : Draft)
    (fits : ClassFits draft.libraries info) (room : HasRoom draft 1)
    (done : draft.addInstance id info position = .ok after) : Coherent after := by
  refine coherent_add coherent id (.record ⟨info, #[]⟩) (some (.members info)) position after rfl fits ?_ ?_ ?_ room
    done
  · intro frame member
    rw [List.mem_singleton.mp member]
    rfl
  · exact fun none => nomatch none
  · exact fun _ text same => nomatch same

theorem coherent_array (id : ObjectId) (length : Nat) (element : SlotType) (position : Nat) (after : Draft)
    (room : HasRoom draft 1) (done : draft.addArray id length element position = .ok after) : Coherent after := by
  simp only [Draft.addArray] at done
  by_cases large : maxArrayLength < length
  · rw [if_pos large] at done
    cases done
  · rw [if_neg large] at done
    refine coherent_add coherent id (.array ⟨element, length, #[]⟩) (some (.elements element)) position after rfl
      (Nat.le_of_not_lt large) ?_ ?_ ?_ room done
    · intro frame member
      rw [List.mem_singleton.mp member]
      trivial
    · intro none
      cases none
    · intro _ text same
      cases same

theorem coherent_declaring (id : ObjectId) (info : ClassInfo) (fits : ClassFits draft.libraries info) :
    Coherent { draft with declarations := draft.declarations.insert id info } := by
  obtain ⟨libraries, reading⟩ := coherent.reading
  exact {
    reading := ⟨libraries, reading_redeclared reading _⟩
    frames := coherent.frames
    full := coherent.full
    fits := coherent.fits
    declared := by
      intro other known found
      by_cases same : other = id
      · rw [same, Table.get?_insert_self] at found
        cases found
        exact fits
      · rw [Table.get?_insert_of_ne draft.declarations id other info same] at found
        exact coherent.declared other known found
    links := coherent.links }

theorem coherent_class (id : ObjectId) (name : String) (library : LibraryId) (members : List MemberInfo)
    (position : Nat) (after : Draft) (room : HasRoom draft 1)
    (done : draft.addClass id name library members position = .ok after) : Coherent after := by
  obtain ⟨kind, fits, added⟩ := class_made id name library members position after done
  exact coherent_instance (coherent_declaring coherent id _ fits) id _ position after fits room added

theorem coherent_library (id : LibraryId) (name : String) :
    Coherent { draft with libraries := draft.libraries.insert id name } := by
  obtain ⟨libraries, reading⟩ := coherent.reading
  have keeps : ∀ info, ClassFits draft.libraries info → ClassFits (draft.libraries.insert id name) info := by
    intro info fits
    exact ⟨fits.kind, fits.library.imp_right (Table.contains_insert_of_contains _ _ _ _), fits.fields⟩
  exact {
    reading := ⟨_, reading_library reading id name⟩
    frames := coherent.frames
    full := coherent.full
    fits := by
      intro other object found
      have before := coherent.fits other object found
      cases object with
      | record self => exact keeps self.info before
      | string text => trivial
      | array self => exact before
    declared := fun other info found => keeps info (coherent.declared other info found)
    links := coherent.links }

theorem coherent_change (room : HasRoom draft 1) (position : Nat) (after : Draft)
    (change : Change draft position after) : Coherent after := by
  cases change with
  | library id name => exact coherent_library coherent id name
  | primitive value after done =>
      exact coherent_store coherent (.primitive value) position after (fun _ same => by cases same)
        (fun _ same => by cases same) room done
  | reference id after done =>
      by_cases known : draft.graph.contains id = true
      · rw [if_pos known] at done
        refine coherent_store coherent (.ref id) position after (fun _ same => by cases same) ?_ room done
        intro target same
        cases same
        rw [Ne, view_none]
        exact Option.isSome_iff_ne_none.mp known
      · rw [if_neg known] at done
        exact coherent_pending coherent id position after (by simpa [Table.contains] using known) room done
  | nulls count after done => exact coherent_nulls coherent count position after done
  | string id value after done =>
      exact coherent_add coherent id (.string value) none position after rfl trivial (fun _ member => by cases member)
        (fun _ => rfl) (fun some => absurd rfl some) room done
  | array id length element after done => exact coherent_array coherent id length element position after room done
  | object id other info after declared done =>
      exact coherent_instance coherent id info position after (coherent.declared other info declared) room done
  | declaration id name library members after done =>
      exact coherent_class coherent id name library members position after room done

end Growths

end Steps

theorem settle_plain (object : Object) (target : ObjectId) : Member.pending target ∉ object.settle.slots := by
  have still : ∀ member : Member, member.settle ≠ .pending target := by
    intro member
    cases member <;> simp [Member.settle]
  intro inside
  cases object with
  | string text => cases Array.not_mem_empty _ inside
  | record self | array self =>
      obtain ⟨member, _, same⟩ := Array.mem_map.mp inside
      exact still member same

theorem member_present (self : Instance) (field : String) (filled : self.values.size = self.info.members.length)
    (known : (self.info.indexOf? field).isSome = true) : ∃ member, self.member? field = some member := by
  obtain ⟨index, found⟩ := Option.isSome_iff_exists.mp known
  have below : index < self.values.size := by
    rw [filled]
    exact (List.findIdx?_eq_some_iff_getElem.mp found).1
  exact ⟨self.values[index], by simp [Instance.member?, found, below]⟩

theorem finish_complete (draft : Draft) (header : Header) (message : Message) (coherent : Coherent draft)
    (outside : draft.stack = []) (done : draft.finish header = .ok message) : Complete message := by
  obtain ⟨libraries, reading⟩ := coherent.reading
  have waits := reading.waits
  obtain ⟨empty, root, rfl⟩ := finish_ok draft header message done
  have present : ∀ entry ∈ draft.graph.entries, draft.graph.get? entry.1 = some entry.2 := fun entry member =>
    Table.seek_member _ waits.sorted entry.1 entry.2 member
  have seen : ∀ entry ∈ draft.graph.entries, view draft.graph entry.1 = some entry.2 := fun entry member =>
    (view_settled draft waits empty entry.1).trans (present entry member)
  have filled : ∀ entry ∈ draft.graph.entries, entry.2.slots.size = entry.2.slotCount := fun entry member =>
    coherent.full entry.1 entry.2 (seen entry member) (by simp [outside])
  exact {
    sorted := waits.sorted
    root := root
    fits := fun entry member => coherent.fits entry.1 entry.2 (seen entry member)
    filled := filled
    settled := by
      intro entry member target
      have same := seen entry member
      rw [view, present entry member] at same
      rw [← Option.some.inj same]
      exact settle_plain entry.2 target
    links := by
      intro entry member target link
      rcases coherent.links entry.1 entry.2 target (seen entry member) link with there | waiting
      · rw [Ne, view_none] at there
        exact Option.isSome_iff_ne_none.mpr there
      · rw [Table.get?, empty] at waiting
        exact absurd rfl waiting
    fields := by
      intro id self member field needed
      have fits : ClassFits draft.libraries self.info := coherent.fits id _ (seen (id, .record self) member)
      exact member_present self field (filled (id, .record self) member) (fits.fields field needed) }

theorem message_complete : Gives readMessage Complete := by
  refine gives_bind _ _ fun header => ?_
  have keeps : ∀ draft position middle, Coherent draft ∧ HasRoom draft 1 → Change draft position middle →
      Coherent middle.closeFilled ∧ HasRoom middle.closeFilled 1 := fun draft position middle holds change =>
    coherent_closed (coherent_change holds.1 holds.2 position middle change)
  have items := items_keep .empty _ keeps ⟨coherent_empty, fun _ none => nomatch none⟩
  exact gives_bind_of _ _ items fun draft last => gives_lift _ fun message done =>
    finish_complete draft header message last.1.1 last.2 done

-- Whatever bytes messages are read from, all of them are complete.
theorem decode_complete (bytes : List UInt8) (messages : List Message) (done : decode bytes = .ok messages) :
    ∀ message ∈ messages, Complete message :=
  messages_each Complete message_complete (.ofBytes bytes) messages done

theorem circle_decodes : (decode circle.bytes).toOption.map List.length = some 1 := by decide +kernel

theorem decode_complete_circle :
    ∃ messages, decode circle.bytes = .ok messages ∧ messages.length = 1 ∧ ∀ message ∈ messages, Complete message := by
  have decodes := circle_decodes
  cases decoded : decode circle.bytes with
  | error fault =>
      rw [decoded] at decodes
      cases decodes
  | ok messages =>
      rw [decoded] at decodes
      exact ⟨messages, rfl, Option.some.inj decodes, decode_complete circle.bytes messages decoded⟩

end Flowline.Record
