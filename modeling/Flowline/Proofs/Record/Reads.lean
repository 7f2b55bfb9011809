import Flowline.Proofs.Record.Changes
import Flowline.Proofs.Record.Reading
import Mathlib.Data.List.Induction

set_option autoImplicit false

namespace Flowline.Record

open Flowline.Graph

-- Reading on from a draft over some bytes is reading on from another draft behind them.
def Reads (draft : Draft) (bytes : List UInt8) (reached : Draft → Prop) : Prop :=
  ∀ rest position, ∃ after,
    readItems draft ⟨bytes ++ rest, position⟩ = readItems after ⟨rest, position + bytes.length⟩ ∧ reached after

section Sequences

variable {draft : Draft} {reached : Draft → Prop}

theorem reads_nothing (here : reached draft) : Reads draft [] reached := fun _ _ => ⟨draft, rfl, here⟩

theorem reads_append (between : Draft → Prop) (first second : List UInt8) (one : Reads draft first between)
    (two : ∀ middle, between middle → Reads middle second reached) : Reads draft (first ++ second) reached := by
  intro rest position
  obtain ⟨middle, before, there⟩ := one (second ++ rest) position
  obtain ⟨after, behind, here⟩ := two middle there rest (position + first.length)
  refine ⟨after, ?_, here⟩
  rw [List.append_assoc, before, behind, List.length_append, Nat.add_assoc]

theorem reads_imp (between : Draft → Prop) (bytes : List UInt8) (one : Reads draft bytes between)
    (imp : ∀ after, between after → reached after) : Reads draft bytes reached := by
  intro rest position
  obtain ⟨after, read, there⟩ := one rest position
  exact ⟨after, read, imp after there⟩

theorem items_step (cursor next : Cursor) (following : Draft)
    (step : readItem draft cursor = (.ok (some following), next)) :
    readItems draft cursor = readItems following next := by
  rw [items_bind, run_bind, step]

theorem items_end (cursor next : Cursor) (step : readItem draft cursor = (.ok none, next)) :
    readItems draft cursor = (.ok draft, next) := by
  rw [items_bind, run_bind, step]
  rfl

theorem reads_record (tag : RecordTag) (bytes : List UInt8) (untyped : draft.primitive? = none)
    (inside : tag ≠ .messageEnd)
    (taken : ∀ start, ∃ after, Takes (readRecord draft tag start) bytes after ∧ reached after.closeFilled) :
    Reads draft (Write.recordTag tag ++ bytes) reached := by
  intro rest position
  obtain ⟨after, takes, here⟩ := taken position
  refine ⟨after.closeFilled, items_step _ _ _ ?_, here⟩
  simp only [readItem]
  rw [untyped]
  refine takes_bind Read.recordTag _ _ _ tag (some after.closeFilled) (takes_record_tag tag) ?_ rest position
  rw [if_neg inside]
  exact takes_bind_pure _ (fun next : Draft => some next.closeFilled) _ _ takes

theorem reads_plain (value : Primitive) (typed : draft.primitive? = some value.kind)
    (stored : ∀ start, ∃ after, draft.store (.primitive value) start = .ok after ∧ reached after.closeFilled) :
    Reads draft (Write.primitive value) reached := by
  intro rest position
  obtain ⟨after, done, here⟩ := stored position
  refine ⟨after.closeFilled, items_step _ _ _ ?_, here⟩
  simp only [readItem]
  rw [typed]
  refine takes_last (Read.primitive value.kind) _ _ value (some after.closeFilled) (takes_primitive value) ?_
    rest position
  rw [done]
  exact takes_bind_pure _ (fun stored : Draft => some stored.closeFilled) _ _ (takes_lift after)

theorem read_end (rest : List UInt8) (position : Nat) (outside : draft.stack = []) :
    readItems draft ⟨Write.recordTag .messageEnd ++ rest, position⟩ =
      (.ok draft, ⟨rest, position + (Write.recordTag .messageEnd).length⟩) := by
  have untyped : draft.primitive? = none := by
    rw [Draft.primitive?, outside]
    rfl
  refine items_end _ _ ?_
  simp only [readItem]
  rw [untyped]
  dsimp only
  rw [run_bind]
  refine takes_last Read.recordTag _ _ .messageEnd none (takes_record_tag _) ?_ rest position
  rw [if_pos rfl, outside]
  exact takes_pure none

end Sequences

section Records

variable {draft : Draft} {known : Known}

theorem library_declared (libraries : List (LibraryId × String)) (library : LibraryId)
    (member : library ∈ libraries.map Prod.fst) :
    (Table.ofList libraries : Table LibraryId String .arrival).contains library = true := by
  induction libraries using List.reverseRecOn with
  | nil => cases member
  | append_singleton libraries entry ih =>
      obtain ⟨id, name⟩ := entry
      rw [of_list_snoc, Table.contains]
      by_cases same : library = id
      · rw [same, Table.get?_insert_self]
        rfl
      · rw [Table.get?_insert_of_ne _ id library name same]
        rw [List.map_append, List.mem_append] at member
        rcases member with old | new
        · exact ih old
        · exact absurd (List.mem_singleton.mp new) same

theorem add_class_sound (reading : Reading draft known) (id : ObjectId) (info : ClassInfo) (sound : ClassSound info)
    (declared : info.library = systemLibrary ∨ info.library ∈ known.libraries.map Prod.fst) (position : Nat) :
    draft.addClass id info.name info.library info.members position =
      { draft with declarations := draft.declarations.insert id info }.addInstance id info position := by
  have library : ¬ (info.library ≠ systemLibrary ∧ (!draft.libraries.contains info.library) = true) := by
    rintro ⟨other, missing⟩
    rcases declared with same | member
    · exact other same
    · rw [reading.libraries, library_declared known.libraries info.library member] at missing
      cases missing
  have fields : info.kind.fields.find? (fun field => (info.indexOf? field).isNone) = none := by
    refine List.find?_eq_none.mpr fun field member missing => ?_
    have found := sound.fields field member
    rw [Option.isNone_iff_eq_none.mp missing] at found
    cases found
  simp only [Draft.addClass]
  rw [if_neg library, sound.kind]
  dsimp only
  rw [fields]

theorem takes_class (id : ObjectId) (info : ClassInfo) (inLibrary : Bool) (sound : ClassSound info)
    (system : inLibrary = false → info.library = systemLibrary) (position : Nat) (after : Draft)
    (done : draft.addClass id info.name info.library info.members position = .ok after) :
    Takes (readClass draft inLibrary position)
      (Write.int32 id ++ (Write.string info.name ++ (Write.length info.members.length ++
        (info.members.flatMap (fun member => Write.string member.name) ++
          (info.members.flatMap (fun member => Write.slotTag (slotTag member.type)) ++
            (info.members.flatMap (fun member => Write.slotType member.type) ++
              (if inLibrary then Write.int32 info.library else []))))))) after := by
  have names := takes_many Read.string Write.string (info.members.map MemberInfo.name) fun name member => by
    obtain ⟨declared, inside, same⟩ := List.mem_map.mp member
    rw [← same]
    exact takes_string _ (sound.members declared inside).1
  have tags := takes_many Read.slotTag Write.slotTag (info.members.map fun member => slotTag member.type)
    fun tag _ => takes_slot_tag tag
  have types := takes_slot_types (info.members.map MemberInfo.type) fun type member => by
    obtain ⟨declared, inside, same⟩ := List.mem_map.mp member
    rw [← same]
    exact (sound.members declared inside).2
  rw [List.length_map, List.flatMap_map] at names tags
  rw [List.map_map, List.flatMap_map] at types
  have library : Takes (readLibrary inLibrary) (if inLibrary then Write.int32 info.library else []) info.library := by
    cases inLibrary with
    | true => exact takes_int32 info.library
    | false =>
        rw [system rfl]
        exact takes_pure systemLibrary
  have whole : (info.members.map MemberInfo.name).zipWith MemberInfo.mk (info.members.map MemberInfo.type) =
      info.members := by
    rw [List.zipWith_map, List.zipWith_self]
    exact List.map_id _
  simp only [readClass]
  refine takes_bind _ _ _ _ id _ (takes_int32 id) ?_
  refine takes_bind _ _ _ _ info.name _ (takes_string _ sound.name) ?_
  refine takes_bind _ _ _ _ info.members.length _ (takes_length _ sound.count) ?_
  refine takes_bind _ _ _ _ _ _ names ?_
  refine takes_bind _ _ _ _ _ _ tags ?_
  refine takes_bind _ _ _ _ _ _ types ?_
  refine takes_last _ _ _ info.library after library ?_
  rw [whole]
  exact takes_lifted _ _ done

structure Begun (before : Draft) (known : Known) (id : ObjectId) (object : Object) (slots : Option Slots)
    (after : Draft) : Prop where
  reading : Reading after known
  stack : after.stack = closed (opened id object slots ++ fillTop before.stack 1)
  entered : view after.graph id = some object
  kept : ∀ other, other ≠ id →
    view after.graph other = seenWith before.stack (view before.graph) [.ref id] other

theorem begun_added (id : ObjectId) (object : Object) (slots : Option Slots) (after : Draft)
    (added : Added draft known id object slots after) : Begun draft known id object slots after.closeFilled where
  reading := reading_closed added.reading
  stack := congrArg closed added.stack
  entered := added.entered
  kept := added.kept

section Heads

variable (reading : Reading draft known) (id : ObjectId) (fresh : view draft.graph id = none)

include reading fresh

theorem added_instance (info : ClassInfo) (start : Nat) :
    ∃ after, draft.addInstance id info start = .ok after ∧
      Added draft known id (.record ⟨info, #[]⟩) (some (.members info)) after :=
  reading_added reading id (.record ⟨info, #[]⟩) (some (.members info)) start fresh rfl fun _ _ same => nomatch same

theorem begun_array (element : SlotType) (length : Nat) (bounded : length ≤ maxArrayLength) (start : Nat) :
    ∃ after, draft.addArray id length element start = .ok after ∧
      Begun draft known id (.array ⟨element, length, #[]⟩) (some (.elements element)) after.closeFilled := by
  obtain ⟨after, done, added⟩ :=
    reading_added reading id (.array ⟨element, length, #[]⟩) (some (.elements element)) start
    fresh rfl fun _ _ same => nomatch same
  refine ⟨after, ?_, begun_added id _ _ after added⟩
  simp only [Draft.addArray]
  rw [if_neg (Nat.not_lt_of_le bounded)]
  exact done

theorem reads_string (untyped : draft.primitive? = none) (value : String) (latin : Latin value) :
    Reads draft (Write.recordTag .string ++ (Write.int32 id ++ Write.string value))
      (Begun draft known id (.string value) none) := by
  refine reads_record .string _ untyped (by decide) fun start => ?_
  obtain ⟨after, done, added⟩ :=
    reading_added reading id (.string value) none start fresh rfl fun some => absurd rfl some
  refine ⟨after, ?_, begun_added id _ none after added⟩
  refine takes_bind _ _ _ _ id _ (takes_int32 id) ?_
  exact takes_last _ _ _ value after (takes_string value latin) (takes_lifted _ _ done)

theorem reads_array (untyped : draft.primitive? = none) (element : SlotType) (length : Nat) (form : ArrayForm)
    (allowed : form.Allowed element) (bounded : length ≤ maxArrayLength) (latin : SlotType.Latin element) :
    Reads draft (Write.arrayHead id element length form)
      (Begun draft known id (.array ⟨element, length, #[]⟩) (some (.elements element))) := by
  have short : length < 2 ^ 31 := by
    unfold maxArrayLength at bounded
    omega
  have counted := takes_length length short
  cases form with
  | short =>
      rcases allowed with ⟨kind, same⟩ | same | same
      · subst same
        refine reads_record .primitiveArray _ untyped (by decide) fun start => ?_
        obtain ⟨after, done, begun⟩ := begun_array reading id fresh (.primitive kind) length bounded start
        refine ⟨after, ?_, begun⟩
        refine takes_bind _ _ _ _ id _ (takes_int32 id) ?_
        refine takes_bind _ _ _ _ length _ counted ?_
        exact takes_last _ _ _ kind after (takes_primitive_kind kind) (takes_lifted _ _ done)
      · subst same
        refine reads_record .stringArray _ untyped (by decide) fun start => ?_
        obtain ⟨after, done, begun⟩ := begun_array reading id fresh .string length bounded start
        refine ⟨after, ?_, begun⟩
        refine takes_bind _ _ _ _ id _ (takes_int32 id) ?_
        exact takes_last _ _ _ length after counted (takes_lifted _ _ done)
      · subst same
        refine reads_record .objectArray _ untyped (by decide) fun start => ?_
        obtain ⟨after, done, begun⟩ := begun_array reading id fresh .object length bounded start
        refine ⟨after, ?_, begun⟩
        refine takes_bind _ _ _ _ id _ (takes_int32 id) ?_
        exact takes_last _ _ _ length after counted (takes_lifted _ _ done)
  | full =>
      refine reads_record .array _ untyped (by decide) fun start => ?_
      obtain ⟨after, done, begun⟩ := begun_array reading id fresh element length bounded start
      refine ⟨after, ?_, begun⟩
      have lengths : Takes (Read.many 1 Read.length) (Write.length length) [length] := by
        have many := takes_many Read.length Write.length [length] fun other member => by
          rw [List.mem_singleton.mp member]
          exact counted
        rw [List.flatMap_singleton] at many
        exact many
      have bounds : Takes (readBounds .single 1) [] [] := takes_pure []
      refine takes_bind _ _ _ _ id _ (takes_int32 id) ?_
      refine takes_bind _ _ _ _ .single _ takes_array_shape ?_
      refine takes_bind _ _ _ _ 1 _ (takes_length 1 (by decide)) ?_
      refine takes_bind _ _ _ _ [length] _ lengths ?_
      refine takes_bind _ _ [] _ [] _ bounds ?_
      refine takes_bind _ _ _ _ (slotTag element) _ (takes_slot_tag _) ?_
      exact takes_last _ _ _ element after (takes_slot_type element latin) (takes_lifted _ _ done)

theorem reads_class (untyped : draft.primitive? = none) (info : ClassInfo) (inLibrary : Bool)
    (sound : ClassSound info)
    (allowed : (ClassForm.full inLibrary).Allowed known info) :
    Reads draft (Write.classInfo id info inLibrary)
      (Begun draft ⟨known.libraries, known.schemas ++ [(id, info)]⟩ id (.record ⟨info, #[]⟩)
        (some (.members info))) := by
  have each : ∀ start, ∃ after, Takes (readClass draft inLibrary start) _ after ∧ _ := fun start => by
    have declaring := reading_declaring reading id info fresh
    obtain ⟨after, done, added⟩ := added_instance declaring id fresh info start
    have class_done := (add_class_sound reading id info sound allowed.2 start).trans done
    have taken := takes_class id info inLibrary sound allowed.1 start after class_done
    have found : after.declarations.get? id = some info := by
      rw [added.declarations]
      exact Table.get?_insert_self _ _ _
    have declared := reading_declared added.reading id info found (by rw [added.entered]; simp)
    exact ⟨after, taken, (⟨reading_closed declared, congrArg closed added.stack, added.entered, added.kept⟩ :
      Begun draft ⟨known.libraries, known.schemas ++ [(id, info)]⟩ id (.record ⟨info, #[]⟩) (some (.members info))
        after.closeFilled)⟩
  cases inLibrary with
  | true => exact reads_record .libraryClass _ untyped (by decide) each
  | false => exact reads_record .systemClass _ untyped (by decide) each

theorem reads_object (untyped : draft.primitive? = none) (info : ClassInfo) (form : ClassForm)
    (sound : ClassSound info)
    (allowed : form.Allowed known info) :
    Reads draft (Write.objectHead id info form)
      (Begun draft (known.declare id info form) id (.record ⟨info, #[]⟩) (some (.members info))) := by
  cases form with
  | full inLibrary => exact reads_class reading id fresh untyped info inLibrary sound allowed
  | like other =>
      refine reads_record .object _ untyped (by decide) fun start => ?_
      obtain ⟨after, done, added⟩ := added_instance reading id fresh info start
      refine ⟨after, ?_, begun_added id _ _ after added⟩
      refine takes_bind _ _ _ _ id _ (takes_int32 id) ?_
      refine takes_last _ _ _ other after (takes_int32 other) ?_
      rw [reading.schemas (other, info) allowed]
      exact takes_lifted _ _ done

end Heads

end Records

end Flowline.Record
