import Flowline.Proofs.Record.Parts

set_option autoImplicit false

namespace Flowline.Record

open Flowline.Graph

section Top

theorem grown_outside (graph : Graph) (between known : Known) (first second : List Member)
    (one two : List (ObjectId × Object)) (middle after : Draft) (fresh : Fresh graph (one ++ two))
    (before : Grown graph [] between first one middle) (behind : Grown middle.graph [] known second two after) :
    Grown graph [] known (first ++ second) (one ++ two) after := by
  refine ⟨behind.reading, behind.stack, fun entry member => ?_, fun id missing => ?_⟩
  · rcases List.mem_append.mp member with early | late
    · have key : entry.1 ∈ one.map Prod.fst := List.mem_map_of_mem early
      rw [behind.kept entry.1 (fresh_apart one two fresh entry.1 key)]
      exact before.entered entry early
    · exact behind.entered entry late
  · rw [List.map_append, List.mem_append, not_or] at missing
    rw [behind.kept id missing.2]
    exact before.kept id missing.1

theorem reads_top (pieces : List Piece) (draft : Draft) (known : Known) (reading : Reading draft known)
    (outside : draft.stack = []) (placed : Piece.PlacedTop known pieces)
    (fresh : Fresh draft.graph (Piece.objectsAll pieces)) :
    Reads draft (Write.pieces pieces)
      (Grown draft.graph [] (known.afterAll pieces) (Piece.membersAll pieces) (Piece.objectsAll pieces)) := by
  induction pieces generalizing draft known with
  | nil =>
      rw [known.after_nil]
      exact reads_nothing ⟨reading, outside, (fun _ member => nomatch member), fun _ _ => rfl⟩
  | cons first rest ih =>
      obtain ⟨stands, inside, behind⟩ := placed
      have room : first.Room draft.stack := by
        rw [outside]
        exact stands
      rw [known.after_cons]
      refine reads_append _ _ _ (reads_piece first draft known reading room inside (fresh_left _ _ fresh))
        fun middle before => ?_
      rw [outside] at before
      have inner := ih middle (known.after first) before.reading before.stack behind
        (fresh_right _ _ fresh _ _ middle before)
      exact reads_imp _ _ inner fun after grown => grown_outside _ _ _ _ _ _ _ middle after fresh before grown

theorem reading_empty : Reading .empty ⟨[], []⟩ where
  waits := waits_empty
  libraries := rfl
  schemas := fun _ member => nomatch member
  declared := fun _ member => nomatch member
  frames := fun _ member => nomatch member
  apart := List.nodup_nil

theorem pending_empty (draft : Draft) (waits : Waits draft.graph draft.pending)
    (linked : ∀ id object target, view draft.graph id = some object → Member.ref target ∈ object.slots →
      view draft.graph target ≠ none) : draft.pending.entries = [] := by
  cases entries : draft.pending.entries with
  | nil => rfl
  | cons entry rest =>
      obtain ⟨target, slots⟩ := entry
      have known : draft.pending.get? target = some slots := by
        refine Table.seek_member _ waits.queue target slots ?_
        rw [entries]
        exact List.mem_cons_self
      obtain ⟨some, _, held⟩ := waits.listed target slots known
      obtain ⟨slot, member⟩ := List.exists_mem_of_ne_nil slots some
      have holds := held slot member
      obtain ⟨object, found, inside⟩ := Option.bind_eq_some_iff.mp holds
      have fillable := slot_fillable draft.graph slot object _ found holds
      have shown : view draft.graph slot.owner = Option.some object.settle := congrArg (Option.map Object.settle) found
      have link : Member.ref target ∈ object.settle.slots := by
        rw [Object.settle, slots_map object _ fillable]
        exact Array.mem_map.mpr ⟨.pending target, Array.mem_of_getElem? inside, rfl⟩
      exact absurd ((view_none _ _).mpr (waits.absent target slots known)) (linked _ _ _ shown link)

theorem view_settled (draft : Draft) (waits : Waits draft.graph draft.pending) (empty : draft.pending.entries = [])
    (id : ObjectId) : view draft.graph id = draft.graph.get? id := by
  simp only [view]
  cases found : draft.graph.get? id with
  | none => rfl
  | some object =>
      have still : object.slots.map Member.settle = object.slots := by
        refine Array.ext Array.size_map fun index first second => ?_
        rw [Array.getElem_map]
        cases held : object.slots[index] with
        | pending target =>
            have waiting : slotOf draft.graph ⟨id, index⟩ = some (.pending target) := by
              rw [slot_held found _ rfl]
              exact Array.getElem?_eq_some_iff.mpr ⟨second, held⟩
            obtain ⟨slots, known, _⟩ := waits.complete target ⟨id, index⟩ waiting
            rw [Table.get?, empty] at known
            cases known
        | _ => rfl
      refine congrArg some ((map_slots_congr object _ (fun slots => slots) still).trans ?_)
      cases object <;> rfl

end Top

theorem takes_header (header : Header) :
    Takes readHeader (Write.header header) header := by
  refine takes_position _ _ _ fun start => ?_
  refine takes_bind _ _ _ _ .header _ (takes_record_tag _) ?_
  rw [if_pos rfl]
  refine takes_bind _ _ _ _ header.top _ (takes_int32 _) ?_
  refine takes_bind _ _ _ _ header.id _ (takes_int32 _) ?_
  refine takes_bind _ _ _ _ header.major _ (takes_int32 _) ?_
  exact takes_last _ _ _ header.minor _ (takes_int32 _) (takes_pure _)

theorem finish_layout (layout : Layout) (graph : Graph) (sound : GraphSound layout.header.top graph)
    (lays : layout.Lays graph) (after : Draft)
    (grown : Grown Draft.empty.graph [] (Known.afterAll ⟨[], []⟩ layout.pieces) (Piece.membersAll layout.pieces)
      (Piece.objectsAll layout.pieces) after) :
    after.finish layout.header = .ok ⟨layout.header, graph, layout.libraries⟩ := by
  have shown : ∀ id, view after.graph id = graph.get? id := by
    intro id
    cases found : graph.get? id with
    | some object => exact grown.entered (id, object) ((lays.same id object).mpr found)
    | none =>
        refine grown.kept id fun member => ?_
        obtain ⟨entry, inside, same⟩ := List.mem_map.mp member
        have known := (lays.same entry.1 entry.2).mp inside
        rw [same, found] at known
        cases known
  have settled : after.pending.entries = [] := by
    refine pending_empty after grown.reading.waits fun id object target seen link => ?_
    rw [shown id] at seen
    obtain ⟨other, there⟩ := sound.links id object target seen link
    rw [shown target, there]
    exact Option.some_ne_none other
  have whole : after.graph = graph :=
    Table.sorted_ext _ _ grown.reading.waits.sorted sound.sorted fun id =>
      (view_settled after grown.reading.waits settled id).symm.trans (shown id)
  have root : after.graph.contains layout.header.top = true := by
    obtain ⟨object, found⟩ := sound.root
    rw [whole, Table.contains, found]
    rfl
  simp only [Draft.finish]
  rw [settled]
  change (if after.graph.contains layout.header.top = true then _ else _) = _
  rw [if_pos root, grown.reading.libraries, whole]
  rfl

-- A layout of a sound graph is read as that graph, whatever comes behind it.
theorem read_message_layout (layout : Layout) (graph : Graph) (sound : GraphSound layout.header.top graph)
    (lays : layout.Lays graph) (rest : List UInt8) (position : Nat) :
    readMessage ⟨layout.bytes ++ rest, position⟩ =
      (.ok ⟨layout.header, graph, layout.libraries⟩, ⟨rest, position + layout.bytes.length⟩) := by
  have fresh : Fresh Draft.empty.graph (Piece.objectsAll layout.pieces) := ⟨lays.once, fun _ _ => rfl,
    fun entry member => sound.objects entry.1 entry.2 ((lays.same entry.1 entry.2).mp member)⟩
  obtain ⟨after, items, grown⟩ := reads_top layout.pieces .empty ⟨[], []⟩ reading_empty rfl lays.placed fresh
    (Write.recordTag .messageEnd ++ rest) (position + (Write.header layout.header).length)
  have ended := read_end rest (position + (Write.header layout.header).length + (Write.pieces layout.pieces).length)
    grown.stack
  have front := takes_header layout.header (Write.pieces layout.pieces ++ (Write.recordTag .messageEnd ++ rest))
    position
  have parts : layout.bytes ++ rest =
      Write.header layout.header ++ (Write.pieces layout.pieces ++ (Write.recordTag .messageEnd ++ rest)) := by
    simp only [Layout.bytes, List.append_assoc]
  have size : position + layout.bytes.length = position + (Write.header layout.header).length +
      (Write.pieces layout.pieces).length + (Write.recordTag .messageEnd).length := by
    simp only [Layout.bytes, List.length_append, Nat.add_assoc]
  rw [parts, size]
  change (readHeader >>= fun header => readItems .empty >>= fun draft => Read.lift (draft.finish header)) _ = _
  rw [run_bind, front]
  change (readItems .empty >>= fun draft => Read.lift (draft.finish layout.header)) _ = _
  rw [run_bind, items, ended]
  change (after.finish layout.header, _) = _
  rw [finish_layout layout graph sound lays after grown]

def knot : ClassInfo :=
  ⟨"raptor.Oval", .oval, componentLibrary, [⟨"_text_str", .string⟩, ⟨"_Successor", .object⟩]⟩

-- Objects that link to each other in a circle, with a shared string, a link to an object that comes later, and an
-- array inside of another object.
def circle : Layout where
  header := ⟨1, -1, 1, 0⟩
  pieces := [.library componentLibrary "", .object 1 knot (.full true) [.string 2 "x", .reference 3],
    .object 3 knot (.like 1) [.reference 2, .array 4 .object 3 .short [.nulls (.short 2), .reference 1]],
    .array 5 (.primitive .boolean) 1 .full [.plain (.boolean true)]]

def circleGraph : Graph := ⟨Piece.objectsAll circle.pieces⟩

def leads (graph : Graph) : Member → Bool
  | .ref target => graph.contains target
  | _ => true

theorem circle_sorted : Table.Sorted circleGraph := by
  simp only [Table.Sorted, Table.Ascending]
  decide +kernel

theorem circle_placed : Piece.PlacedTop ⟨[], []⟩ circle.pieces := by
  refine ⟨rfl, (by decide : Latin ""), rfl, ⟨⟨fun full => (nomatch full), Or.inr List.mem_cons_self⟩, ?_⟩, rfl,
    ⟨List.mem_cons_self, ?_⟩, rfl, ⟨trivial, rfl, trivial, rfl⟩, trivial⟩
  · exact ⟨(by decide : AwaitsRecord _), trivial, (by decide : AwaitsRecord _), trivial, rfl⟩
  · refine ⟨(by decide : AwaitsRecord _), trivial, (by decide : AwaitsRecord _), ⟨Or.inr (Or.inr rfl), ?_⟩, rfl⟩
    exact ⟨⟨(by decide : AwaitsRecord _), by decide⟩, (by decide : 2 < 2 ^ 31),
      (by decide : AwaitsRecord _), trivial, rfl⟩

theorem circle_lays : circle.Lays circleGraph where
  placed := circle_placed
  once := by decide +kernel
  same := Table.mem_iff_seek _ circle_sorted

theorem knot_sound : ClassSound knot where
  name := by decide +kernel
  kind := by decide +kernel
  fields := by decide +kernel
  members := by
    intro member inside
    rcases List.mem_cons.mp inside with same | inside
    · rw [same]
      exact ⟨by decide +kernel, trivial⟩
    · rw [List.mem_singleton.mp inside]
      exact ⟨by decide +kernel, trivial⟩
  count := by decide

theorem circle_sound : GraphSound circle.header.top circleGraph where
  sorted := circle_sorted
  objects := by
    intro id object found
    have member := Table.mem_of_seek_ascending id object _ found
    simp only [circleGraph, circle, Piece.objectsAll, Piece.objects, List.nil_append, List.cons_append, List.mem_cons,
      List.not_mem_nil, or_false, Prod.mk.injEq] at member
    rcases member with ⟨_, same⟩ | ⟨_, same⟩ | ⟨_, same⟩ | ⟨_, same⟩ | ⟨_, same⟩ <;> rw [same]
    · exact knot_sound
    · exact (by decide +kernel : Latin "x")
    · exact knot_sound
    · exact ⟨by decide, trivial⟩
    · exact ⟨by decide, trivial⟩
  links := by
    intro id object target found link
    have member := Table.mem_of_seek_ascending id object _ found
    have all : ∀ entry ∈ circleGraph.entries, ∀ member ∈ entry.2.slots.toList, leads circleGraph member = true := by
      decide +kernel
    exact Option.isSome_iff_exists.mp (all (id, object) member _ (Array.mem_toList_iff.mpr link))
  root := Option.isSome_iff_exists.mp (by decide +kernel)

theorem read_message_layout_circle :
    GraphSound circle.header.top circleGraph ∧ circle.Lays circleGraph ∧
      readMessage ⟨circle.bytes ++ [], 0⟩ =
        (.ok ⟨circle.header, circleGraph, circle.libraries⟩, ⟨[], 0 + circle.bytes.length⟩) :=
  ⟨circle_sound, circle_lays, read_message_layout circle circleGraph circle_sound circle_lays [] 0⟩

end Flowline.Record
