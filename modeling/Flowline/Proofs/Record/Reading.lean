import Flowline.Proofs.Record.Layout
import Flowline.Proofs.Record.Waiting
import Flowline.Record.Decode

set_option autoImplicit false

namespace Flowline.Record

open Flowline.Graph

namespace Frame

def types (frame : Frame) : List SlotType :=
  match frame.slots with
  | .members info => (info.members.map MemberInfo.type).drop frame.filled
  | .elements type => List.replicate frame.remaining type

def Sized (frame : Frame) : Prop :=
  match frame.slots with
  | .members info => frame.length = info.members.length
  | .elements _ => True

def fill (frame : Frame) (count : Nat) : Frame := { frame with filled := frame.filled + count }

theorem remaining_types (frame : Frame) (sized : frame.Sized) : frame.remaining = frame.types.length := by
  rcases frame with ⟨id, slots, filled, length⟩
  cases slots with
  | members info =>
      have same : length = info.members.length := sized
      simp only [remaining, types, List.length_drop, List.length_map, same]
  | elements type => exact (List.length_replicate).symm

theorem next_types (frame : Frame) (type : SlotType) (first : frame.types.head? = some type) :
    frame.next? = some type := by
  rcases frame with ⟨id, slots, filled, length⟩
  cases slots with
  | members info =>
      simp only [types, List.head?_drop, List.getElem?_map] at first
      exact first
  | elements other =>
      simp only [types, List.head?_replicate] at first
      split at first
      · cases first
      · exact first

theorem fill_sized (frame : Frame) (count : Nat) (sized : frame.Sized) : (frame.fill count).Sized := sized

theorem fill_types (frame : Frame) (count : Nat) : (frame.fill count).types = frame.types.drop count := by
  rcases frame with ⟨id, slots, filled, length⟩
  cases slots with
  | members info => simp only [types, fill, List.drop_drop]
  | elements type => simp only [types, fill, remaining, List.drop_replicate, Nat.sub_sub]

theorem fill_fill (frame : Frame) (first second : Nat) : (frame.fill first).fill second =
    frame.fill (first + second) := by
  simp only [fill, Nat.add_assoc]

end Frame

def closed (stack : List Frame) : List Frame := stack.dropWhile fun frame => frame.remaining = 0

def fillTop (stack : List Frame) (count : Nat) : List Frame :=
  match stack with
  | [] => []
  | frame :: outer => frame.fill count :: outer

-- What is seen when the innermost open object gets more members.
def seenWith (stack : List Frame) (seen : ObjectId → Option Object) (members : List Member) (id : ObjectId) :
    Option Object :=
  match stack with
  | [] => seen id
  | frame :: _ =>
      if id = frame.id then (seen frame.id).map (Object.mapSlots (· ++ members.toArray)) else seen id

-- A draft that fits what has been declared, with open objects that are as full as their frames say.
structure Reading (draft : Draft) (known : Known) : Prop where
  waits : Waits draft.graph draft.pending
  libraries : draft.libraries = Table.ofList known.libraries
  schemas : ∀ entry ∈ known.schemas, draft.declarations.get? entry.1 = some entry.2
  declared : ∀ entry ∈ known.schemas, view draft.graph entry.1 ≠ none
  frames : ∀ frame ∈ draft.stack,
    ∃ object, view draft.graph frame.id = some object ∧ object.Fillable ∧ object.slots.size = frame.filled
  apart : (draft.stack.map Frame.id).Nodup

section Steps

variable {draft : Draft} {known : Known}

theorem reading_closed (reading : Reading draft known) : Reading draft.closeFilled known where
  waits := reading.waits
  libraries := reading.libraries
  schemas := reading.schemas
  declared := reading.declared
  frames := fun frame member => reading.frames frame ((List.dropWhile_sublist _).subset member)
  apart := ((List.dropWhile_sublist _).map Frame.id).nodup reading.apart

theorem view_found (graph : Graph) (id : ObjectId) (settled : Object) (seen : view graph id = some settled) :
    ∃ object, graph.get? id = some object ∧ object.settle = settled := Option.map_eq_some_iff.mp seen

theorem map_none (seen : Option Object) (change : Object → Object) : seen.map change = none ↔ seen = none :=
  Option.map_eq_none_iff

theorem seen_with_none (stack : List Frame) (seen : ObjectId → Option Object) (members : List Member)
    (id : ObjectId) : seenWith stack seen members id = none ↔ seen id = none := by
  cases stack with
  | nil => exact Iff.rfl
  | cons frame outer =>
      unfold seenWith
      by_cases same : id = frame.id
      · dsimp only
        rw [if_pos same, same]
        exact map_none _ _
      · dsimp only
        rw [if_neg same]

theorem frames_filled (frame : Frame) (outer : List Frame) (graph after : Graph) (members : List Member)
    (frames : ∀ other ∈ frame :: outer,
      ∃ object, view graph other.id = some object ∧ object.Fillable ∧ object.slots.size = other.filled)
    (apart : ((frame :: outer).map Frame.id).Nodup)
    (seen : ∀ id, view after id = seenWith (frame :: outer) (view graph) members id) :
    ∀ other ∈ frame.fill members.length :: outer,
      ∃ object, view after other.id = some object ∧ object.Fillable ∧ object.slots.size = other.filled := by
  intro other member
  rcases List.mem_cons.mp member with same | later
  · subst same
    obtain ⟨object, found, fillable, size⟩ := frames frame List.mem_cons_self
    refine ⟨object.mapSlots (· ++ members.toArray), ?_, (map_fillable _ _).mpr fillable, ?_⟩
    · rw [seen]
      change (if frame.id = frame.id then _ else _) = _
      rw [if_pos rfl, found]
      rfl
    · rw [slots_map object _ fillable, Array.size_append, size]
      rfl
  · obtain ⟨object, found, rest⟩ := frames other (List.mem_cons_of_mem _ later)
    have different : other.id ≠ frame.id := by
      intro same
      rw [List.map_cons, List.nodup_cons] at apart
      exact apart.1 (same ▸ List.mem_map_of_mem later)
    refine ⟨object, ?_, rest⟩
    rw [seen]
    change (if other.id = frame.id then _ else _) = _
    rw [if_neg different]
    exact found

theorem reading_filled (reading : Reading draft known) (frame : Frame) (outer : List Frame)
    (stack : draft.stack = frame :: outer) (members : List Member)
    (plain : ∀ member ∈ members, ∀ id, member ≠ .pending id) :
    let filled := { draft with stack := frame.fill members.length :: outer }.append frame.id members.toArray
    Reading filled known ∧ ∀ id, view filled.graph id = seenWith draft.stack (view draft.graph) members id := by
  intro filled
  have frames := reading.frames
  have apart := reading.apart
  rw [stack] at frames apart
  obtain ⟨settled, seenFrame, fillable, size⟩ := frames frame List.mem_cons_self
  obtain ⟨object, found, same⟩ := view_found _ _ _ seenFrame
  subst same
  have fillable := (map_fillable object _).mp fillable
  have still : members.toArray.map Member.settle = members.toArray := by
    rw [List.map_toArray]
    congr 1
    conv => rhs; rw [← List.map_id members]
    refine List.map_congr_left fun member inside => ?_
    cases member with
    | pending id => exact absurd rfl (plain _ inside id)
    | _ => rfl
  have seen : ∀ id, view filled.graph id = seenWith draft.stack (view draft.graph) members id := by
    intro id
    have whole : filled.graph = draft.graph.modify frame.id fun object => object.mapSlots (· ++ members.toArray) := rfl
    rw [whole, view_appended, still, stack]
    rfl
  have settledValues : ∀ (index : Nat) (other : ObjectId), members.toArray[index]? ≠ some (.pending other) := by
    intro index other held
    rw [List.getElem?_toArray] at held
    exact plain _ (List.mem_of_getElem? held) other rfl
  refine ⟨?_, seen⟩
  exact {
    waits := waits_appended reading.waits members.toArray found fillable settledValues
    libraries := reading.libraries
    schemas := reading.schemas
    declared := by
      intro entry member
      rw [seen, Ne, seen_with_none]
      exact reading.declared entry member
    frames := by
      refine frames_filled frame outer draft.graph filled.graph members frames apart fun id => ?_
      rw [seen id, stack]
    apart := apart }

theorem reading_awaited (reading : Reading draft known) (frame : Frame) (outer : List Frame)
    (stack : draft.stack = frame :: outer) (target : ObjectId) (missing : draft.graph.get? target = none) :
    let filled := ({ draft with stack := frame.fill 1 :: outer }.append frame.id #[.pending target]).await target
      ⟨frame.id, frame.filled⟩
    Reading filled known ∧ ∀ id, view filled.graph id = seenWith draft.stack (view draft.graph) [.ref target] id := by
  intro filled
  have frames := reading.frames
  have apart := reading.apart
  rw [stack] at frames apart
  obtain ⟨settled, seenFrame, fillable, size⟩ := frames frame List.mem_cons_self
  obtain ⟨object, found, same⟩ := view_found _ _ _ seenFrame
  subst same
  rw [settle_size] at size
  have fillable := (map_fillable object _).mp fillable
  have seen : ∀ id, view filled.graph id = seenWith draft.stack (view draft.graph) [.ref target] id := by
    intro id
    have whole : filled.graph =
        draft.graph.modify frame.id fun object => object.mapSlots (· ++ #[.pending target]) := rfl
    rw [whole, view_appended, stack]
    have still : #[Member.pending target].map Member.settle = [Member.ref target].toArray := by
      simp [Member.settle]
    rw [still]
    rfl
  refine ⟨?_, seen⟩
  exact {
    waits := by
      have awaited := waits_awaited reading.waits target found fillable missing
      rw [size] at awaited
      exact awaited
    libraries := reading.libraries
    schemas := reading.schemas
    declared := by
      intro entry member
      rw [seen, Ne, seen_with_none]
      exact reading.declared entry member
    frames := by
      refine frames_filled frame outer draft.graph filled.graph [.ref target] frames apart fun id => ?_
      rw [seen id, stack]
    apart := apart }

theorem store_member (frame : Frame) (outer : List Frame) (stack : draft.stack = frame :: outer) (member : Member)
    (position : Nat) (plain : ∀ id, member ≠ .pending id) :
    draft.store member position =
      .ok ({ draft with stack := frame.fill 1 :: outer }.append frame.id #[member]) := by
  simp only [Draft.store]
  rw [stack]
  cases member with
  | pending id => exact absurd rfl (plain id)
  | _ => rfl

theorem store_pending (frame : Frame) (outer : List Frame) (stack : draft.stack = frame :: outer) (target : ObjectId)
    (position : Nat) :
    draft.store (.pending target) position =
      .ok (({ draft with stack := frame.fill 1 :: outer }.append frame.id #[.pending target]).await target
        ⟨frame.id, frame.filled⟩) := by
  simp only [Draft.store]
  rw [stack]
  rfl

theorem store_nulls (frame : Frame) (outer : List Frame) (stack : draft.stack = frame :: outer) (count : Nat)
    (position : Nat) (enough : count ≤ frame.remaining) :
    draft.storeNulls count position =
      .ok ({ draft with stack := frame.fill count :: outer }.append frame.id (Array.replicate count .null)) := by
  simp only [Draft.storeNulls]
  rw [stack]
  exact if_neg (Nat.not_lt_of_le enough)

theorem store_ok (member : Member) (position : Nat) (after : Draft) (plain : ∀ id, member ≠ .pending id)
    (done : draft.store member position = .ok after) :
    ∃ frame outer, draft.stack = frame :: outer ∧
      after = { draft with stack := frame.fill 1 :: outer }.append frame.id #[member] := by
  cases stack : draft.stack with
  | nil =>
      simp only [Draft.store, stack] at done
      cases done
  | cons frame outer =>
      rw [store_member frame outer stack member position plain] at done
      cases done
      exact ⟨frame, outer, rfl, rfl⟩

theorem pending_ok (target : ObjectId) (position : Nat) (after : Draft)
    (done : draft.store (.pending target) position = .ok after) :
    ∃ frame outer, draft.stack = frame :: outer ∧
      after = ({ draft with stack := frame.fill 1 :: outer }.append frame.id #[.pending target]).await target
        ⟨frame.id, frame.filled⟩ := by
  cases stack : draft.stack with
  | nil =>
      simp only [Draft.store, stack] at done
      cases done
  | cons frame outer =>
      rw [store_pending frame outer stack target position] at done
      cases done
      exact ⟨frame, outer, rfl, rfl⟩

theorem nulls_ok (count position : Nat) (after : Draft) (done : draft.storeNulls count position = .ok after) :
    ∃ frame outer, draft.stack = frame :: outer ∧ count ≤ frame.remaining ∧
      after = { draft with stack := frame.fill count :: outer }.append frame.id (Array.replicate count .null) := by
  cases stack : draft.stack with
  | nil =>
      simp only [Draft.storeNulls, stack] at done
      cases done
  | cons frame outer =>
      by_cases enough : count ≤ frame.remaining
      · rw [store_nulls frame outer stack count position enough] at done
        cases done
        exact ⟨frame, outer, rfl, enough, rfl⟩
      · simp only [Draft.storeNulls, stack, if_pos (Nat.lt_of_not_le enough)] at done
        cases done

theorem plain_single (member : Member) (plain : ∀ id, member ≠ .pending id) :
    ∀ other ∈ [member], ∀ id, other ≠ .pending id := by
  intro other inside
  rw [List.mem_singleton.mp inside]
  exact plain

theorem reading_linked (reading : Reading draft known) (id : ObjectId) (position : Nat) :
    ∃ linked, (if draft.stack.isEmpty then .ok draft else draft.store (.ref id) position) = .ok linked ∧
      Reading linked known ∧ linked.stack = fillTop draft.stack 1 ∧ linked.declarations = draft.declarations ∧
      linked.pending = draft.pending ∧
      ∀ other, view linked.graph other = seenWith draft.stack (view draft.graph) [.ref id] other := by
  cases stack : draft.stack with
  | nil => exact ⟨draft, rfl, reading, stack, rfl, rfl, fun _ => rfl⟩
  | cons frame outer =>
      have plain : ∀ other, Member.ref id ≠ .pending other := fun _ same => nomatch same
      obtain ⟨filled, seen⟩ := reading_filled reading frame outer stack [.ref id] (plain_single _ plain)
      refine ⟨_, ?_, filled, rfl, rfl, rfl, fun other => ?_⟩
      · exact store_member frame outer stack (.ref id) position plain
      · rw [← stack]
        exact seen other

theorem add_linked (id : ObjectId) (object : Object) (slots : Option Slots) (position : Nat) (linked entered : Draft)
    (stored : (if draft.stack.isEmpty then .ok draft else draft.store (.ref id) position) = .ok linked)
    (done : linked.enter id object position = .ok entered) :
    draft.add id object slots position =
      .ok (match slots with
        | some slots => entered.openFrame id object slots
        | none => entered) := by
  simp only [Draft.add]
  by_cases outside : draft.stack.isEmpty = true
  · rw [if_pos outside] at stored ⊢
    cases stored
    cases slots <;> simp only [bind, Except.bind, done, pure, Except.pure]
  · rw [if_neg outside] at stored ⊢
    cases slots <;> simp only [bind, Except.bind, stored, done, pure, Except.pure]

def opened (id : ObjectId) (object : Object) : Option Slots → List Frame
  | some slots => [⟨id, slots, 0, object.slotCount⟩]
  | none => []

structure Added (before : Draft) (known : Known) (id : ObjectId) (object : Object) (slots : Option Slots)
    (after : Draft) : Prop where
  reading : Reading after known
  stack : after.stack = opened id object slots ++ fillTop before.stack 1
  declarations : after.declarations = before.declarations
  pending : ∀ other, other ≠ id → after.pending.get? other = before.pending.get? other
  entered : view after.graph id = some object
  kept : ∀ other, other ≠ id →
    view after.graph other = seenWith before.stack (view before.graph) [.ref id] other

theorem frames_apart (reading : Reading draft known) (id : ObjectId) (missing : view draft.graph id = none) :
    ∀ frame ∈ draft.stack, frame.id ≠ id := by
  rintro frame member rfl
  obtain ⟨_, there, _⟩ := reading.frames frame member
  rw [missing] at there
  cases there

theorem reading_entered (reading : Reading draft known) (id : ObjectId) (graph : Graph)
    (missing : view draft.graph id = none) (waits : Waits graph (draft.pending.erase id))
    (others : ∀ other, other ≠ id → view graph other = view draft.graph other) :
    Reading { draft with graph := graph, pending := draft.pending.erase id } known where
  waits := waits
  libraries := reading.libraries
  schemas := reading.schemas
  declared := by
    intro entry member
    have seen := reading.declared entry member
    have apart : entry.1 ≠ id := fun same => seen (same ▸ missing)
    change view graph entry.1 ≠ none
    rw [others entry.1 apart]
    exact seen
  frames := by
    intro frame member
    change ∃ object, view graph frame.id = some object ∧ object.Fillable ∧ object.slots.size = frame.filled
    rw [others frame.id (frames_apart reading id missing frame member)]
    exact reading.frames frame member
  apart := reading.apart

theorem reading_opened (reading : Reading draft known) (id : ObjectId) (object : Object) (slots : Slots)
    (there : view draft.graph id = some object) (bare : object.slots = #[]) (fillable : object.Fillable)
    (apart : ∀ frame ∈ draft.stack, frame.id ≠ id) : Reading (draft.openFrame id object slots) known where
  waits := reading.waits
  libraries := reading.libraries
  schemas := reading.schemas
  declared := reading.declared
  frames := by
    intro frame member
    rcases List.mem_cons.mp member with same | later
    · rw [same]
      exact ⟨object, there, fillable, congrArg Array.size bare⟩
    · exact reading.frames frame later
  apart := by
    refine List.nodup_cons.mpr ⟨fun member => ?_, reading.apart⟩
    obtain ⟨frame, inside, same⟩ := List.mem_map.mp member
    exact apart frame inside same

theorem reading_added (reading : Reading draft known) (id : ObjectId) (object : Object) (slots : Option Slots)
    (position : Nat) (fresh : view draft.graph id = none) (bare : object.slots = #[])
    (fillable : slots ≠ none → object.Fillable) :
    ∃ after, draft.add id object slots position = .ok after ∧ Added draft known id object slots after := by
  obtain ⟨linked, stored, filled, stack, declarations, queue, seen⟩ := reading_linked reading id position
  have missing : view linked.graph id = none := by
    rw [seen, seen_with_none]
    exact fresh
  obtain ⟨graph, entered, waits, found⟩ :=
    waits_entered linked id object position filled.waits ((view_none _ _).mp missing) bare
  have itself : view graph id = some object := by
    rw [found, if_pos rfl]
  have others : ∀ other, other ≠ id → view graph other = view linked.graph other := by
    intro other apart
    rw [found, if_neg apart]
  have whole := reading_entered filled id graph missing waits others
  have kept : ∀ other, other ≠ id →
      view graph other = seenWith draft.stack (view draft.graph) [.ref id] other := fun other apart =>
    (others other apart).trans (seen other)
  have pending : ∀ other, other ≠ id → (linked.pending.erase id).get? other = draft.pending.get? other := by
    intro other apart
    rw [Table.get?_erase_of_ne linked.pending id other filled.waits.queue apart, queue]
  cases slots with
  | none =>
      exact ⟨_, add_linked id object none position linked _ stored entered, whole, stack, declarations, pending,
        itself, kept⟩
  | some slots =>
      have opened := reading_opened whole id object slots itself bare (fillable nofun) (frames_apart filled id missing)
      exact ⟨_, add_linked id object (some slots) position linked _ stored entered, opened, congrArg (_ :: ·) stack,
        declarations, pending, itself, kept⟩

theorem add_known (reading : Reading draft known) (id : ObjectId) (object : Object) (slots : Option Slots)
    (position : Nat) (there : view draft.graph id ≠ none) :
    draft.add id object slots position = .error (.duplicateObject position id) := by
  obtain ⟨linked, stored, _, _, _, _, seen⟩ := reading_linked reading id position
  have present : linked.graph.contains id = true := by
    have kept : view linked.graph id ≠ none := by
      rw [seen id, Ne, seen_with_none]
      exact there
    rw [Ne, view_none] at kept
    exact Option.isSome_iff_ne_none.mpr kept
  have failed : linked.enter id object position = .error (.duplicateObject position id) := if_pos present
  simp only [Draft.add]
  by_cases outside : draft.stack.isEmpty = true
  · rw [if_pos outside] at stored ⊢
    cases stored
    simp only [bind, Except.bind, failed]
  · rw [if_neg outside] at stored ⊢
    simp only [bind, Except.bind, stored, failed]

-- As long as no declaration is asked for, any will do.
theorem reading_redeclared {libraries : List (LibraryId × String)} (reading : Reading draft ⟨libraries, []⟩)
    (declarations : Table ObjectId ClassInfo .ascending) :
    Reading { draft with declarations := declarations } ⟨libraries, []⟩ where
  waits := reading.waits
  libraries := reading.libraries
  schemas := fun _ member => nomatch member
  declared := fun _ member => nomatch member
  frames := reading.frames
  apart := reading.apart

theorem reading_declaring (reading : Reading draft known) (id : ObjectId) (info : ClassInfo)
    (fresh : view draft.graph id = none) :
    Reading { draft with declarations := draft.declarations.insert id info } known where
  waits := reading.waits
  libraries := reading.libraries
  schemas := by
    intro entry member
    have apart : entry.1 ≠ id := fun same => reading.declared entry member (same ▸ fresh)
    rw [Table.get?_insert_of_ne draft.declarations id entry.1 info apart]
    exact reading.schemas entry member
  declared := reading.declared
  frames := reading.frames
  apart := reading.apart

theorem reading_declared (reading : Reading draft known) (id : ObjectId) (info : ClassInfo)
    (found : draft.declarations.get? id = some info) (seen : view draft.graph id ≠ none) :
    Reading draft ⟨known.libraries, known.schemas ++ [(id, info)]⟩ where
  waits := reading.waits
  libraries := reading.libraries
  schemas := by
    intro entry member
    rcases List.mem_append.mp member with old | new
    · exact reading.schemas entry old
    · rw [List.mem_singleton.mp new]
      exact found
  declared := by
    intro entry member
    rcases List.mem_append.mp member with old | new
    · exact reading.declared entry old
    · rw [List.mem_singleton.mp new]
      exact seen
  frames := reading.frames
  apart := reading.apart

theorem of_list_snoc {κ ν : Type} {order : Arrangement} [Ord κ] [DecidableEq κ] (entries : List (κ × ν)) (key : κ)
    (value : ν) : (Table.ofList (entries ++ [(key, value)]) : Table κ ν order) =
      (Table.ofList entries).insert key value :=
  List.foldl_append

theorem reading_library (reading : Reading draft known) (id : LibraryId) (name : String) :
    Reading { draft with libraries := draft.libraries.insert id name }
      ⟨known.libraries ++ [(id, name)], known.schemas⟩ where
  waits := reading.waits
  libraries := by
    rw [of_list_snoc, ← reading.libraries]
  schemas := reading.schemas
  declared := reading.declared
  frames := reading.frames
  apart := reading.apart

end Steps

end Flowline.Record
