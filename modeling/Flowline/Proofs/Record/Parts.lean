import Flowline.Proofs.Record.Reads

set_option autoImplicit false

namespace Flowline.Record

open Flowline.Graph

namespace Known

def afterAll (known : Known) (pieces : List Piece) : Known :=
  ⟨known.libraries ++ Piece.librariesAll pieces, known.schemas ++ Piece.schemasAll pieces⟩

theorem after_nil (known : Known) : known.afterAll [] = known := by
  simp only [afterAll, Piece.librariesAll, Piece.schemasAll, List.append_nil]

theorem after_cons (known : Known) (first : Piece) (rest : List Piece) :
    known.afterAll (first :: rest) = (known.after first).afterAll rest := by
  simp only [afterAll, after, Piece.librariesAll, Piece.schemasAll, List.append_assoc]

theorem after_object (known : Known) (id : ObjectId) (info : ClassInfo) (form : ClassForm) (body : List Piece) :
    known.after (.object id info form body) = (known.declare id info form).afterAll body := by
  cases form with
  | full inLibrary =>
      simp only [after, afterAll, declare, Piece.libraries, Piece.schemas, List.append_assoc, List.singleton_append]
  | like other => rfl

theorem after_array (known : Known) (id : ObjectId) (element : SlotType) (length : Nat) (form : ArrayForm)
    (body : List Piece) : known.after (.array id element length form body) = known.afterAll body := rfl

theorem after_quiet (known : Known) (piece : Piece) (libraries : piece.libraries = [])
    (schemas : piece.schemas = []) :
    known.after piece = known := by
  simp only [after, libraries, schemas, List.append_nil]

end Known

theorem placed_length (known : Known) (types : List SlotType) (body : List Piece)
    (placed : Piece.PlacedAll known types body) : types.drop (Piece.membersAll body).length = [] := by
  induction body generalizing known types with
  | nil =>
      rw [placed]
      rfl
  | cons first rest ih =>
      have later := ih (known.after first) (types.drop first.members.length) placed.2.2
      rw [List.drop_drop] at later
      simp only [Piece.membersAll, List.flatMap_cons, List.length_append] at later ⊢
      exact later

structure Fresh (graph : Graph) (objects : List (ObjectId × Object)) : Prop where
  once : (objects.map Prod.fst).Nodup
  absent : ∀ entry ∈ objects, view graph entry.1 = none
  sound : ∀ entry ∈ objects, ObjectSound entry.2

structure Grown (graph : Graph) (frames : List Frame) (known : Known) (members : List Member)
    (objects : List (ObjectId × Object)) (after : Draft) : Prop where
  reading : Reading after known
  stack : after.stack = closed (fillTop frames members.length)
  entered : ∀ entry ∈ objects, view after.graph entry.1 = some entry.2
  kept : ∀ id, id ∉ objects.map Prod.fst → view after.graph id = seenWith frames (view graph) members id

section Grown

variable {graph : Graph} {known : Known}

theorem fresh_left (first second : List (ObjectId × Object)) (fresh : Fresh graph (first ++ second)) :
    Fresh graph first where
  once := by
    have once := fresh.once
    rw [List.map_append] at once
    exact (List.nodup_append.mp once).1
  absent := fun entry member => fresh.absent entry (List.mem_append_left _ member)
  sound := fun entry member => fresh.sound entry (List.mem_append_left _ member)

theorem fresh_apart (first second : List (ObjectId × Object)) (fresh : Fresh graph (first ++ second)) (id : ObjectId)
    (early : id ∈ first.map Prod.fst) : id ∉ second.map Prod.fst := by
  have once := fresh.once
  rw [List.map_append] at once
  exact fun late => (List.nodup_append.mp once).2.2 id early id late rfl

theorem fresh_right (first second : List (ObjectId × Object)) (fresh : Fresh graph (first ++ second))
    (stack : List Frame) (members : List Member) (after : Draft)
    (grown : Grown graph stack known members first after) :
    Fresh after.graph second where
  once := by
    have once := fresh.once
    rw [List.map_append] at once
    exact (List.nodup_append.mp once).2.1
  absent := by
    intro entry member
    have other : entry.1 ∉ first.map Prod.fst := fun inside =>
      fresh_apart first second fresh entry.1 inside (List.mem_map_of_mem member)
    rw [grown.kept entry.1 other, seen_with_none]
    exact fresh.absent entry (List.mem_append_right _ member)
  sound := fun entry member => fresh.sound entry (List.mem_append_right _ member)

theorem seen_with_nothing (stack : List Frame) (seen : ObjectId → Option Object) (id : ObjectId) :
    seenWith stack seen [] id = seen id := by
  cases stack with
  | nil => rfl
  | cons frame outer =>
      unfold seenWith
      by_cases same : id = frame.id
      · dsimp only
        rw [if_pos same, same]
        cases found : seen frame.id with
        | none => rfl
        | some object => cases object <;> simp [Object.mapSlots]
      · dsimp only
        rw [if_neg same]

theorem seen_with_append (frame : Frame) (outer : List Frame) (seen between : ObjectId → Option Object)
    (first second : List Member) (id : ObjectId)
    (step : ∀ other, other = id ∨ other = frame.id → between other = seenWith (frame :: outer) seen first other) :
    seenWith (frame.fill first.length :: outer) between second id =
      seenWith (frame :: outer) seen (first ++ second) id := by
  unfold seenWith
  change (if id = frame.id then (between frame.id).map _ else between id) = _
  dsimp only
  by_cases same : id = frame.id
  · rw [if_pos same, if_pos same, step frame.id (Or.inr rfl)]
    unfold seenWith
    dsimp only
    rw [if_pos rfl, Option.map_map]
    refine congrArg (Option.map · _) (funext fun object => ?_)
    rw [Function.comp_apply, map_slots_map]
    refine map_slots_congr object _ _ ?_
    simp
  · rw [if_neg same, if_neg same, step id (Or.inl rfl)]
    unfold seenWith
    dsimp only
    rw [if_neg same]

theorem grown_nothing (draft : Draft) (frame : Frame) (outer : List Frame) (reading : Reading draft known)
    (stack : draft.stack = closed (frame :: outer)) : Grown draft.graph (frame :: outer) known [] [] draft where
  reading := reading
  stack := stack
  entered := fun _ member => nomatch member
  kept := fun id _ => (seen_with_nothing _ _ id).symm

theorem grown_append (frame : Frame) (outer : List Frame) (between : Known) (first second : List Member)
    (one two : List (ObjectId × Object)) (middle after : Draft) (fresh : Fresh graph (one ++ two))
    (seen : view graph frame.id ≠ none) (before : Grown graph (frame :: outer) between first one middle)
    (behind : Grown middle.graph (frame.fill first.length :: outer) known second two after) :
    Grown graph (frame :: outer) known (first ++ second) (one ++ two) after := by
  have itself : frame.id ∉ (one ++ two).map Prod.fst := by
    intro inside
    obtain ⟨entry, member, same⟩ := List.mem_map.mp inside
    exact seen (same ▸ fresh.absent entry member)
  rw [List.map_append, List.mem_append, not_or] at itself
  refine ⟨behind.reading, ?_, fun entry member => ?_, fun id missing => ?_⟩
  · rw [behind.stack, List.length_append]
    simp only [fillTop, Frame.fill_fill]
  · rcases List.mem_append.mp member with early | late
    · have key : entry.1 ∈ one.map Prod.fst := List.mem_map_of_mem early
      have different : entry.1 ≠ frame.id := fun same => itself.1 (same ▸ key)
      rw [behind.kept entry.1 (fresh_apart one two fresh entry.1 key)]
      change (if entry.1 = frame.id then _ else _) = _
      rw [if_neg different]
      exact before.entered entry early
    · exact behind.entered entry late
  · rw [List.map_append, List.mem_append, not_or] at missing
    rw [behind.kept id missing.2]
    refine seen_with_append frame outer (view graph) (view middle.graph) first second id fun other which => ?_
    rcases which with same | same
    · exact before.kept other (same ▸ missing.1)
    · exact before.kept other (same ▸ itself.1)

theorem closed_full (frame : Frame) (outer : List Frame) (sized : frame.Sized) (full : frame.types = []) :
    closed (frame :: outer) = closed outer := by
  have none : frame.remaining = 0 := by
    rw [frame.remaining_types sized, full]
    rfl
  simp only [closed]
  rw [List.dropWhile_cons, none]
  rfl

theorem closed_open (frame : Frame) (outer : List Frame) (sized : frame.Sized) (type : SlotType)
    (first : frame.types.head? = some type) : closed (frame :: outer) = frame :: outer := by
  have more : ¬ frame.remaining = 0 := by
    rw [frame.remaining_types sized]
    intro none
    rw [List.length_eq_zero_iff.mp none] at first
    cases first
  simp only [closed]
  rw [List.dropWhile_cons, decide_eq_false more]
  rfl

theorem grown_single (draft : Draft) (id : ObjectId) (object : Object) (after : Draft)
    (begun : Begun draft known id object none after) :
    Grown draft.graph draft.stack known [.ref id] [(id, object)] after where
  reading := begun.reading
  stack := begun.stack
  entered := by
    intro entry member
    rw [List.mem_singleton.mp member]
    exact begun.entered
  kept := fun other missing => begun.kept other fun same => missing (List.mem_singleton.mpr same)

theorem grown_object (draft : Draft) (between : Known) (id : ObjectId) (bare : Object) (slots : Slots)
    (members : List Member) (objects : List (ObjectId × Object)) (middle after : Draft)
    (fresh : id ∉ objects.map Prod.fst) (begun : Begun draft between id bare (some slots) middle)
    (full : closed ((⟨id, slots, members.length, bare.slotCount⟩ : Frame) :: fillTop draft.stack 1) =
      closed (fillTop draft.stack 1))
    (grown : Grown middle.graph (⟨id, slots, 0, bare.slotCount⟩ :: fillTop draft.stack 1) known members objects
      after) :
    Grown draft.graph draft.stack known [.ref id] ((id, bare.mapSlots (· ++ members.toArray)) :: objects) after where
  reading := grown.reading
  stack := by
    rw [grown.stack]
    simp only [fillTop, Frame.fill, Nat.zero_add]
    exact full
  entered := by
    intro entry member
    rcases List.mem_cons.mp member with same | later
    · rw [same, grown.kept id fresh]
      change (if id = id then (view middle.graph id).map _ else _) = _
      rw [if_pos rfl, begun.entered]
      rfl
    · exact grown.entered entry later
  kept := by
    intro other missing
    rw [List.map_cons, List.mem_cons, not_or] at missing
    rw [grown.kept other missing.2]
    change (if other = id then _ else _) = _
    rw [if_neg missing.1]
    exact begun.kept other missing.1

theorem fresh_begun (draft : Draft) (between : Known) (id : ObjectId) (bare object : Object) (slots : Option Slots)
    (objects : List (ObjectId × Object)) (middle : Draft) (fresh : Fresh draft.graph ((id, object) :: objects))
    (begun : Begun draft between id bare slots middle) : Fresh middle.graph objects where
  once := (List.nodup_cons.mp fresh.once).2
  absent := by
    intro entry member
    have apart : entry.1 ≠ id := by
      intro same
      have key : entry.1 ∈ objects.map Prod.fst := List.mem_map_of_mem member
      rw [same] at key
      exact (List.nodup_cons.mp fresh.once).1 key
    rw [begun.kept entry.1 apart, seen_with_none]
    exact fresh.absent entry (List.mem_cons_of_mem _ member)
  sound := fun entry member => fresh.sound entry (List.mem_cons_of_mem _ member)

end Grown

def Piece.Room (piece : Piece) (frames : List Frame) : Prop :=
  match frames with
  | [] => piece.stands = true
  | frame :: _ => frame.Sized ∧ piece.Fits frame.types

theorem fits_head (piece : Piece) (types : List SlotType) (fits : piece.Fits types) :
    ∃ type, types.head? = some type := by
  cases piece with
  | plain value => exact ⟨_, fits⟩
  | nulls form => exact ⟨_, fits.1.choose_spec.1⟩
  | _ => exact ⟨_, fits.choose_spec.1⟩

section Parts

variable {draft : Draft} {known : Known}

theorem untyped_room (piece : Piece) (tagged : ∀ value, piece ≠ .plain value) (room : piece.Room draft.stack) :
    draft.primitive? = none := by
  simp only [Draft.primitive?]
  cases stack : draft.stack with
  | nil => rfl
  | cons frame outer =>
      rw [stack] at room
      obtain ⟨type, first, other⟩ : AwaitsRecord frame.types := by
        cases piece with
        | plain value => exact absurd rfl (tagged value)
        | nulls form => exact room.2.1
        | _ => exact room.2
      change frame.primitive? = none
      simp only [Frame.primitive?]
      rw [frame.next_types type first]
      cases type with
      | primitive kind => exact absurd rfl (other kind)
      | _ => rfl

theorem grown_filled (reading : Reading draft known) (frame : Frame) (outer : List Frame)
    (stack : draft.stack = frame :: outer) (members : List Member)
    (plain : ∀ member ∈ members, ∀ id, member ≠ .pending id) :
    Grown draft.graph draft.stack known members []
      ({ draft with stack := frame.fill members.length :: outer }.append frame.id members.toArray).closeFilled := by
  obtain ⟨filled, seen⟩ := reading_filled reading frame outer stack members plain
  refine ⟨reading_closed filled, ?_, (fun _ member => nomatch member), fun id _ => seen id⟩
  rw [stack]
  rfl

theorem grown_member (reading : Reading draft known) (frame : Frame) (outer : List Frame)
    (stack : draft.stack = frame :: outer) (member : Member) (plain : ∀ id, member ≠ .pending id) (start : Nat) :
    ∃ after, draft.store member start = .ok after ∧
      Grown draft.graph draft.stack known [member] [] after.closeFilled :=
  ⟨_, store_member frame outer stack member start plain,
    grown_filled reading frame outer stack [member] (plain_single member plain)⟩

theorem grown_reference (reading : Reading draft known) (frame : Frame) (outer : List Frame)
    (stack : draft.stack = frame :: outer) (id : ObjectId) (start : Nat) :
    ∃ after, draft.store (if draft.graph.contains id then .ref id else .pending id) start = .ok after ∧
      Grown draft.graph draft.stack known [.ref id] [] after.closeFilled := by
  cases found : draft.graph.get? id with
  | some object =>
      have contained : draft.graph.contains id = true := by
        rw [Table.contains, found]
        rfl
      rw [if_pos contained]
      have filled : ∀ target, Member.ref id ≠ .pending target := by
        intro target same
        cases same
      exact grown_member reading frame outer stack (.ref id) filled start
  | none =>
      have missing : ¬ draft.graph.contains id = true := by
        rw [Table.contains, found]
        decide
      rw [if_neg missing]
      obtain ⟨filled, seen⟩ := reading_awaited reading frame outer stack id found
      refine ⟨_, store_pending frame outer stack id start, reading_closed filled, ?_,
        fun _ member => absurd member List.not_mem_nil, fun other _ => seen other⟩
      rw [stack]
      rfl

theorem grown_nulls (reading : Reading draft known) (frame : Frame) (outer : List Frame)
    (stack : draft.stack = frame :: outer) (count : Nat) (enough : count ≤ frame.remaining) (start : Nat) :
    ∃ after, draft.storeNulls count start = .ok after ∧
      Grown draft.graph draft.stack known (List.replicate count .null) [] after.closeFilled := by
  have plain : ∀ member ∈ List.replicate count Member.null, ∀ id, member ≠ .pending id := by
    intro member inside id same
    rw [List.eq_of_mem_replicate inside] at same
    cases same
  have grown := grown_filled reading frame outer stack (List.replicate count .null) plain
  rw [List.length_replicate, List.toArray_replicate] at grown
  exact ⟨_, store_nulls frame outer stack count start enough, grown⟩

theorem room_open (piece : Piece) (stands : piece.stands = false) (room : piece.Room draft.stack) :
    ∃ frame outer, draft.stack = frame :: outer ∧ frame.Sized ∧ piece.Fits frame.types := by
  cases stack : draft.stack with
  | nil =>
      rw [stack] at room
      exact absurd (stands.symm.trans room) (by decide)
  | cons frame outer =>
      rw [stack] at room
      exact ⟨frame, outer, rfl, room.1, room.2⟩

theorem reads_library (reading : Reading draft known) (id : LibraryId) (name : String) (latin : Latin name)
    (untyped : draft.primitive? = none) :
    Reads draft (Write.recordTag .library ++ (Write.int32 id ++ Write.string name))
      (Grown draft.graph draft.stack ⟨known.libraries ++ [(id, name)], known.schemas⟩ [] []) := by
  refine reads_record .library _ untyped (by decide) fun start => ?_
  refine ⟨{ draft with libraries := draft.libraries.insert id name }, ?_, ?_⟩
  · refine takes_bind _ _ _ _ id _ (takes_int32 id) ?_
    exact takes_bind_pure _ (fun name => { draft with libraries := draft.libraries.insert id name }) _ _
      (takes_string name latin)
  · refine ⟨reading_closed (reading_library reading id name), ?_, (fun _ member => nomatch member), fun other _ => ?_⟩
    · change closed draft.stack = closed (fillTop draft.stack 0)
      cases draft.stack <;> rfl
    · exact (seen_with_nothing _ _ other).symm

theorem reads_tagged (reading : Reading draft known) (value : Primitive)
    (room : (Piece.tagged value).Room draft.stack) :
    Reads draft (Write.recordTag .primitive ++ (Write.primitiveKind value.kind ++ Write.primitive value))
      (Grown draft.graph draft.stack known [.primitive value] []) := by
  have untyped := untyped_room (.tagged value) (fun _ same => nomatch same) room
  obtain ⟨frame, outer, stack, _⟩ := room_open _ rfl room
  refine reads_record .primitive _ untyped (by decide) fun start => ?_
  obtain ⟨after, done, grown⟩ :=
    grown_member reading frame outer stack (.primitive value) (fun _ same => nomatch same) start
  refine ⟨after, ?_, grown⟩
  refine takes_bind _ _ _ _ value.kind _ (takes_primitive_kind _) ?_
  exact takes_last _ _ _ value after (takes_primitive value) (takes_lifted _ _ done)

theorem reads_untagged (reading : Reading draft known) (value : Primitive)
    (room : (Piece.plain value).Room draft.stack) :
    Reads draft (Write.primitive value) (Grown draft.graph draft.stack known [.primitive value] []) := by
  obtain ⟨frame, outer, stack, _, first⟩ := room_open _ rfl room
  have typed : draft.primitive? = some value.kind := by
    unfold Draft.primitive?
    rw [stack]
    change frame.primitive? = some value.kind
    unfold Frame.primitive?
    rw [frame.next_types _ first]
  exact reads_plain value typed fun start =>
    grown_member reading frame outer stack (.primitive value) (fun _ same => nomatch same) start

theorem reads_reference (reading : Reading draft known) (id : ObjectId)
    (room : (Piece.reference id).Room draft.stack) :
    Reads draft (Write.recordTag .reference ++ Write.int32 id)
      (Grown draft.graph draft.stack known [.ref id] []) := by
  have untyped := untyped_room (.reference id) (fun _ same => nomatch same) room
  obtain ⟨frame, outer, stack, _⟩ := room_open _ rfl room
  refine reads_record .reference _ untyped (by decide) fun start => ?_
  obtain ⟨after, done, grown⟩ := grown_reference reading frame outer stack id start
  refine ⟨after, ?_, grown⟩
  exact takes_last _ _ _ id after (takes_int32 id) (takes_lifted _ _ done)

theorem reads_nulls (reading : Reading draft known) (form : NullForm) (small : form.count < 2 ^ 31)
    (room : (Piece.nulls form).Room draft.stack) :
    Reads draft (Write.nulls form)
      (Grown draft.graph draft.stack known (List.replicate form.count .null) []) := by
  have untyped := untyped_room (.nulls form) (fun _ same => nomatch same) room
  obtain ⟨frame, outer, stack, sized, fits⟩ := room_open _ rfl room
  have enough : form.count ≤ frame.remaining := by
    rw [frame.remaining_types sized]
    exact fits.2
  cases form with
  | one =>
      have each : Reads draft (Write.recordTag .null ++ []) (Grown draft.graph draft.stack known [.null] []) :=
        reads_record .null [] untyped (by decide) fun start => by
          obtain ⟨after, done, grown⟩ := grown_nulls reading frame outer stack 1 enough start
          exact ⟨after, takes_lifted _ _ done, grown⟩
      rw [List.append_nil] at each
      exact each
  | short count =>
      refine reads_record .nullsShort _ untyped (by decide) fun start => ?_
      obtain ⟨after, done, grown⟩ := grown_nulls reading frame outer stack count.toNat enough start
      exact ⟨after, takes_last _ _ _ count after (takes_uint8 count) (takes_lifted _ _ done), grown⟩
  | long count =>
      refine reads_record .nulls _ untyped (by decide) fun start => ?_
      obtain ⟨after, done, grown⟩ := grown_nulls reading frame outer stack count enough start
      exact ⟨after, takes_last _ _ _ count after (takes_length count small) (takes_lifted _ _ done), grown⟩

end Parts

mutual

-- What a part brings in, by recursion on the part: the contents of an object are read with its own frame on top.
theorem reads_piece (piece : Piece) (draft : Draft) (known : Known) (reading : Reading draft known)
    (room : piece.Room draft.stack) (placed : piece.Placed known) (fresh : Fresh draft.graph piece.objects) :
    Reads draft (Write.piece piece)
      (Grown draft.graph draft.stack (known.after piece) piece.members piece.objects) := by
  cases piece with
  | library id name =>
      have untyped := untyped_room (.library id name) (fun _ same => nomatch same) room
      have read := reads_library reading id name placed untyped
      simp only [Known.after, Piece.libraries, Piece.schemas, List.append_nil]
      exact read
  | string id value =>
      have untyped := untyped_room (.string id value) (fun _ same => nomatch same) room
      have absent := fresh.absent (id, .string value) List.mem_cons_self
      have latin : Latin value := fresh.sound (id, .string value) List.mem_cons_self
      rw [known.after_quiet _ rfl rfl]
      exact reads_imp _ _ (reads_string reading id absent untyped value latin) fun after begun =>
        grown_single draft id _ after begun
  | object id info form body =>
      have untyped := untyped_room (.object id info form body) (fun _ same => nomatch same) room
      have absent := fresh.absent (id, _) List.mem_cons_self
      have sound : ClassSound info := fresh.sound (id, _) List.mem_cons_self
      have full := placed_length _ _ _ placed.2
      rw [known.after_object]
      refine reads_append _ _ _ (reads_object reading id absent untyped info form sound placed.1) fun middle begun => ?_
      have inner := reads_pieces body middle (known.declare id info form)
        ⟨id, .members info, 0, info.members.length⟩ (fillTop draft.stack 1) begun.reading begun.stack rfl placed.2
        (fresh_begun draft _ id _ _ _ _ middle fresh begun)
      refine reads_imp _ _ inner fun after grown => ?_
      have whole := grown_object draft _ id _ (.members info) _ _ middle after (List.nodup_cons.mp fresh.once).1 begun
        (closed_full _ _ rfl full) grown
      rw [Object.mapSlots, Array.empty_append] at whole
      exact whole
  | array id element length form body =>
      have untyped := untyped_room (.array id element length form body) (fun _ same => nomatch same) room
      have absent := fresh.absent (id, _) List.mem_cons_self
      have sound : length ≤ maxArrayLength ∧ SlotType.Latin element := fresh.sound (id, _) List.mem_cons_self
      have full := placed_length _ _ _ placed.2
      rw [known.after_array]
      refine reads_append _ _ _ (reads_array reading id absent untyped element length form placed.1 sound.1 sound.2)
        fun middle begun => ?_
      have inner := reads_pieces body middle known ⟨id, .elements element, 0, length⟩ (fillTop draft.stack 1)
        begun.reading begun.stack trivial placed.2 (fresh_begun draft _ id _ _ _ _ middle fresh begun)
      refine reads_imp _ _ inner fun after grown => ?_
      have filled : (⟨id, .elements element, (Piece.membersAll body).length, length⟩ : Frame).types = [] := by
        rw [List.drop_replicate] at full
        exact full
      have whole := grown_object draft _ id _ (.elements element) _ _ middle after (List.nodup_cons.mp fresh.once).1
        begun
        (closed_full _ _ trivial filled) grown
      rw [Object.mapSlots, Array.empty_append] at whole
      exact whole
  | plain value =>
      rw [known.after_quiet _ rfl rfl]
      exact reads_untagged reading value room
  | tagged value =>
      rw [known.after_quiet _ rfl rfl]
      exact reads_tagged reading value room
  | reference id =>
      rw [known.after_quiet _ rfl rfl]
      exact reads_reference reading id room
  | nulls form =>
      rw [known.after_quiet _ rfl rfl]
      exact reads_nulls reading form placed room

theorem reads_pieces (body : List Piece) (draft : Draft) (known : Known) (frame : Frame) (outer : List Frame)
    (reading : Reading draft known) (stack : draft.stack = closed (frame :: outer)) (sized : frame.Sized)
    (placed : Piece.PlacedAll known frame.types body) (fresh : Fresh draft.graph (Piece.objectsAll body)) :
    Reads draft (Write.pieces body)
      (Grown draft.graph (frame :: outer) (known.afterAll body) (Piece.membersAll body) (Piece.objectsAll body)) := by
  cases body with
  | nil =>
      rw [known.after_nil]
      exact reads_nothing (grown_nothing draft frame outer reading stack)
  | cons first rest =>
      obtain ⟨fits, inside, behind⟩ := placed
      obtain ⟨type, head⟩ : ∃ type, frame.types.head? = some type := fits_head first _ fits
      rw [closed_open frame outer sized type head] at stack
      have room : first.Room draft.stack := by
        rw [stack]
        exact ⟨sized, fits⟩
      have seen : view draft.graph frame.id ≠ none := by
        obtain ⟨object, found, _⟩ := reading.frames frame (by rw [stack]; exact List.mem_cons_self)
        rw [found]
        exact Option.some_ne_none object
      rw [known.after_cons]
      refine reads_append _ _ _ (reads_piece first draft known reading room inside (fresh_left _ _ fresh))
        fun middle before => ?_
      have later := fresh_right _ _ fresh _ _ middle before
      rw [stack] at before
      have inner := reads_pieces rest middle (known.after first) (frame.fill first.members.length) outer
        before.reading
        before.stack (frame.fill_sized _ sized) (by rw [frame.fill_types]; exact behind) later
      exact reads_imp _ _ inner fun after grown =>
        grown_append frame outer _ _ _ _ _ middle after fresh seen before grown

end

end Flowline.Record
