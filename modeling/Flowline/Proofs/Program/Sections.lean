import Flowline.Proofs.Program.Taking
import Flowline.Proofs.Table.Ascending
import Mathlib.Data.List.Nodup

set_option autoImplicit false

namespace Flowline.Program

open Flowline.Graph (ClassKind Message Primitive)

def Subchart.header (subchart : Subchart) : Header := ⟨subchart.name, subchart.kind, subchart.extra⟩

inductive Heads (header : Header) : List Message → Prop where
  | short (named kind : Message) (rooted : named.root? = some (.string header.name))
      (classed : Holds .subchartKind "value__" (.int32 header.kind) kind) (bare : header.extra = none) :
      Heads header [named, kind]
  | long (named kind number : Message) (rooted : named.root? = some (.string header.name))
      (classed : Holds .subchartKind "value__" (.int32 header.kind) kind) (extra : Int32)
      (given : header.extra = some extra) (counted : Holds .systemInt32 "m_value" (.int32 extra) number) :
      Heads header [named, kind, number]

inductive Bears (subchart : Subchart) : List Message → Prop where
  | pair (chart : Message) (made : Flowchart.ofGraph chart.graph chart.rootId = .ok subchart.flowchart)
      (closed : ∃ self, subchart.trailer.root? = some (.array self)) : Bears subchart [chart, subchart.trailer]

section Headers

-- A number behind a header would be taken for a part of it.
def Closed (messages : List Message) : Prop := ∀ message ∈ messages.head?, ¬ OfClass .systemInt32 message

theorem closed_heads (header : Header) (piece rest : List Message) (heads : Heads header piece) :
    Closed (piece ++ rest) := by
  have named : ∀ message : Message, message.root? = some (.string header.name) → ¬ OfClass .systemInt32 message := by
    rintro message rooted ⟨self, record, _⟩
    rw [rooted] at record
    cases record
  cases heads with
  | short first kind rooted => exact fun message ahead => by cases ahead; exact named first rooted
  | long first kind number rooted => exact fun message ahead => by cases ahead; exact named first rooted

theorem take_header_heads (header : Header) (messages rest : List Message)
    (taken : takeHeader messages = .ok (header, rest)) : ∃ piece, messages = piece ++ rest ∧ Heads header piece := by
  obtain ⟨name, afterName, named, following⟩ := Take.bind_ok taken
  obtain ⟨kind, afterKind, classed, following⟩ := Take.bind_ok following
  obtain ⟨extra, afterExtra, counted, built⟩ := Take.bind_ok following
  cases Take.pure_ok built
  obtain ⟨first, given, rooted⟩ := (Take.name_ok_iff messages afterName name).mp named
  obtain ⟨second, more, held⟩ :=
    (Take.record_int_ok_iff .subchartKind "value__" afterName afterKind kind).mp classed
  subst given more
  rcases Take.int?_ok afterKind rest extra counted with ⟨bare, same⟩ | ⟨value, third, some, last, number⟩
  · subst same
    exact ⟨[first, second], rfl, .short first second rooted held bare⟩
  · subst last
    exact ⟨[first, second, third], rfl, .long first second third rooted held value some number⟩

theorem heads_take_header (header : Header) (piece rest : List Message) (heads : Heads header piece)
    (closed : Closed rest) : takeHeader (piece ++ rest) = .ok (header, rest) := by
  obtain ⟨name, kind, extra⟩ := header
  cases heads with
  | short first second rooted held bare =>
      cases bare
      refine Take.bind_of_ok ((Take.name_ok_iff _ _ name).mpr ⟨first, rfl, rooted⟩) ?_
      refine Take.bind_of_ok ((Take.record_int_ok_iff _ _ _ _ kind).mpr ⟨second, rfl, held⟩) ?_
      exact Take.bind_of_ok (Take.int?_of_other rest closed) rfl
  | long first second third rooted held value given number =>
      cases given
      have counted : Take.int? (third :: rest) = .ok (some value, rest) := by
        rw [Take.int?_of_class third rest (holds_class _ _ _ third number)]
        exact Take.bind_of_ok ((Take.int_ok_iff _ rest value).mpr ⟨third, rfl, number⟩) rfl
      refine Take.bind_of_ok ((Take.name_ok_iff _ _ name).mpr ⟨first, rfl, rooted⟩) ?_
      refine Take.bind_of_ok ((Take.record_int_ok_iff _ _ _ _ kind).mpr ⟨second, rfl, held⟩) ?_
      exact Take.bind_of_ok counted rfl

theorem take_headers_heads (count : Nat) (headers : List Header) (messages rest : List Message)
    (taken : takeHeaders count messages = .ok (headers, rest)) :
    ∃ pieces, messages = pieces.flatten ++ rest ∧ List.Forall₂ Heads headers pieces := by
  induction count generalizing headers messages with
  | zero =>
      cases Take.pure_ok taken
      exact ⟨[], rfl, .nil⟩
  | succ count ih =>
      obtain ⟨header, middle, one, following⟩ := Take.bind_ok taken
      obtain ⟨others, last, more, built⟩ := Take.bind_ok following
      cases Take.pure_ok built
      obtain ⟨piece, given, heads⟩ := take_header_heads header messages middle one
      obtain ⟨pieces, left, all⟩ := ih others middle more
      refine ⟨piece :: pieces, ?_, .cons heads all⟩
      rw [given, left, List.flatten_cons, List.append_assoc]

theorem heads_take_headers (headers : List Header) (pieces : List (List Message)) (rest : List Message)
    (heads : List.Forall₂ Heads headers pieces) (closed : Closed rest) :
    takeHeaders headers.length (pieces.flatten ++ rest) = .ok (headers, rest) := by
  induction heads with
  | nil => rfl
  | cons one all ih =>
      rename_i header piece headers pieces
      have next : Closed (pieces.flatten ++ rest) := by
        cases all with
        | nil => exact closed
        | cons following _ =>
            rw [List.flatten_cons, List.append_assoc]
            exact closed_heads _ _ _ following
      rw [List.flatten_cons, List.append_assoc]
      refine Take.bind_of_ok (heads_take_header header piece _ one next) ?_
      exact Take.bind_of_ok ih rfl

end Headers

section Names

def Subchart.key (subchart : Subchart) : String := Text.foldName subchart.name

def Lists (registry : Registry) (keys : List String) : Prop :=
  ∀ key place, registry.subcharts.get? key = some place ↔ keys[place]? = some key

theorem lists_standard : Lists .standard [] := fun _ _ => ⟨nofun, nofun⟩

theorem lists_distinct (registry : Registry) (keys : List String) (lists : Lists registry keys) : keys.Nodup := by
  rw [List.nodup_iff_injective_get]
  intro left right same
  have first := (lists (keys.get left) left).mpr (List.getElem?_eq_getElem left.isLt)
  have second := (lists (keys.get right) right).mpr (List.getElem?_eq_getElem right.isLt)
  rw [same, second] at first
  exact Fin.ext (Option.some.inj first).symm

theorem lists_contains (registry : Registry) (keys : List String) (lists : Lists registry keys) (key : String) :
    registry.subcharts.contains key = true ↔ key ∈ keys := by
  rw [Table.contains, Option.isSome_iff_exists, List.mem_iff_getElem?]
  exact exists_congr fun place => lists key place

theorem concat_place (keys : List String) (key asked : String) (place : Nat) :
    (keys ++ [key])[place]? = some asked ↔ keys[place]? = some asked ∨ (keys.length = place ∧ key = asked) := by
  rcases Nat.lt_trichotomy place keys.length with before | at_end | beyond
  · rw [List.getElem?_append_left before]
    exact ⟨Or.inl, fun known => known.resolve_right fun ends => absurd ends.1 (by omega)⟩
  · subst at_end
    simp
  · have ended : keys[place]? = none := List.getElem?_eq_none (by omega)
    rw [List.getElem?_eq_none (by simp; omega), ended]
    refine ⟨fun none => (by cases none), ?_⟩
    rintro (none | ⟨here, -⟩)
    · cases none
    · exact absurd here (by omega)

theorem lists_insert (registry : Registry) (keys : List String) (lists : Lists registry keys) (key : String)
    (fresh : key ∉ keys) :
    Lists { registry with subcharts := registry.subcharts.insert key keys.length } (keys ++ [key]) := by
  intro asked place
  rw [concat_place]
  by_cases same : asked = key
  · subst same
    have absent : keys[place]? ≠ some asked := fun known => fresh (List.mem_of_getElem? known)
    rw [Table.get?_insert_self, Option.some.injEq]
    exact ⟨fun ends => Or.inr ⟨ends, rfl⟩, fun known => (known.resolve_left absent).1⟩
  · rw [Table.get?_insert_of_ne _ _ _ _ same, lists asked place]
    exact ⟨Or.inl, fun known => known.resolve_right fun ends => same ends.2.symm⟩

theorem define_ok (registry known : Registry) (keys : List String) (name : String) (messages rest : List Message)
    (lists : Lists registry keys)
    (defined : defineSubchart registry name keys.length messages = .ok (known, rest)) :
    messages = rest ∧ Lists known (keys ++ [Text.foldName name]) := by
  unfold defineSubchart Registry.defineSubchart? at defined
  by_cases taken : registry.subcharts.contains (Text.foldName name) = true
  · rw [if_pos taken] at defined
    cases defined
  · rw [if_neg taken] at defined
    cases Take.pure_ok defined
    have fresh := mt (lists_contains registry keys lists (Text.foldName name)).mpr taken
    exact ⟨rfl, lists_insert registry keys lists (Text.foldName name) fresh⟩

theorem define_fresh (registry : Registry) (keys : List String) (name : String) (messages : List Message)
    (lists : Lists registry keys) (fresh : Text.foldName name ∉ keys) :
    ∃ known, defineSubchart registry name keys.length messages = .ok (known, messages) := by
  have free := mt (lists_contains registry keys lists (Text.foldName name)).mp fresh
  unfold defineSubchart Registry.defineSubchart?
  rw [if_neg free]
  exact ⟨_, rfl⟩

end Names

section Bodies

theorem take_subcharts_bear (registry : Registry) (keys : List String) (headers : List Header)
    (messages rest : List Message) (subcharts : List Subchart) (known : Registry) (lists : Lists registry keys)
    (taken : takeSubcharts registry keys.length headers messages = .ok ((subcharts, known), rest)) :
    subcharts.map Subchart.header = headers ∧ Lists known (keys ++ subcharts.map Subchart.key) ∧
      ∃ pieces, messages = pieces.flatten ++ rest ∧ List.Forall₂ Bears subcharts pieces := by
  induction headers generalizing registry keys messages subcharts with
  | nil =>
      cases Take.pure_ok taken
      exact ⟨rfl, by simpa using lists, [], rfl, .nil⟩
  | cons header headers ih =>
      obtain ⟨chart, afterChart, charted, following⟩ := Take.bind_ok taken
      obtain ⟨trailer, afterTrailer, closed, following⟩ := Take.bind_ok following
      obtain ⟨defined, afterName, named, following⟩ := Take.bind_ok following
      obtain ⟨⟨others, final⟩, last, more, built⟩ := Take.bind_ok following
      cases Take.pure_ok built
      obtain ⟨first, given, made⟩ := (Take.flowchart_ok_iff messages afterChart chart).mp charted
      obtain ⟨behind, array⟩ := (Take.trailer_ok_iff afterChart afterTrailer trailer).mp closed
      obtain ⟨same, listed⟩ := define_ok registry defined keys header.name afterTrailer afterName lists named
      subst given behind same
      have longer : (keys ++ [Text.foldName header.name]).length = keys.length + 1 := by simp
      rw [← longer] at more
      obtain ⟨heads, all, pieces, left, bear⟩ := ih defined _ afterTrailer others listed more
      refine ⟨?_, ?_, [first, trailer] :: pieces, ?_, .cons (.pair first made array) bear⟩
      · rw [List.map_cons, heads]
        rfl
      · rw [List.map_cons, List.append_cons]
        exact all
      · rw [left]
        rfl

theorem bear_take_subcharts (registry : Registry) (keys : List String) (subcharts : List Subchart)
    (pieces : List (List Message)) (rest : List Message) (lists : Lists registry keys)
    (distinct : (keys ++ subcharts.map Subchart.key).Nodup) (bear : List.Forall₂ Bears subcharts pieces) :
    ∃ known, takeSubcharts registry keys.length (subcharts.map Subchart.header) (pieces.flatten ++ rest) =
      .ok ((subcharts, known), rest) := by
  induction bear generalizing registry keys with
  | nil => exact ⟨registry, rfl⟩
  | cons one all ih =>
      rename_i subchart piece subcharts pieces
      rw [List.map_cons, List.append_cons] at distinct
      have fresh : subchart.key ∉ keys := by
        have apart := List.nodup_append.mp (List.nodup_append.mp distinct).1
        exact fun known => apart.2.2 _ known _ List.mem_cons_self rfl
      cases one with
      | pair chart made closed =>
          obtain ⟨defined, named⟩ := define_fresh registry keys subchart.name (pieces.flatten ++ rest) lists fresh
          have listed := (define_ok registry defined keys subchart.name _ _ lists named).2
          obtain ⟨known, taken⟩ := ih defined (keys ++ [subchart.key]) listed distinct
          have longer : (keys ++ [subchart.key]).length = keys.length + 1 := by simp
          rw [longer] at taken
          refine ⟨known, Take.bind_of_ok ((Take.flowchart_ok_iff _ _ _).mpr ⟨chart, rfl, made⟩) ?_⟩
          refine Take.bind_of_ok ((Take.trailer_ok_iff _ _ _).mpr ⟨rfl, closed⟩) ?_
          exact Take.bind_of_ok named (Take.bind_of_ok taken rfl)

end Bodies

end Flowline.Program
