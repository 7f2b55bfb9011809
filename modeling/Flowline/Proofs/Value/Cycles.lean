import Flowline.Proofs.Number.Letters
import Flowline.Proofs.Value.Outline
import Mathlib.Data.List.Infix
import Mathlib.Logic.Relation

set_option autoImplicit false

namespace Flowline

open Relation (ReflTransGen TransGen)

def Heap.Holds (heap : Heap) (outer inner : Nat) : Prop := .array inner ∈ heap.itemsOf outer

def Heap.Circular (heap : Heap) (ref : Nat) : Prop := TransGen heap.Holds ref ref

def Value.Reaches (heap : Heap) (value : Value) (ref : Nat) : Prop :=
  ∃ first, value = .array first ∧ ReflTransGen heap.Holds first ref

structure Rendered (heap : Heap) (value : Value) (outline : Outline) : Prop where
  drawn : ∀ other, Draws heap [] value other ↔ other = outline
  listed : ∀ address ref parts, outline.at? address = some (.opened ref parts) →
    ∀ items, heap.Lists ref items ↔ items = parts.map Outline.value
  text : value.toText heap = outline.text
  depth : ∀ address part, outline.at? address = some part → address.length ≤ heap.size
  cut : ∀ address ref, outline.at? address = some (.cut ref) → value.Reaches heap ref ∧ heap.Circular ref
  circular : ∀ ref, value.Reaches heap ref → heap.Circular ref →
    ∃ address other, outline.at? address = some (.cut other)
  full : ∀ ref, ¬ heap.Circular ref →
    Value.toText heap (.array ref) = String.intercalate "," ((heap.itemsOf ref).map (Value.toText heap))
  marked : "[...]".toList <:+: (value.toText heap).toList →
    (∃ ref, value.Reaches heap ref ∧ heap.Circular ref) ∨
      ∃ text, (value = .text text ∨ ∃ ref, value.Reaches heap ref ∧ .text text ∈ heap.itemsOf ref) ∧
        "[...]".toList <:+: text.toList

section Reaching

variable {heap : Heap} {outer ref : Nat} {item : Value}

theorem reaches_self (heap : Heap) (ref : Nat) : Value.Reaches heap (.array ref) ref := ⟨ref, rfl, .refl⟩

theorem inside_item (member : item ∈ heap.itemsOf outer) (reaches : item.Reaches heap ref) :
    TransGen heap.Holds outer ref := by
  obtain ⟨first, rfl, rest⟩ := reaches
  exact TransGen.head' member rest

theorem reaches_item (member : item ∈ heap.itemsOf outer) (reaches : item.Reaches heap ref) :
    Value.Reaches heap (.array outer) ref := ⟨outer, rfl, (inside_item member reaches).to_reflTransGen⟩

end Reaching

section Cut

variable {heap : Heap} {path : List Nat} {value : Value} {outline part : Outline}

theorem part_reached (address : List Nat) (draws : Draws heap path value outline)
    (found : outline.at? address = some part) :
    part.value = value ∨ ∃ outer, value.Reaches heap outer ∧ part.value ∈ heap.itemsOf outer := by
  induction address generalizing path value outline with
  | nil =>
      cases found
      exact Or.inl draws.root
  | cons index rest ih =>
      obtain ⟨ref, child, rfl, _, member, drawn, inside, _⟩ := draws_child index rest draws found
      rcases ih drawn inside with same | ⟨outer, reaches, held⟩
      · exact Or.inr ⟨ref, reaches_self heap ref, same ▸ member⟩
      · exact Or.inr ⟨outer, reaches_item member reaches, held⟩

theorem array_reached (address : List Nat) (ref : Nat) (draws : Draws heap path value outline)
    (found : outline.at? address = some part) (array : part.value = .array ref) : value.Reaches heap ref := by
  rcases part_reached address draws found with same | ⟨outer, ⟨first, rfl, rest⟩, held⟩
  · rw [← same, array]
    exact reaches_self heap ref
  · rw [array] at held
    exact ⟨first, rfl, rest.tail held⟩

theorem around_holds (address : List Nat) (ref : Nat) (draws : Draws heap path value outline)
    (found : outline.at? address = some part) (array : part.value = .array ref) :
    ∀ outer ∈ outline.around address, TransGen heap.Holds outer ref := by
  induction address generalizing path value outline with
  | nil =>
      rw [outline.around_nil]
      exact List.forall_mem_nil _
  | cons index rest ih =>
      obtain ⟨first, child, rfl, _, member, drawn, inside, around⟩ := draws_child index rest draws found
      rw [around, List.forall_mem_cons]
      exact ⟨inside_item member (array_reached rest ref drawn inside array), ih drawn inside⟩

theorem cut_circular (address : List Nat) (ref : Nat) (draws : Draws heap [] value outline)
    (found : outline.at? address = some (.cut ref)) : value.Reaches heap ref ∧ heap.Circular ref := by
  refine ⟨array_reached address ref draws found rfl, ?_⟩
  rcases (draws.cut address (.cut ref) ref found rfl).mp rfl with on_path | inside
  · cases on_path
  · exact around_holds address ref draws found rfl ref inside

end Cut

section Full

variable (heap : Heap)

-- Only the arrays of the path that the value reaches have a bearing on its text.
theorem text_same_path (path other : List Nat) (value : Value)
    (agree : ∀ ref, value.Reaches heap ref → (ref ∈ path ↔ ref ∈ other)) :
    value.textIn heap path = value.textIn heap other := by
  induction path, value using Heap.outline.induct heap generalizing other with
  | case5 path ref open_already =>
      rw [Value.textIn, Value.textIn, dif_pos open_already, dif_pos ((agree ref (reaches_self heap ref)).mp open_already)]
  | case6 path ref closed ih =>
      have still_closed : ref ∉ other := fun open_already =>
        closed ((agree ref (reaches_self heap ref)).mpr open_already)
      rw [text_opened heap path ref closed, text_opened heap other ref still_closed]
      refine congrArg (String.intercalate ",") (List.map_congr_left fun item member => ?_)
      refine ih ⟨item, member⟩ (ref :: other) fun inner reaches => ?_
      rw [List.mem_cons, List.mem_cons, agree inner (reaches_item member reaches)]
  | _ => rw [Value.textIn, Value.textIn]

theorem text_full (ref : Nat) (straight : ¬ heap.Circular ref) :
    Value.toText heap (.array ref) = String.intercalate "," ((heap.itemsOf ref).map (Value.toText heap)) := by
  rw [Value.toText, text_opened heap [] ref nofun]
  refine congrArg (String.intercalate ",") (List.map_congr_left fun item member => ?_)
  refine text_same_path heap [ref] [] item fun inner reaches => ?_
  have apart : inner ≠ ref := by
    rintro rfl
    exact straight (inside_item member reaches)
  simp only [List.mem_singleton, apart, List.not_mem_nil]

end Full

section Whole

def Outline.Whole (outline : Outline) : Prop := ∀ address ref, outline.at? address ≠ some (.cut ref)

variable {heap : Heap} {value : Value} {outline : Outline} {parts : List Outline} {outer inner : Nat}

theorem whole_opened (address : List Nat) (part : Outline) (ref : Nat) (whole : outline.Whole)
    (found : outline.at? address = some part) (array : part.value = .array ref) :
    ∃ others, part = .opened ref others := by
  cases part with
  | shown value plain => exact absurd (congrArg Value.kind array) plain
  | cut other => exact absurd found (whole address other)
  | opened other others =>
      cases array
      exact ⟨others, rfl⟩

theorem whole_next (address : List Nat) (draws : Draws heap [] value outline) (whole : outline.Whole)
    (found : outline.at? address = some (.opened outer parts)) (holds : heap.Holds outer inner) :
    ∃ index others, outline.at? (address ++ [index]) = some (.opened inner others) := by
  rw [Heap.Holds, ← draws.items address outer parts found] at holds
  obtain ⟨part, member, array⟩ := List.mem_map.mp holds
  obtain ⟨index, here⟩ := List.mem_iff_getElem?.mp member
  have next : outline.at? (address ++ [index]) = some part := by
    rw [outline.at_append, found]
    exact (Outline.at_opened outer parts index [] part).mpr ⟨part, here, rfl⟩
  obtain ⟨others, rfl⟩ := whole_opened (address ++ [index]) part inner whole next array
  exact ⟨index, others, next⟩

theorem whole_later (address : List Nat) (draws : Draws heap [] value outline) (whole : outline.Whole)
    (found : outline.at? address = some (.opened outer parts)) (holds : TransGen heap.Holds outer inner) :
    ∃ way others, way ≠ [] ∧ outline.at? (address ++ way) = some (.opened inner others) := by
  induction holds with
  | single first =>
      obtain ⟨index, others, next⟩ := whole_next address draws whole found first
      exact ⟨[index], others, List.cons_ne_nil index [], next⟩
  | tail _ last ih =>
      obtain ⟨way, others, further, there⟩ := ih
      obtain ⟨index, more, next⟩ := whole_next (address ++ way) draws whole there last
      rw [List.append_assoc] at next
      exact ⟨way ++ [index], more, List.append_ne_nil_of_left_ne_nil further [index], next⟩

-- The way around a cycle cannot be drawn as a whole: the array at its end is open already.
theorem circular_cut (ref : Nat) (draws : Draws heap [] value outline) (reaches : value.Reaches heap ref)
    (circular : heap.Circular ref) : ∃ address other, outline.at? address = some (.cut other) := by
  by_contra none_cut
  have whole : outline.Whole := fun address other found => none_cut ⟨address, other, found⟩
  obtain ⟨first, rfl, path⟩ := reaches
  obtain ⟨parts, rfl⟩ := whole_opened [] outline first whole rfl draws.root
  obtain ⟨way, others, _, once⟩ := whole_later [] draws whole rfl (TransGen.trans_right path circular)
  obtain ⟨more, last, further, again⟩ := whole_later ([] ++ way) draws whole once circular
  have inside := Outline.around_later _ _ ([] ++ way) more ref others further once again
  have cut := (draws.cut _ _ ref again rfl).mpr (Or.inr inside)
  cases cut

end Whole

section Marks

variable (mark : List Char)

theorem comma_first (text front : List Char) (leading : front <+: ',' :: text) (solid : ',' ∉ front) : front = [] := by
  cases front with
  | nil => rfl
  | cons c front =>
      rw [List.cons_prefix_cons] at leading
      exact absurd (leading.1 ▸ List.mem_cons_self) solid

theorem infix_joined (texts : List (List Char)) (nonempty : mark ≠ []) (solid : ',' ∉ mark)
    (inside : mark <:+: [','].intercalate texts) : ∃ text ∈ texts, mark <:+: text := by
  induction texts with
  | nil => exact absurd (List.infix_nil.mp inside) nonempty
  | cons first rest ih =>
      cases rest with
      | nil =>
          rw [List.intercalate_singleton] at inside
          exact ⟨first, List.mem_singleton_self first, inside⟩
      | cons second others =>
          rw [List.intercalate_cons_cons, List.append_assoc] at inside
          rcases List.infix_append_iff.mp inside with left | right | ⟨front, back, rfl, ending, leading⟩
          · exact ⟨first, List.mem_cons_self, left⟩
          · rcases List.infix_cons_iff.mp right with leading | behind
            · exact absurd (comma_first _ mark leading solid) nonempty
            · obtain ⟨text, member, found⟩ := ih behind
              exact ⟨text, List.mem_cons_of_mem first member, found⟩
          · have clear := comma_first _ back leading fun comma => solid (List.mem_append_right front comma)
            rw [clear, List.append_nil]
            exact ⟨first, List.mem_cons_self, ending.isInfix⟩

theorem not_marked (text : String) (clear : '[' ∉ text.toList) : ¬ "[...]".toList <:+: text.toList :=
  fun inside => clear (inside.subset (by decide))

theorem number_not_marked (n : Number) : ¬ "[...]".toList <:+: n.text.toList := by
  refine not_marked n.text fun bracket => ?_
  have figure : Binary64.Figure '[' := Binary64.write_figures Number.plain n.bits '[' bracket
  revert figure
  simp [Binary64.Figure]

theorem text_marked (outline : Outline) (inside : "[...]".toList <:+: outline.text.toList) :
    ∃ address part, outline.at? address = some part ∧ ((∃ ref, part = .cut ref) ∨
      ∃ text plain, part = .shown (.text text) plain ∧ "[...]".toList <:+: text.toList) := by
  induction outline using Outline.text.induct with
  | case1 plain =>
      rw [Outline.text] at inside
      exact absurd inside (not_marked "undefined" (by decide))
  | case2 plain =>
      rw [Outline.text] at inside
      exact absurd inside (not_marked "true" (by decide))
  | case3 value plain otherwise =>
      rw [Outline.text, if_neg otherwise] at inside
      exact absurd inside (not_marked "false" (by decide))
  | case4 n plain =>
      rw [Outline.text] at inside
      exact absurd inside (number_not_marked n)
  | case5 text plain =>
      rw [Outline.text] at inside
      exact ⟨[], _, rfl, Or.inr ⟨text, plain, rfl, inside⟩⟩
  | case6 ref => exact ⟨[], _, rfl, Or.inl ⟨ref, rfl⟩⟩
  | case7 ref parts ih =>
      rw [Outline.text, String.toList_intercalate] at inside
      obtain ⟨text, member, marked⟩ := infix_joined "[...]".toList _ (by decide) (by decide) inside
      rw [List.map_map] at member
      obtain ⟨part, here, rfl⟩ := List.mem_map.mp member
      obtain ⟨index, at_index⟩ := List.mem_iff_getElem?.mp here
      obtain ⟨address, leaf, found, made⟩ := ih part here marked
      exact ⟨index :: address, leaf, (Outline.at_opened ref parts index address leaf).mpr ⟨part, at_index, found⟩, made⟩

theorem marked_cause (heap : Heap) (value : Value) (marked : "[...]".toList <:+: (value.toText heap).toList) :
    (∃ ref, value.Reaches heap ref ∧ heap.Circular ref) ∨
      ∃ text, (value = .text text ∨ ∃ ref, value.Reaches heap ref ∧ .text text ∈ heap.itemsOf ref) ∧
        "[...]".toList <:+: text.toList := by
  have draws := outline_draws heap [] value
  rw [Value.toText, text_outline] at marked
  obtain ⟨address, part, found, ⟨ref, rfl⟩ | ⟨text, plain, rfl, inside⟩⟩ := text_marked _ marked
  · exact Or.inl ⟨ref, cut_circular address ref draws found⟩
  · refine Or.inr ⟨text, ?_, inside⟩
    rcases part_reached address draws found with same | held
    · exact Or.inl same.symm
    · exact Or.inr held

end Marks

/-- The text of a value is that of its one outline, in which an array is cut exactly where it is open already on the
way there, and which is no deeper than there are arrays. The parts of an open array are all that can be read of it, a
grid row by row. What is cut lies inside of itself and can be reached, and something is cut if such an array can be
reached. An array that does not lie inside of itself has the texts of its items, with commas between them, wherever it
is. The mark of a cut in a text is due to an array that lies inside of itself or else part of a text among the
values. -/
theorem text_rendered (heap : Heap) (value : Value) : Rendered heap value (heap.outline [] value) where
  drawn := draws_iff heap [] value
  listed := by
    intro address ref parts found items
    rw [(outline_draws heap [] value).items address ref parts found]
    exact lists_iff heap ref items
  text := text_outline heap [] value
  depth := by
    intro address part found
    have deep := outline_depth heap address [] value _ part (outline_draws heap [] value) found
    have most : heap.unopened [] ≤ heap.size := List.countP_le_length.trans_eq List.length_range
    exact deep.trans most
  cut address ref found := cut_circular address ref (outline_draws heap [] value) found
  circular ref reaches circular := circular_cut ref (outline_draws heap [] value) reaches circular
  full := text_full heap
  marked := marked_cause heap value

example : Value.toText ⟨#[.list #[.array 1, .array 0, .array 1], .grid #[#[.text "a"], #[], #[.text "b"]]]⟩ (.array 0) =
    "a,b,[...],a,b" := by decide +kernel

end Flowline
