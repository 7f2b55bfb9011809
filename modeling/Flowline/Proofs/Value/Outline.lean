import Flowline.Proofs.Store.Positions
import Flowline.Value.Render
import Mathlib.Data.List.Sort

set_option autoImplicit false

namespace Flowline

def Heap.itemsOf (heap : Heap) (ref : Nat) : List Value := ((heap.storage? ref).map Storage.items).getD []

-- Values are what can be read of an array, in the order of its positions and so row by row in a grid.
def Heap.Lists (heap : Heap) (ref : Nat) (items : List Value) : Prop :=
  ∃ positions : List (List Nat), positions.Pairwise (· < ·) ∧
    (∀ indices, indices ∈ positions ↔ ∃ item, heap.read ref indices = .ok item) ∧
    positions.map (heap.read ref) = items.map Except.ok

theorem items_listed (heap : Heap) (ref : Nat) : heap.Lists ref (heap.itemsOf ref) := by
  unfold Heap.Lists Heap.read Heap.itemsOf
  cases heap.storage? ref with
  | none => exact ⟨[], .nil, fun indices => by simp, rfl⟩
  | some storage =>
      exact ⟨storage.positions, storage.positions_ascending, storage.mem_positions, storage.positions_read⟩

theorem lists_iff (heap : Heap) (ref : Nat) (items : List Value) : heap.Lists ref items ↔ items = heap.itemsOf ref := by
  constructor
  · rintro ⟨positions, ascending, found, read⟩
    obtain ⟨places, rising, known, held⟩ := items_listed heap ref
    have same : positions = places :=
      ascending.eq_of_mem_iff rising fun indices => (found indices).trans (known indices).symm
    rw [same, held] at read
    exact (List.map_injective_iff.mpr fun _ _ same => Except.ok.inj same) read.symm
  · rintro rfl
    exact items_listed heap ref

inductive Outline where
  | shown (value : Value) (plain : value.kind ≠ .array)
  | cut (ref : Nat)
  | opened (ref : Nat) (parts : List Outline)

namespace Outline

def value : Outline → Value
  | .shown value _ => value
  | .cut ref => .array ref
  | .opened ref _ => .array ref

-- The part at an address, which has the position of an item for each array on the way from the outside.
def at? : Outline → List Nat → Option Outline
  | part, [] => some part
  | .opened _ parts, index :: rest => parts[index]?.bind fun part => part.at? rest
  | _, _ :: _ => none

def around : Outline → List Nat → List Nat
  | .opened ref parts, index :: rest => ref :: (parts[index]?.map fun part => part.around rest).getD []
  | _, _ => []

def text : Outline → String
  | .shown .undefined _ => "undefined"
  | .shown (.bool value) _ => if value then "true" else "false"
  | .shown (.number value) _ => value.text
  | .shown (.text value) _ => value
  | .cut _ => "[...]"
  | .opened _ parts => String.intercalate "," (parts.map text)

end Outline

-- An outline is that of a value if every opened array has the parts that its items ask for, and if an array is cut
-- exactly where it is open already, be it on the path that leads to the value or on the way from the value.
structure Draws (heap : Heap) (path : List Nat) (value : Value) (outline : Outline) : Prop where
  root : outline.value = value
  items : ∀ address ref parts, outline.at? address = some (.opened ref parts) →
    parts.map Outline.value = heap.itemsOf ref
  cut : ∀ address part ref, outline.at? address = some part → part.value = .array ref →
    (part = .cut ref ↔ ref ∈ path ∨ ref ∈ outline.around address)

theorem Heap.unopened_item_lt (heap : Heap) (path : List Nat) (ref : Nat) (closed : ref ∉ path) (item : Value)
    (member : item ∈ heap.itemsOf ref) : heap.unopened (ref :: path) < heap.unopened path := by
  cases found : heap.storage? ref with
  | none =>
      rw [Heap.itemsOf, found] at member
      cases member
  | some storage => exact heap.unopened_cons_lt path ref storage closed found

def Heap.outline (heap : Heap) (path : List Nat) (value : Value) : Outline :=
  match value with
  | .undefined => .shown .undefined nofun
  | .bool value => .shown (.bool value) nofun
  | .number value => .shown (.number value) nofun
  | .text value => .shown (.text value) nofun
  | .array ref =>
      if _closed : ref ∈ path then .cut ref
      else .opened ref ((heap.itemsOf ref).attach.map fun item => heap.outline (ref :: path) item.1)
termination_by heap.unopened path
decreasing_by exact heap.unopened_item_lt path ref _closed item.1 item.2

section Outlines

variable (heap : Heap) (path : List Nat)

theorem outline_cut (ref : Nat) (open_already : ref ∈ path) : heap.outline path (.array ref) = .cut ref := by
  rw [Heap.outline, dif_pos open_already]

theorem outline_opened (ref : Nat) (closed : ref ∉ path) :
    heap.outline path (.array ref) = .opened ref ((heap.itemsOf ref).map (heap.outline (ref :: path))) := by
  rw [Heap.outline, dif_neg closed]
  exact congrArg (Outline.opened ref) List.attach_map_val

theorem outline_value (value : Value) : (heap.outline path value).value = value := by
  cases value with
  | array ref =>
      by_cases open_already : ref ∈ path
      · rw [outline_cut heap path ref open_already]
        rfl
      · rw [outline_opened heap path ref open_already]
        rfl
  | _ =>
      rw [Heap.outline]
      rfl

theorem text_opened (ref : Nat) (closed : ref ∉ path) : Value.textIn heap path (.array ref) =
    String.intercalate "," ((heap.itemsOf ref).map (Value.textIn heap (ref :: path))) := by
  rw [Value.textIn, dif_neg closed, Heap.itemsOf]
  cases heap.storage? ref with
  | none => rfl
  | some storage => rfl

theorem text_outline (value : Value) : value.textIn heap path = (heap.outline path value).text := by
  induction path, value using Heap.outline.induct heap with
  | case5 path ref open_already =>
      rw [outline_cut heap path ref open_already, Value.textIn, dif_pos open_already, Outline.text]
  | case6 path ref closed ih =>
      rw [outline_opened heap path ref closed, text_opened heap path ref closed, Outline.text, List.map_map]
      exact congrArg (String.intercalate ",") (List.map_congr_left fun item member => ih ⟨item, member⟩)
  | _ => rw [Heap.outline, Value.textIn, Outline.text]

end Outlines

namespace Outline

theorem at_opened (ref : Nat) (parts : List Outline) (index : Nat) (rest : List Nat) (part : Outline) :
    (Outline.opened ref parts).at? (index :: rest) = some part ↔
      ∃ child, parts[index]? = some child ∧ child.at? rest = some part := Option.bind_eq_some_iff

theorem around_nil (outline : Outline) : outline.around [] = [] := by
  cases outline <;> rfl

theorem around_opened (ref : Nat) (parts : List Outline) (index : Nat) (rest : List Nat) (child : Outline)
    (found : parts[index]? = some child) :
    (Outline.opened ref parts).around (index :: rest) = ref :: child.around rest := by
  simp only [around, found, Option.map_some, Option.getD_some]

theorem at_cons (outline part : Outline) (index : Nat) (rest : List Nat)
    (found : outline.at? (index :: rest) = some part) : ∃ ref parts child, outline = .opened ref parts ∧
      parts[index]? = some child ∧ child.at? rest = some part := by
  cases outline with
  | shown value plain => cases found
  | cut ref => cases found
  | opened ref parts =>
      obtain ⟨child, at_index, inside⟩ := (at_opened ref parts index rest part).mp found
      exact ⟨ref, parts, child, rfl, at_index, inside⟩

theorem at_append (outline : Outline) (way rest : List Nat) :
    outline.at? (way ++ rest) = (outline.at? way).bind fun part => part.at? rest := by
  induction way generalizing outline with
  | nil => rfl
  | cons index way ih =>
      cases outline with
      | opened ref parts =>
          simp only [List.cons_append, at?, Option.bind_assoc, ih]
      | _ => rfl

theorem around_later (outline part : Outline) (way rest : List Nat) (ref : Nat) (parts : List Outline) (further : rest ≠ [])
    (found : outline.at? way = some (.opened ref parts)) (later : outline.at? (way ++ rest) = some part) :
    ref ∈ outline.around (way ++ rest) := by
  induction way generalizing outline with
  | nil =>
      cases found
      cases rest with
      | nil => exact absurd rfl further
      | cons index rest => exact List.mem_cons_self
  | cons index way ih =>
      obtain ⟨first, all, child, rfl, here, inside⟩ := outline.at_cons part index (way ++ rest) later
      obtain ⟨same, here_too, there⟩ := (at_opened first all index way _).mp found
      cases here.symm.trans here_too
      rw [List.cons_append, around_opened first all index (way ++ rest) child here]
      exact List.mem_cons_of_mem first (ih child there inside)

end Outline

section Drawing

variable {heap : Heap} {path : List Nat} {outline : Outline}

theorem draws_plain (value : Value) (plain : value.kind ≠ .array) :
    Draws heap path value outline ↔ outline = .shown value plain := by
  constructor
  · intro draws
    have root := draws.root
    cases outline with
    | shown other _ =>
        cases root
        rfl
    | _ => exact absurd (congrArg Value.kind root).symm plain
  · rintro rfl
    refine ⟨rfl, ?_, ?_⟩
    · intro address ref parts found
      match address with
      | [] => cases found
      | _ :: _ => cases found
    · intro address part ref found same
      match address with
      | [] =>
          cases found
          exact absurd (congrArg Value.kind same) plain
      | _ :: _ => cases found

theorem draws_cut (ref : Nat) (open_already : ref ∈ path) :
    Draws heap path (.array ref) outline ↔ outline = .cut ref := by
  constructor
  · exact fun draws => (draws.cut [] outline ref rfl draws.root).mpr (Or.inl open_already)
  · rintro rfl
    refine ⟨rfl, ?_, ?_⟩
    · intro address other parts found
      match address with
      | [] => cases found
      | _ :: _ => cases found
    · intro address part other found same
      match address with
      | [] =>
          cases found
          cases same
          exact ⟨fun _ => Or.inl open_already, fun _ => rfl⟩
      | _ :: _ => cases found

theorem draws_part {value : Value} (ref : Nat) (parts : List Outline) (draws : Draws heap path value (.opened ref parts))
    (part : Outline) (member : part ∈ parts) : Draws heap (ref :: path) part.value part := by
  obtain ⟨index, here⟩ := List.mem_iff_getElem?.mp member
  refine ⟨rfl, ?_, ?_⟩
  · intro address inner others found
    exact draws.items (index :: address) inner others
      ((Outline.at_opened ref parts index address _).mpr ⟨part, here, found⟩)
  · intro address inside inner found same
    have cut := draws.cut (index :: address) inside inner
      ((Outline.at_opened ref parts index address _).mpr ⟨part, here, found⟩) same
    rw [Outline.around_opened ref parts index address part here] at cut
    rw [cut, List.mem_cons, List.mem_cons]
    tauto

theorem draws_parts (ref : Nat) (closed : ref ∉ path) (parts : List Outline)
    (items : parts.map Outline.value = heap.itemsOf ref)
    (drawn : ∀ part ∈ parts, Draws heap (ref :: path) part.value part) :
    Draws heap path (.array ref) (.opened ref parts) := by
  refine ⟨rfl, ?_, ?_⟩
  · intro address inner others found
    match address with
    | [] =>
        cases found
        exact items
    | index :: rest =>
        obtain ⟨child, here, inside⟩ := (Outline.at_opened ref parts index rest _).mp found
        exact (drawn child (List.mem_of_getElem? here)).items rest inner others inside
  · intro address part inner found same
    match address with
    | [] =>
        cases found
        cases same
        rw [Outline.around_nil]
        exact iff_of_false (by rintro ⟨⟩) (not_or.mpr ⟨closed, List.not_mem_nil⟩)
    | index :: rest =>
        obtain ⟨child, here, inside⟩ := (Outline.at_opened ref parts index rest _).mp found
        have cut := (drawn child (List.mem_of_getElem? here)).cut rest part inner inside same
        rw [Outline.around_opened ref parts index rest child here, cut, List.mem_cons, List.mem_cons]
        tauto

theorem draws_opened (ref : Nat) (closed : ref ∉ path) : Draws heap path (.array ref) outline ↔
    ∃ parts, outline = .opened ref parts ∧ parts.map Outline.value = heap.itemsOf ref ∧
      ∀ part ∈ parts, Draws heap (ref :: path) part.value part := by
  constructor
  · intro draws
    have root := draws.root
    cases outline with
    | shown value plain =>
        cases root
        exact absurd rfl plain
    | cut other =>
        cases root
        rcases (draws.cut [] _ ref rfl rfl).mp rfl with open_already | inside
        · exact absurd open_already closed
        · cases inside
    | opened other parts =>
        cases root
        exact ⟨parts, rfl, draws.items [] ref parts rfl, draws_part ref parts draws⟩
  · rintro ⟨parts, rfl, items, drawn⟩
    exact draws_parts ref closed parts items drawn

theorem draws_child {value : Value} {part : Outline} (index : Nat) (rest : List Nat)
    (draws : Draws heap path value outline) (found : outline.at? (index :: rest) = some part) :
    ∃ ref child, value = .array ref ∧ ref ∉ path ∧
      child.value ∈ heap.itemsOf ref ∧ Draws heap (ref :: path) child.value child ∧ child.at? rest = some part ∧
      outline.around (index :: rest) = ref :: child.around rest := by
  obtain ⟨ref, parts, child, rfl, here, inside⟩ := outline.at_cons part index rest found
  obtain rfl : value = .array ref := draws.root.symm
  have closed : ref ∉ path := fun open_already => nomatch (draws_cut ref open_already).mp draws
  obtain ⟨_, same, items, drawn⟩ := (draws_opened ref closed).mp draws
  cases same
  have member := List.mem_of_getElem? here
  exact ⟨ref, child, rfl, closed, items ▸ List.mem_map_of_mem member, drawn child member, inside,
    Outline.around_opened ref parts index rest child here⟩

end Drawing

theorem draws_iff (heap : Heap) (path : List Nat) (value : Value) (outline : Outline) :
    Draws heap path value outline ↔ outline = heap.outline path value := by
  induction path, value using Heap.outline.induct heap generalizing outline with
  | case5 path ref open_already => rw [draws_cut ref open_already, outline_cut heap path ref open_already]
  | case6 path ref closed ih =>
      rw [draws_opened ref closed, outline_opened heap path ref closed]
      constructor
      · rintro ⟨parts, rfl, items, drawn⟩
        have same : parts.map (fun part => heap.outline (ref :: path) part.value) = parts := by
          refine (List.map_congr_left fun part member => ?_).trans parts.map_id
          have item : part.value ∈ heap.itemsOf ref := items ▸ List.mem_map_of_mem member
          exact ((ih ⟨part.value, item⟩ part).mp (drawn part member)).symm
        rw [← items, List.map_map]
        exact congrArg (Outline.opened ref) same.symm
      · rintro rfl
        refine ⟨_, rfl, ?_, fun part member => ?_⟩
        · rw [List.map_map]
          exact (List.map_congr_left fun item _ => outline_value heap _ item).trans (List.map_id _)
        · obtain ⟨item, inside, rfl⟩ := List.mem_map.mp member
          rw [outline_value]
          exact (ih ⟨item, inside⟩ _).mpr rfl
  | _ =>
      rw [Heap.outline]
      exact draws_plain _ _

theorem outline_draws (heap : Heap) (path : List Nat) (value : Value) :
    Draws heap path value (heap.outline path value) := (draws_iff heap path value _).mpr rfl

-- The arrays around a part are different ones, so that the way to it cannot be longer than there are arrays.
theorem outline_depth (heap : Heap) (address path : List Nat) (value : Value) (outline part : Outline)
    (draws : Draws heap path value outline) (found : outline.at? address = some part) :
    address.length ≤ heap.unopened path := by
  induction address generalizing path value outline with
  | nil => exact Nat.zero_le _
  | cons index rest ih =>
      obtain ⟨ref, child, rfl, closed, item, drawn, inside, _⟩ := draws_child index rest draws found
      have below := heap.unopened_item_lt path ref closed child.value item
      have deep := ih (ref :: path) child.value child drawn inside
      rw [List.length_cons]
      omega

end Flowline
