import Flowline.Proofs.Store.Positions

set_option autoImplicit false

namespace Flowline.Storage

-- The length of a list on the way to an item. No index is on the way to the items of a list or to the rows of a
-- grid, and one is on the way to the items of a row.
def lengthAt : Storage → List Nat → Option Nat
  | .list items, [] => some items.size
  | .grid rows, [] => some rows.size
  | .grid rows, [row] => rows[row]?.map Array.size
  | _, _ => none

-- There are as many indices as dimensions, and each is inside of its list.
structure Inside (storage : Storage) (indices : List Nat) : Prop where
  count : indices.length = storage.rank
  below : ∀ way place, way ++ [place] <+: indices → ∃ length, storage.lengthAt way = some length ∧ place < length

structure Grows (before after : Storage) (indices : List Nat) (value : Value) : Prop where
  count : indices.length = before.rank
  rank : after.rank = before.rank
  written : after.read indices = .ok value
  kept : ∀ other item, other ≠ indices → before.read other = .ok item → after.read other = .ok item
  filled : ∀ other item, other ≠ indices → (∀ old, before.read other ≠ .ok old) → after.read other = .ok item →
    item = .undefined ∧ ∃ way place last, other = way ++ [place] ∧ indices = way ++ [last] ∧ place < last
  lengths : ∀ way place, way ++ [place] <+: indices →
    after.lengthAt way = some (max ((before.lengthAt way).getD 0) (place + 1))
  others : ∀ way length, (∀ place, ¬ way ++ [place] <+: indices) → before.lengthAt way = some length →
    after.lengthAt way = some length
  gaps : ∀ way length, (∀ place, ¬ way ++ [place] <+: indices) → before.lengthAt way = none →
    after.lengthAt way = some length →
    length = 0 ∧ ∀ index, after.read (way ++ [index]) = .error (.indexOutOfBounds index 0)
  bounded : ∀ way length, after.lengthAt way = some length →
    length ≤ max ((before.lengthAt way).getD 0) maxLength

section Lists

variable {α : Type} (fill : α) (items : Array α) (index : Nat)

def placed (item : α) : Array α :=
  (items ++ Array.replicate (index + 1 - items.size) fill).setIfInBounds index item

theorem reaching_ok (longer : Array α) : reaching fill items index = .ok longer ↔
    index < max items.size maxLength ∧ longer = items ++ Array.replicate (index + 1 - items.size) fill := by
  unfold reaching
  by_cases inside : index < items.size
  · have none_added : index + 1 - items.size = 0 := Nat.sub_eq_zero_of_le inside
    have bound : index < max items.size maxLength := Nat.lt_of_lt_of_le inside (Nat.le_max_left _ _)
    simp only [if_pos inside, none_added, Array.replicate_zero, Array.append_empty, Except.ok.injEq, bound, true_and]
    exact eq_comm
  · by_cases below : index < maxLength
    · have bound : index < max items.size maxLength := Nat.lt_of_lt_of_le below (Nat.le_max_right _ _)
      simp only [if_neg inside, if_pos below, Except.ok.injEq, bound, true_and]
      exact eq_comm
    · have bound : ¬ index < max items.size maxLength := by omega
      simp only [if_neg inside, if_neg below, bound, false_and, reduceCtorEq]

theorem reaching_error (fault : Fault) : reaching fill items index = .error fault ↔
    max items.size maxLength ≤ index ∧ fault = .arrayTooLarge index maxLength := by
  unfold reaching
  by_cases inside : index < items.size
  · have near : ¬ max items.size maxLength ≤ index := by omega
    simp only [if_pos inside, near, false_and, reduceCtorEq]
  · by_cases below : index < maxLength
    · have near : ¬ max items.size maxLength ≤ index := by omega
      simp only [if_neg inside, if_pos below, near, false_and, reduceCtorEq]
    · have far : max items.size maxLength ≤ index := by omega
      simp only [if_neg inside, if_neg below, Except.error.injEq, far, true_and]
      exact eq_comm

theorem placed_size (item : α) : (placed fill items index item).size = max items.size (index + 1) := by
  simp only [placed, Array.size_setIfInBounds, Array.size_append, Array.size_replicate]
  omega

theorem placed_get (item : α) (other : Nat) : (placed fill items index item)[other]? =
    if other = index then some item else if other < items.size then items[other]?
    else if other < index then some fill else none := by
  have size : (items ++ Array.replicate (index + 1 - items.size) fill).size = max items.size (index + 1) := by
    simp only [Array.size_append, Array.size_replicate]
    omega
  by_cases here : other = index
  · subst here
    rw [if_pos rfl, placed]
    refine Array.getElem?_setIfInBounds_self_of_lt ?_
    omega
  · rw [if_neg here, placed, Array.getElem?_setIfInBounds_ne fun same => here same.symm, Array.getElem?_append]
    by_cases inside : other < items.size
    · rw [if_pos inside, if_pos inside]
    · rw [if_neg inside, if_neg inside, Array.getElem?_replicate]
      by_cases before : other < index
      · rw [if_pos before, if_pos (by omega)]
      · rw [if_neg before, if_neg (by omega)]

theorem placed_self (item : α) : (placed fill items index item)[index]? = some item := by
  rw [placed_get, if_pos rfl]

theorem placed_kept (item old : α) (other : Nat) (apart : other ≠ index) (found : items[other]? = some old) :
    (placed fill items index item)[other]? = some old := by
  have inside : other < items.size := (Array.getElem?_eq_some_iff.mp found).1
  rw [placed_get, if_neg apart, if_pos inside, found]

theorem placed_new (item new : α) (other : Nat) (apart : other ≠ index) (missing : items[other]? = none)
    (found : (placed fill items index item)[other]? = some new) : new = fill ∧ other < index := by
  have outside : ¬ other < items.size := Nat.not_lt.mpr (Array.getElem?_eq_none_iff.mp missing)
  rw [placed_get, if_neg apart, if_neg outside] at found
  by_cases before : other < index
  · rw [if_pos before] at found
    exact ⟨(Option.some.inj found).symm, before⟩
  · rw [if_neg before] at found
    cases found

end Lists

theorem way_single (way : List Nat) (place index : Nat) : way ++ [place] <+: [index] ↔ way = [] ∧ place = index := by
  cases way with
  | nil => simp
  | cons first rest => simp

theorem way_double (way : List Nat) (place row index : Nat) :
    way ++ [place] <+: [row, index] ↔ way = [] ∧ place = row ∨ way = [row] ∧ place = index := by
  rcases way with _ | ⟨first, _ | ⟨second, rest⟩⟩ <;> simp

theorem row_reached (rows : Array (Array Value)) (row : Nat) :
    (rows ++ Array.replicate (row + 1 - rows.size) #[]).getD row #[] = rows.getD row #[] := by
  simp only [Array.getD_eq_getD_getElem?, Array.getElem?_append, Array.getElem?_replicate]
  by_cases inside : row < rows.size
  · rw [if_pos inside]
  · rw [if_neg inside, Array.getElem?_eq_none (Nat.not_lt.mp inside)]
    split <;> rfl

theorem write_list (items : Array Value) (index : Nat) (value : Value) (after : Storage) :
    (Storage.list items).write [index] value = (.ok (), after) ↔
      index < max items.size maxLength ∧ after = .list (placed .undefined items index value) := by
  simp only [write]
  cases reached : reaching .undefined items index with
  | error fault =>
      have far := Nat.not_lt.mpr ((reaching_error Value.undefined items index fault).mp reached).1
      simp only [Prod.mk.injEq, reduceCtorEq, false_and, far]
  | ok longer =>
      obtain ⟨near, same⟩ := (reaching_ok Value.undefined items index longer).mp reached
      simp only [Prod.mk.injEq, true_and, near, placed, same]
      exact eq_comm

def filledRows (value : Value) (rows : Array (Array Value)) (row index : Nat) : Array (Array Value) :=
  placed #[] rows row (placed .undefined (rows.getD row #[]) index value)

theorem write_grid (rows : Array (Array Value)) (row index : Nat) (value : Value) (after : Storage) :
    (Storage.grid rows).write [row, index] value = (.ok (), after) ↔
      row < max rows.size maxLength ∧ index < max (rows.getD row #[]).size maxLength ∧
        after = .grid (filledRows value rows row index) := by
  simp only [write]
  cases reached : reaching #[] rows row with
  | error fault =>
      have far := Nat.not_lt.mpr ((reaching_error #[] rows row fault).mp reached).1
      simp only [Prod.mk.injEq, reduceCtorEq, false_and, far]
  | ok longer =>
      obtain ⟨near, rfl⟩ := (reaching_ok #[] rows row longer).mp reached
      simp only [row_reached, near, true_and]
      cases within : reaching .undefined (rows.getD row #[]) index with
      | error fault =>
          have far := Nat.not_lt.mpr ((reaching_error Value.undefined (rows.getD row #[]) index fault).mp within).1
          simp only [Prod.mk.injEq, reduceCtorEq, false_and, far]
      | ok items =>
          obtain ⟨inside, rfl⟩ := (reaching_ok Value.undefined (rows.getD row #[]) index items).mp within
          simp only [Prod.mk.injEq, true_and, inside, filledRows, placed]
          exact eq_comm

theorem write_cases (before after : Storage) (indices : List Nat) (value : Value)
    (written : before.write indices value = (.ok (), after)) :
    (∃ items index, before = .list items ∧ indices = [index] ∧ index < max items.size maxLength ∧
      after = .list (placed .undefined items index value)) ∨
    (∃ rows row index, before = .grid rows ∧ indices = [row, index] ∧ row < max rows.size maxLength ∧
      index < max (rows.getD row #[]).size maxLength ∧
      after = .grid (filledRows value rows row index)) := by
  cases before with
  | list items =>
      match indices with
      | [] => cases written
      | [index] => exact Or.inl ⟨items, index, rfl, rfl, (write_list items index value after).mp written⟩
      | _ :: _ :: _ => cases written
  | grid rows =>
      match indices with
      | [] => cases written
      | [_] => cases written
      | [row, index] => exact Or.inr ⟨rows, row, index, rfl, rfl, (write_grid rows row index value after).mp written⟩
      | _ :: _ :: _ :: _ => cases written

theorem unread (storage : Storage) (indices : List Nat) (none_read : ∀ old, storage.read indices ≠ .ok old) :
    storage.get? indices = none :=
  Option.eq_none_iff_forall_ne_some.mpr fun old held => none_read old ((read_ok storage indices old).mpr held)

section Grows

variable (value : Value)

theorem list_kept (items : Array Value) (index : Nat) (other : List Nat) (item : Value) (apart : other ≠ [index])
    (found : (Storage.list items).get? other = some item) :
    (Storage.list (placed .undefined items index value)).get? other = some item := by
  obtain ⟨place, rfl⟩ := list_place found
  have different : place ≠ index := fun same => apart (by rw [same])
  exact placed_kept Value.undefined items index value item place different found

theorem list_new (items : Array Value) (index : Nat) (other : List Nat) (item : Value) (apart : other ≠ [index])
    (missing : (Storage.list items).get? other = none)
    (found : (Storage.list (placed .undefined items index value)).get? other = some item) :
    item = .undefined ∧ ∃ way place last, other = way ++ [place] ∧ [index] = way ++ [last] ∧ place < last := by
  obtain ⟨place, rfl⟩ := list_place found
  have different : place ≠ index := fun same => apart (by rw [same])
  obtain ⟨same, before⟩ := placed_new Value.undefined items index value item place different missing found
  exact ⟨same, [], place, index, rfl, rfl, before⟩

theorem list_grows (items : Array Value) (index : Nat) (near : index < max items.size maxLength) :
    Grows (.list items) (.list (placed .undefined items index value)) [index] value where
  count := rfl
  rank := rfl
  written := by
    rw [read_ok, get_list]
    exact placed_self Value.undefined items index value
  kept := by
    intro other item apart found
    rw [read_ok] at found ⊢
    exact list_kept value items index other item apart found
  filled := by
    intro other item apart none_read found
    rw [read_ok] at found
    exact list_new value items index other item apart (unread _ other none_read) found
  lengths := by
    intro way place on
    obtain ⟨rfl, rfl⟩ := (way_single way place index).mp on
    exact congrArg some (placed_size Value.undefined items place value)
  others := by
    intro way length off known
    match way with
    | [] => exact absurd ((way_single [] index index).mpr ⟨rfl, rfl⟩) (off index)
    | _ :: _ => cases known
  gaps := by
    intro way length off unknown made
    match way with
    | [] => cases unknown
    | _ :: _ => cases made
  bounded := by
    intro way length made
    match way with
    | [] =>
        have size := placed_size Value.undefined items index value
        have same : (placed .undefined items index value).size = length := Option.some.inj made
        change length ≤ max items.size maxLength
        omega
    | _ :: _ => cases made

section Rows

variable (rows : Array (Array Value)) (row index : Nat)

theorem length_row_old : (rows.getD row #[]).size = ((Storage.grid rows).lengthAt [row]).getD 0 := by
  simp only [lengthAt, Array.getD_eq_getD_getElem?]
  cases rows[row]? with
  | none => rfl
  | some items => rfl

theorem row_filled : (filledRows value rows row index)[row]? = some (placed .undefined (rows.getD row #[]) index value) :=
  placed_self #[] rows row _

theorem row_other (other : Nat) (apart : other ≠ row) : (filledRows value rows row index)[other]? = rows[other]? ∨
    rows[other]? = none ∧ (filledRows value rows row index)[other]? = some #[] := by
  cases known : rows[other]? with
  | some items => exact .inl (placed_kept #[] rows row _ items other apart known)
  | none =>
      cases made : (filledRows value rows row index)[other]? with
      | none => exact .inl rfl
      | some items =>
          obtain ⟨rfl, _⟩ := placed_new #[] rows row _ items other apart known made
          exact .inr ⟨rfl, rfl⟩

theorem get_written_row (place : Nat) : (Storage.grid (filledRows value rows row index)).get? [row, place] =
    (placed .undefined (rows.getD row #[]) index value)[place]? := by
  rw [get_grid, row_filled]
  rfl

theorem get_other_row (line place : Nat) (apart : line ≠ row) :
    (Storage.grid (filledRows value rows row index)).get? [line, place] = (Storage.grid rows).get? [line, place] := by
  rw [get_grid, get_grid]
  rcases row_other value rows row index line apart with same | ⟨missing, empty⟩
  · rw [same]
  · rw [missing, empty]
    rfl

theorem length_written_row : (Storage.grid (filledRows value rows row index)).lengthAt [row] =
    some (max (((Storage.grid rows).lengthAt [row]).getD 0) (index + 1)) := by
  rw [← length_row_old, ← placed_size Value.undefined (rows.getD row #[]) index value]
  simp only [lengthAt, row_filled, Option.map_some]

theorem length_other_row (line : Nat) (apart : line ≠ row) :
    (Storage.grid (filledRows value rows row index)).lengthAt [line] = (Storage.grid rows).lengthAt [line] ∨
      (Storage.grid rows).lengthAt [line] = none ∧
        (Storage.grid (filledRows value rows row index)).lengthAt [line] = some 0 := by
  simp only [lengthAt]
  rcases row_other value rows row index line apart with same | ⟨missing, empty⟩
  · exact .inl (by rw [same])
  · exact .inr ⟨by rw [missing]; rfl, by rw [empty]; rfl⟩

theorem length_rows : (Storage.grid (filledRows value rows row index)).lengthAt [] = some (max rows.size (row + 1)) :=
  congrArg some (placed_size #[] rows row _)

theorem grid_way {way : List Nat} {length : Nat} (known : (Storage.grid rows).lengthAt way = some length) :
    way = [] ∨ ∃ line, way = [line] := by
  match way with
  | [] => exact .inl rfl
  | [line] => exact .inr ⟨line, rfl⟩
  | _ :: _ :: _ => cases known

theorem grid_kept (other : List Nat) (item : Value) (apart : other ≠ [row, index])
    (found : (Storage.grid rows).get? other = some item) :
    (Storage.grid (filledRows value rows row index)).get? other = some item := by
  obtain ⟨line, place, rfl⟩ := grid_place found
  by_cases same : line = row
  · subst same
    have different : place ≠ index := fun same => apart (by rw [same])
    rw [← get_row] at found
    rw [get_written_row]
    exact placed_kept Value.undefined _ index value item place different found
  · rw [get_other_row value rows row index line place same]
    exact found

theorem grid_new (other : List Nat) (item : Value) (apart : other ≠ [row, index])
    (missing : (Storage.grid rows).get? other = none)
    (found : (Storage.grid (filledRows value rows row index)).get? other = some item) :
    item = .undefined ∧ ∃ way place last, other = way ++ [place] ∧ [row, index] = way ++ [last] ∧ place < last := by
  obtain ⟨line, place, rfl⟩ := grid_place found
  by_cases same : line = row
  · subst same
    have different : place ≠ index := fun same => apart (by rw [same])
    rw [get_written_row] at found
    rw [← get_row] at missing
    obtain ⟨same, before⟩ := placed_new Value.undefined _ index value item place different missing found
    exact ⟨same, [line], place, index, rfl, rfl, before⟩
  · rw [get_other_row value rows row index line place same, missing] at found
    cases found

theorem grid_gap (way : List Nat) (length : Nat) (off : ∀ place, ¬ way ++ [place] <+: [row, index])
    (unknown : (Storage.grid rows).lengthAt way = none)
    (made : (Storage.grid (filledRows value rows row index)).lengthAt way = some length) :
    length = 0 ∧ ∀ place, (Storage.grid (filledRows value rows row index)).read (way ++ [place]) =
      .error (.indexOutOfBounds place 0) := by
  rcases grid_way _ made with rfl | ⟨line, rfl⟩
  · cases unknown
  · have apart : line ≠ row := fun same =>
      off index ((way_double [line] index row index).mpr (Or.inr ⟨by rw [same], rfl⟩))
    have absent : rows[line]? = none := Option.map_eq_none_iff.mp unknown
    rcases row_other value rows row index line apart with same | ⟨_, empty⟩
    · simp only [lengthAt, same, absent, Option.map_none, reduceCtorEq] at made
    · simp only [lengthAt, empty, Option.map_some, Option.some.injEq] at made
      refine ⟨made.symm, fun place => ?_⟩
      simp only [List.cons_append, List.nil_append, read, (item_at_ok _ line #[]).mpr empty]
      rfl

theorem grid_bounded (near : row < max rows.size maxLength) (inside : index < max (rows.getD row #[]).size maxLength)
    (way : List Nat) (length : Nat)
    (made : (Storage.grid (filledRows value rows row index)).lengthAt way = some length) :
    length ≤ max (((Storage.grid rows).lengthAt way).getD 0) maxLength := by
  rcases grid_way _ made with rfl | ⟨line, rfl⟩
  · rw [length_rows] at made
    cases made
    change max rows.size (row + 1) ≤ max rows.size maxLength
    omega
  · by_cases same : line = row
    · subst same
      rw [length_written_row, ← length_row_old] at made
      cases made
      rw [← length_row_old]
      omega
    · rcases length_other_row value rows row index line same with kept | ⟨_, empty⟩
      · rw [← kept, made]
        exact Nat.le_max_left _ _
      · rw [empty] at made
        cases made
        exact Nat.zero_le _

theorem grid_grows (near : row < max rows.size maxLength) (inside : index < max (rows.getD row #[]).size maxLength) :
    Grows (.grid rows) (.grid (filledRows value rows row index)) [row, index] value where
  count := rfl
  rank := rfl
  written := by
    rw [read_ok, get_written_row]
    exact placed_self Value.undefined _ index value
  kept := by
    intro other item apart found
    rw [read_ok] at found ⊢
    exact grid_kept value rows row index other item apart found
  filled := by
    intro other item apart none_read found
    rw [read_ok] at found
    exact grid_new value rows row index other item apart (unread _ other none_read) found
  lengths := by
    intro way place on
    rcases (way_double way place row index).mp on with ⟨rfl, rfl⟩ | ⟨rfl, rfl⟩
    · exact length_rows value rows place index
    · exact length_written_row value rows row place
  others := by
    intro way length off known
    rcases grid_way rows known with rfl | ⟨line, rfl⟩
    · exact absurd ((way_double [] row row index).mpr (Or.inl ⟨rfl, rfl⟩)) (off row)
    · have apart : line ≠ row := fun same =>
        off index ((way_double [line] index row index).mpr (Or.inr ⟨by rw [same], rfl⟩))
      rcases length_other_row value rows row index line apart with kept | ⟨unknown, _⟩
      · rw [kept, known]
      · rw [unknown] at known
        cases known
  gaps := grid_gap value rows row index
  bounded := grid_bounded value rows row index near inside

end Rows

end Grows

theorem inside_of_read (storage : Storage) (indices : List Nat) (item : Value) (found : storage.read indices = .ok item) :
    storage.Inside indices := by
  rw [read_ok] at found
  cases storage with
  | list items =>
      obtain ⟨index, rfl⟩ := list_place found
      refine ⟨rfl, fun way place on => ?_⟩
      obtain ⟨rfl, rfl⟩ := (way_single way place index).mp on
      exact ⟨items.size, rfl, (Array.getElem?_eq_some_iff.mp found).1⟩
  | grid rows =>
      obtain ⟨row, index, rfl⟩ := grid_place found
      obtain ⟨items, known, held⟩ := Option.bind_eq_some_iff.mp found
      refine ⟨rfl, fun way place on => ?_⟩
      rcases (way_double way place row index).mp on with ⟨rfl, rfl⟩ | ⟨rfl, rfl⟩
      · exact ⟨rows.size, rfl, (Array.getElem?_eq_some_iff.mp known).1⟩
      · refine ⟨items.size, ?_, (Array.getElem?_eq_some_iff.mp held).1⟩
        simp only [lengthAt, known, Option.map_some]

theorem read_of_inside (storage : Storage) (indices : List Nat) (inside : storage.Inside indices) :
    ∃ item, storage.read indices = .ok item := by
  simp only [read_ok]
  cases storage with
  | list items =>
      obtain ⟨index, rfl⟩ := List.length_eq_one_iff.mp inside.count
      obtain ⟨length, known, below⟩ := inside.below [] index ((way_single [] index index).mpr ⟨rfl, rfl⟩)
      cases known
      exact ⟨items[index], Array.getElem?_eq_getElem below⟩
  | grid rows =>
      obtain ⟨row, index, rfl⟩ := List.length_eq_two.mp inside.count
      obtain ⟨length, known, below⟩ := inside.below [row] index ((way_double _ _ _ _).mpr (Or.inr ⟨rfl, rfl⟩))
      obtain ⟨items, found, rfl⟩ := Option.map_eq_some_iff.mp known
      refine ⟨items[index], ?_⟩
      rw [get_grid, found]
      exact Array.getElem?_eq_getElem below

theorem grown (before after : Storage) (indices : List Nat) (value : Value)
    (written : before.write indices value = (.ok (), after)) : Grows before after indices value := by
  rcases write_cases before after indices value written with
    ⟨items, index, rfl, rfl, near, rfl⟩ | ⟨rows, row, index, rfl, rfl, near, inside, rfl⟩
  · exact list_grows value items index near
  · exact grid_grows value rows row index near inside

/-- A write that succeeds has as many indices as the array has dimensions. Its value is read back there, and all else
that could be read is as it was. What can be read now and could not before is undefined, and lies in the written list
in front of the value. The lists on the way to it are just long enough, or as long as before; all others keep their
lengths; a row that only fills a gap is empty; and no list is longer than allowed unless it was. What can be read of
an array are the positions inside of its lengths. -/
theorem write_grows (before after : Storage) (indices : List Nat) (value : Value)
    (written : before.write indices value = (.ok (), after)) :
    Grows before after indices value ∧
      ∀ (storage : Storage) (others : List Nat), (∃ item, storage.read others = .ok item) ↔ storage.Inside others := by
  refine ⟨grown before after indices value written, fun storage others => ⟨?_, read_of_inside storage others⟩⟩
  rintro ⟨item, found⟩
  exact inside_of_read storage others item found

theorem write_grows_ragged :
    let before := Storage.grid #[#[.bool true]]
    let after := Storage.grid #[#[.bool true], #[], #[.undefined, .text "x"]]
    before.write [2, 1] (.text "x") = (.ok (), after) ∧ Grows before after [2, 1] (.text "x") ∧
      ∀ (storage : Storage) (others : List Nat), (∃ item, storage.read others = .ok item) ↔ storage.Inside others :=
  ⟨rfl, write_grows _ _ [2, 1] (.text "x") rfl⟩

end Flowline.Storage
