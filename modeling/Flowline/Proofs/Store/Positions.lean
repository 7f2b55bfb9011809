import Flowline.Value.Storage
import Mathlib.Data.List.Basic

set_option autoImplicit false

namespace Flowline.Storage

def get? : Storage → List Nat → Option Value
  | .list items, [index] => items[index]?
  | .grid rows, [row, index] => rows[row]?.bind fun items => items[index]?
  | _, _ => none

theorem get_list (items : Array Value) (index : Nat) : (Storage.list items).get? [index] = items[index]? := rfl

theorem get_grid (rows : Array (Array Value)) (row index : Nat) :
    (Storage.grid rows).get? [row, index] = rows[row]?.bind fun items => items[index]? := rfl

theorem item_at_ok {α : Type} (items : Array α) (index : Nat) (item : α) : itemAt items index = .ok item ↔ items[index]? = some item := by
  unfold itemAt
  cases items[index]? with
  | none => exact ⟨nofun, nofun⟩
  | some found => exact ⟨fun same => congrArg some (Except.ok.inj same), fun same => congrArg Except.ok (Option.some.inj same)⟩

theorem read_ok (storage : Storage) (indices : List Nat) (item : Value) :
    storage.read indices = .ok item ↔ storage.get? indices = some item := by
  cases storage with
  | list items =>
      rcases indices with _ | ⟨index, _ | ⟨second, rest⟩⟩
      · simp [read, get?]
      · exact item_at_ok items index item
      · simp [read, get?]
  | grid rows =>
      rcases indices with _ | ⟨row, _ | ⟨index, _ | ⟨third, rest⟩⟩⟩
      · simp [read, get?]
      · simp [read, get?]
      · simp only [read, get?]
        cases found : rows[row]? with
        | none => simp only [itemAt, found, Option.bind_none, reduceCtorEq]
        | some items =>
            rw [(item_at_ok rows row items).mpr found]
            exact item_at_ok items index item
      · simp [read, get?]

theorem get_row (rows : Array (Array Value)) (row place : Nat) :
    (rows.getD row #[])[place]? = (Storage.grid rows).get? [row, place] := by
  rw [get_grid, Array.getD_eq_getD_getElem?]
  cases rows[row]? with
  | none => rfl
  | some items => rfl

theorem list_place {items : Array Value} {indices : List Nat} {item : Value}
    (found : (Storage.list items).get? indices = some item) : ∃ index, indices = [index] := by
  match indices with
  | [] => cases found
  | [index] => exact ⟨index, rfl⟩
  | _ :: _ :: _ => cases found

theorem grid_place {rows : Array (Array Value)} {indices : List Nat} {item : Value}
    (found : (Storage.grid rows).get? indices = some item) : ∃ row index, indices = [row, index] := by
  match indices with
  | [] => cases found
  | [_] => cases found
  | [row, index] => exact ⟨row, index, rfl⟩
  | _ :: _ :: _ :: _ => cases found

-- The positions of all items: those of a list one behind the other, those of a grid row by row.
def positions : Storage → List (List Nat)
  | .list items => (List.range items.size).map fun index => [index]
  | .grid rows =>
      (List.range rows.size).flatMap fun row => (List.range (rows.getD row #[]).size).map fun index => [row, index]

theorem mem_positions (storage : Storage) (indices : List Nat) :
    indices ∈ storage.positions ↔ ∃ item, storage.read indices = .ok item := by
  simp only [read_ok]
  cases storage with
  | list items =>
      simp only [positions, List.mem_map, List.mem_range]
      constructor
      · rintro ⟨index, below, rfl⟩
        exact ⟨items[index], Array.getElem?_eq_getElem below⟩
      · rintro ⟨item, found⟩
        obtain ⟨index, rfl⟩ := list_place found
        exact ⟨index, (Array.getElem?_eq_some_iff.mp found).1, rfl⟩
  | grid rows =>
      simp only [positions, List.mem_flatMap, List.mem_map, List.mem_range]
      constructor
      · rintro ⟨row, _, index, below, rfl⟩
        exact ⟨(rows.getD row #[])[index], by rw [← get_row, Array.getElem?_eq_getElem below]⟩
      · rintro ⟨item, found⟩
        obtain ⟨row, index, rfl⟩ := grid_place found
        obtain ⟨items, known, _⟩ := Option.bind_eq_some_iff.mp found
        rw [← get_row] at found
        exact ⟨row, (Array.getElem?_eq_some_iff.mp known).1, index, (Array.getElem?_eq_some_iff.mp found).1, rfl⟩

theorem positions_ascending (storage : Storage) : storage.positions.Pairwise (· < ·) := by
  have single : ∀ {first second : Nat}, first < second → [first] < [second] := fun less => List.Lex.rel less
  cases storage with
  | list items =>
      rw [positions, List.pairwise_map]
      exact List.pairwise_lt_range.imp single
  | grid rows =>
      rw [positions, List.pairwise_flatMap]
      constructor
      · intro row _
        rw [List.pairwise_map]
        exact List.pairwise_lt_range.imp fun less => List.Lex.cons (single less)
      · refine List.pairwise_lt_range.imp fun less indices member others other => ?_
        obtain ⟨index, _, rfl⟩ := List.mem_map.mp member
        obtain ⟨place, _, rfl⟩ := List.mem_map.mp other
        exact List.Lex.rel less

theorem items_range {α : Type} (items : Array α) :
    (List.range items.size).map (itemAt items) = items.toList.map Except.ok := by
  refine List.ext_getElem (by simp) fun index first second => ?_
  simp only [List.getElem_map, List.getElem_range, Array.getElem_toList]
  exact (item_at_ok items index _).mpr (Array.getElem?_eq_getElem _)

theorem rows_range (rows : Array (Array Value)) :
    (List.range rows.size).map (fun row => rows.getD row #[]) = rows.toList := by
  refine List.ext_getElem (by simp) fun row first second => ?_
  have below : row < rows.size := second
  simp [below]

theorem read_row (rows : Array (Array Value)) (row index : Nat) (below : row < rows.size) :
    (Storage.grid rows).read [row, index] = itemAt (rows.getD row #[]) index := by
  simp only [read, (item_at_ok rows row rows[row]).mpr (Array.getElem?_eq_getElem below)]
  simp [below]

theorem positions_read (storage : Storage) : storage.positions.map storage.read = storage.items.map Except.ok := by
  cases storage with
  | list items =>
      rw [positions, List.map_map]
      exact items_range items
  | grid rows =>
      rw [positions, items, List.map_flatMap, ← rows_range, List.flatMap_map, List.map_flatMap]
      refine List.flatMap_congr fun row member => ?_
      rw [List.map_map, ← items_range]
      exact List.map_congr_left fun index _ => read_row rows row index (List.mem_range.mp member)

end Flowline.Storage
