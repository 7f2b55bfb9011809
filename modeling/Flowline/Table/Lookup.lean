import Flowline.Table

set_option autoImplicit false

namespace Flowline.Table

variable {κ ν : Type} {order : Arrangement}

section Ascending

variable [Ord κ]

theorem seek_place_ascending_self [Std.TransOrd κ] [Std.LawfulEqOrd κ] (key : κ) (value : ν)
    (entries : List (κ × ν)) : seekAscending key (placeAscending key value entries).2 = some value := by
  induction entries with
  | nil =>
      simp only [placeAscending, seekAscending]
      rw [Std.ReflOrd.compare_self]
  | cons entry rest ih =>
      obtain ⟨other, old⟩ := entry
      cases comparison : compare key other with
      | lt =>
          simp only [placeAscending, comparison, seekAscending]
          rw [Std.ReflOrd.compare_self]
      | eq => simp only [placeAscending, comparison, seekAscending]
      | gt => simp only [placeAscending, comparison, seekAscending, ih]

theorem seek_place_ascending_of_ne [Std.TransOrd κ] [Std.LawfulEqOrd κ] (key asked : κ)
    (value : ν) (entries : List (κ × ν)) (different : asked ≠ key) :
    seekAscending asked (placeAscending key value entries).2 = seekAscending asked entries := by
  have apart : compare asked key ≠ .eq := fun same => different (Std.LawfulEqOrd.eq_of_compare same)
  induction entries with
  | nil =>
      simp only [placeAscending, seekAscending]
      cases before : compare asked key with
      | lt => rfl
      | eq => exact absurd before apart
      | gt => rfl
  | cons entry rest ih =>
      obtain ⟨other, old⟩ := entry
      cases comparison : compare key other with
      | lt =>
          simp only [placeAscending, comparison, seekAscending]
          cases before : compare asked key with
          | lt => rw [Std.TransCmp.lt_trans before comparison]
          | eq => exact absurd before apart
          | gt => rfl
      | eq =>
          have same : key = other := Std.LawfulEqOrd.eq_of_compare comparison
          subst same
          simp only [placeAscending, comparison, seekAscending]
          cases before : compare asked key with
          | lt => rfl
          | eq => exact absurd before apart
          | gt => rfl
      | gt =>
          simp only [placeAscending, comparison, seekAscending, ih]

theorem mem_of_seek_ascending [Std.LawfulEqOrd κ] (key : κ) (value : ν) (entries : List (κ × ν))
    (found : seekAscending key entries = some value) : (key, value) ∈ entries := by
  induction entries with
  | nil => cases found
  | cons entry rest ih =>
      obtain ⟨other, old⟩ := entry
      simp only [seekAscending] at found
      split at found
      · cases found
      · rename_i comparison
        have same : key = other := Std.LawfulEqOrd.eq_of_compare comparison
        subst same
        cases found
        exact List.mem_cons_self
      · exact List.mem_cons_of_mem _ (ih found)

end Ascending

section Arrival

variable [DecidableEq κ]

theorem seek_place_arrival_self (key : κ) (value : ν) (entries : List (κ × ν)) :
    seekArrival key (placeArrival key value entries).2 = some value := by
  induction entries with
  | nil => simp [placeArrival, seekArrival]
  | cons entry rest ih =>
      by_cases same : key = entry.1
      · simp [placeArrival, seekArrival, same]
      · simp [placeArrival, seekArrival, same, ih]

theorem seek_place_arrival_of_ne (key asked : κ) (value : ν) (entries : List (κ × ν))
    (different : asked ≠ key) :
    seekArrival asked (placeArrival key value entries).2 = seekArrival asked entries := by
  induction entries with
  | nil => simp [placeArrival, seekArrival, different]
  | cons entry rest ih =>
      by_cases same : key = entry.1
      · simp [placeArrival, seekArrival, ← same, different]
      · simp [placeArrival, seekArrival, same, ih]

theorem mem_of_seek_arrival (key : κ) (value : ν) (entries : List (κ × ν))
    (found : seekArrival key entries = some value) : (key, value) ∈ entries := by
  induction entries with
  | nil => cases found
  | cons entry rest ih =>
      obtain ⟨other, old⟩ := entry
      by_cases same : key = other
      · subst same
        simp only [seekArrival, if_true, Option.some.injEq] at found
        subst found
        exact List.mem_cons_self
      · simp only [seekArrival, if_neg same] at found
        exact List.mem_cons_of_mem _ (ih found)

end Arrival

variable [Ord κ] [DecidableEq κ]

theorem get?_insert_self [Std.TransOrd κ] [Std.LawfulEqOrd κ] (table : Table κ ν order) (key : κ)
    (value : ν) : (table.insert key value).get? key = some value := by
  cases order with
  | ascending => exact seek_place_ascending_self key value table.entries
  | arrival => exact seek_place_arrival_self key value table.entries

theorem get?_insert_of_ne [Std.TransOrd κ] [Std.LawfulEqOrd κ] (table : Table κ ν order)
    (key asked : κ) (value : ν) (different : asked ≠ key) :
    (table.insert key value).get? asked = table.get? asked := by
  cases order with
  | ascending => exact seek_place_ascending_of_ne key asked value table.entries different
  | arrival => exact seek_place_arrival_of_ne key asked value table.entries different

theorem contains_insert_self [Std.TransOrd κ] [Std.LawfulEqOrd κ] (table : Table κ ν order) (key : κ)
    (value : ν) : (table.insert key value).contains key = true := by
  rw [contains, get?_insert_self]
  rfl

theorem contains_insert_of_contains [Std.TransOrd κ] [Std.LawfulEqOrd κ] (table : Table κ ν order)
    (key asked : κ) (value : ν) (known : table.contains asked = true) :
    (table.insert key value).contains asked = true := by
  by_cases same : asked = key
  · subst same
    exact contains_insert_self table asked value
  · rw [contains, get?_insert_of_ne table key asked value same]
    exact known

theorem mem_entries_of_get? [Std.LawfulEqOrd κ] (table : Table κ ν order) (key : κ) (value : ν)
    (found : table.get? key = some value) : (key, value) ∈ table.entries := by
  cases order with
  | ascending => exact mem_of_seek_ascending key value table.entries found
  | arrival => exact mem_of_seek_arrival key value table.entries found

theorem mem_keys_of_get? [Std.LawfulEqOrd κ] (table : Table κ ν order) (key : κ) (value : ν)
    (found : table.get? key = some value) : key ∈ table.keys :=
  List.mem_map.mpr ⟨(key, value), mem_entries_of_get? table key value found, rfl⟩

end Flowline.Table
