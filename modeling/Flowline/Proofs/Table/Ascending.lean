import Flowline.Table.Lookup

set_option autoImplicit false

namespace Flowline.Table

variable {κ ν : Type} [Ord κ]

def Ascending (entries : List (κ × ν)) : Prop := entries.Pairwise fun before after => compare before.1 after.1 = .lt

theorem ascending_nil : Ascending ([] : List (κ × ν)) := List.Pairwise.nil

theorem place_keys (key : κ) (value : ν) (entries : List (κ × ν)) (entry : κ × ν)
    (member : entry ∈ (placeAscending key value entries).2) : entry.1 = key ∨ ∃ old ∈ entries, old.1 = entry.1 := by
  induction entries with
  | nil =>
      rw [List.mem_singleton.mp member]
      exact Or.inl rfl
  | cons first rest ih =>
      obtain ⟨other, old⟩ := first
      unfold placeAscending at member
      split at member
      · rcases List.mem_cons.mp member with same | later
        · exact Or.inl (congrArg Prod.fst same)
        · exact Or.inr ⟨entry, later, rfl⟩
      · rcases List.mem_cons.mp member with same | later
        · exact Or.inr ⟨(other, old), List.mem_cons_self, (congrArg Prod.fst same).symm⟩
        · exact Or.inr ⟨entry, List.mem_cons_of_mem _ later, rfl⟩
      · rcases List.mem_cons.mp member with same | later
        · exact Or.inr ⟨(other, old), List.mem_cons_self, (congrArg Prod.fst same).symm⟩
        · rcases ih later with same | ⟨known, inside, same⟩
          · exact Or.inl same
          · exact Or.inr ⟨known, List.mem_cons_of_mem _ inside, same⟩

theorem ascending_place [Std.TransOrd κ] (key : κ) (value : ν) (entries : List (κ × ν))
    (ascending : Ascending entries) :
    Ascending (placeAscending key value entries).2 := by
  induction entries with
  | nil => exact List.pairwise_singleton _ _
  | cons first rest ih =>
      obtain ⟨other, old⟩ := first
      have parts := List.pairwise_cons.mp ascending
      cases comparison : compare key other with
      | lt =>
          simp only [placeAscending, comparison]
          refine List.pairwise_cons.mpr ⟨fun entry member => ?_, ascending⟩
          rcases List.mem_cons.mp member with same | later
          · rw [same]
            exact comparison
          · exact Std.TransCmp.lt_trans comparison (parts.1 entry later)
      | eq =>
          simp only [placeAscending, comparison]
          exact List.pairwise_cons.mpr parts
      | gt =>
          simp only [placeAscending, comparison]
          refine List.pairwise_cons.mpr ⟨fun entry member => ?_, ih parts.2⟩
          rcases place_keys key value rest entry member with same | ⟨known, inside, same⟩
          · rw [same]
            exact Std.OrientedCmp.lt_of_gt comparison
          · rw [← same]
            exact parts.1 known inside

theorem seek_ahead (key : κ) (entries : List (κ × ν)) (ahead : ∀ entry ∈ entries, compare key entry.1 = .lt) :
    seekAscending key entries = none := by
  cases entries with
  | nil => rfl
  | cons first rest => simp only [seekAscending, ahead first List.mem_cons_self]

theorem seek_member [Std.TransOrd κ] [Std.LawfulEqOrd κ] (entries : List (κ × ν)) (ascending : Ascending entries)
    (key : κ) (value : ν)
    (member : (key, value) ∈ entries) : seekAscending key entries = some value := by
  induction entries with
  | nil => cases member
  | cons first rest ih =>
      obtain ⟨other, old⟩ := first
      have parts := List.pairwise_cons.mp ascending
      rcases List.mem_cons.mp member with same | later
      · cases same
        simp only [seekAscending, Std.ReflOrd.compare_self]
      · have above := Std.OrientedCmp.gt_of_lt (parts.1 (key, value) later)
        simp only [seekAscending, above]
        exact ih parts.2 later

theorem seek_filter [Std.TransOrd κ] [Std.LawfulEqOrd κ] (entries : List (κ × ν)) (ascending : Ascending entries)
    (kept : κ × ν → Bool) (key : κ)
    (whole : ∀ value, kept (key, value) = true) :
    seekAscending key (entries.filter kept) = seekAscending key entries := by
  induction entries with
  | nil => rfl
  | cons first rest ih =>
      obtain ⟨other, old⟩ := first
      have parts := List.pairwise_cons.mp ascending
      cases comparison : compare key other with
      | lt =>
          simp only [seekAscending, comparison]
          refine seek_ahead key _ fun entry member => ?_
          rcases List.mem_cons.mp (List.mem_filter.mp member).1 with same | later
          · rw [same]
            exact comparison
          · exact Std.TransCmp.lt_trans comparison (parts.1 entry later)
      | eq =>
          have same : key = other := Std.LawfulEqOrd.eq_of_compare comparison
          subst same
          rw [List.filter_cons_of_pos (whole old)]
          simp only [seekAscending, comparison]
      | gt =>
          by_cases keep : kept (other, old) = true
          · rw [List.filter_cons_of_pos keep]
            simp only [seekAscending, comparison]
            exact ih parts.2
          · rw [List.filter_cons_of_neg keep]
            simp only [seekAscending, comparison]
            exact ih parts.2

theorem mem_iff_seek [Std.TransOrd κ] [Std.LawfulEqOrd κ] (entries : List (κ × ν)) (ascending : Ascending entries)
    (key : κ) (value : ν) : (key, value) ∈ entries ↔ seekAscending key entries = some value :=
  ⟨seek_member entries ascending key value, mem_of_seek_ascending key value entries⟩

theorem ascending_ext [Std.TransOrd κ] [Std.LawfulEqOrd κ] (left right : List (κ × ν)) (first : Ascending left)
    (second : Ascending right) (same : ∀ key, seekAscending key left = seekAscending key right) : left = right := by
  have distinct : ∀ {entries : List (κ × ν)}, Ascending entries → entries.Nodup := fun ascending =>
    ascending.imp fun {one other} less level => by
      rw [level, Std.ReflOrd.compare_self] at less
      cases less
  refine List.Perm.eq_of_pairwise (fun one other _ _ less more => ?_) first second ?_
  · rw [Std.OrientedCmp.gt_of_lt less] at more
    cases more
  · refine (List.perm_ext_iff_of_nodup (distinct first) (distinct second)).mpr fun ⟨key, value⟩ => ?_
    rw [mem_iff_seek left first, mem_iff_seek right second, same key]

def Sorted (table : Table κ ν .ascending) : Prop := Ascending table.entries

theorem sorted_empty : Sorted (∅ : Table κ ν .ascending) := ascending_nil

theorem sorted_keys [Std.ReflOrd κ] (table : Table κ ν .ascending) (sorted : Sorted table) : table.keys.Nodup := by
  refine List.pairwise_map.mpr (sorted.imp fun before same => ?_)
  rw [same, Std.ReflOrd.compare_self] at before
  cases before

section Tables

variable [DecidableEq κ]

theorem sorted_insert [Std.TransOrd κ] (table : Table κ ν .ascending) (key : κ) (value : ν) (sorted : Sorted table) :
    Sorted (table.insert key value) := ascending_place key value table.entries sorted

theorem sorted_modify [Std.TransOrd κ] (table : Table κ ν .ascending) (key : κ) (change : ν → ν)
    (sorted : Sorted table) :
    Sorted (table.modify key change) := by
  simp only [modify]
  split
  · exact sorted_insert table key _ sorted
  · exact sorted

theorem sorted_erase (table : Table κ ν .ascending) (key : κ) (sorted : Sorted table) :
    Sorted (table.erase key) := List.Pairwise.filter _ sorted

theorem sorted_ext [Std.TransOrd κ] [Std.LawfulEqOrd κ] (left right : Table κ ν .ascending) (first : Sorted left)
    (second : Sorted right)
    (same : ∀ key, left.get? key = right.get? key) : left = right := by
  rcases left with ⟨left⟩
  rcases right with ⟨right⟩
  rw [ascending_ext left right first second same]

theorem get?_modify_self [Std.TransOrd κ] [Std.LawfulEqOrd κ] {order : Arrangement} (table : Table κ ν order) (key : κ)
    (change : ν → ν) :
    (table.modify key change).get? key = (table.get? key).map change := by
  simp only [modify]
  split
  · rename_i value found
    rw [get?_insert_self, found]
    rfl
  · rename_i missing
    rw [missing]
    rfl

theorem get?_modify_of_ne [Std.TransOrd κ] [Std.LawfulEqOrd κ] {order : Arrangement} (table : Table κ ν order)
    (key asked : κ) (change : ν → ν) (different : asked ≠ key) :
    (table.modify key change).get? asked = table.get? asked := by
  simp only [modify]
  split
  · exact get?_insert_of_ne table key asked _ different
  · rfl

theorem mem_keys_iff [Std.TransOrd κ] [Std.LawfulEqOrd κ] (table : Table κ ν .ascending) (sorted : Sorted table)
    (key : κ) : key ∈ table.keys ↔ table.get? key ≠ none := by
  refine ⟨fun member => ?_, fun found => ?_⟩
  · obtain ⟨entry, inside, rfl⟩ := List.mem_map.mp member
    have found : table.get? entry.1 = some entry.2 := seek_member table.entries sorted entry.1 entry.2 inside
    rw [found]
    exact Option.some_ne_none entry.2
  · cases found : table.get? key with
    | none => contradiction
    | some value => exact mem_keys_of_get? table key value found

theorem values_found [Std.TransOrd κ] [Std.LawfulEqOrd κ] (table : Table κ ν .ascending) (sorted : Sorted table)
    (value : κ → ν) (found : ∀ key ∈ table.keys, table.get? key = some (value key)) :
    table.values = table.keys.map value := by
  rw [values, keys, List.map_map]
  refine List.map_congr_left fun entry member => ?_
  have stored := seek_member table.entries sorted entry.1 entry.2 member
  have given : seekAscending entry.1 table.entries = some (value entry.1) :=
    found entry.1 (List.mem_map.mpr ⟨entry, member, rfl⟩)
  rw [stored] at given
  exact Option.some.inj given

theorem get?_erase_self [Std.LawfulEqOrd κ] (table : Table κ ν .ascending) (key : κ) :
    (table.erase key).get? key = none := by
  cases found : (table.erase key).get? key with
  | none => rfl
  | some value =>
      have member := mem_entries_of_get? _ key value found
      have apart := (List.mem_filter.mp member).2
      simp at apart

theorem get?_erase_of_ne [Std.TransOrd κ] [Std.LawfulEqOrd κ] (table : Table κ ν .ascending) (key asked : κ)
    (sorted : Sorted table)
    (different : asked ≠ key) : (table.erase key).get? asked = table.get? asked :=
  seek_filter table.entries sorted _ asked fun _ => by simpa using different

end Tables

end Flowline.Table
