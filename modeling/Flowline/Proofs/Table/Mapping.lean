import Flowline.Proofs.Table.Ascending
import Mathlib.Data.Set.Card

set_option autoImplicit false

namespace Flowline.Table

variable {κ ν : Type} {order : Arrangement}

section Ascending

variable [Ord κ]

theorem ascending_old (key : κ) (value : ν) (entries : List (κ × ν)) :
    (placeAscending key value entries).1 = seekAscending key entries := by
  induction entries with
  | nil => rfl
  | cons entry rest ih =>
      unfold placeAscending seekAscending
      split
      · rfl
      · rfl
      · exact ih

theorem ascending_keys (key : κ) (value old : ν) (entries : List (κ × ν)) (found : seekAscending key entries = some old) :
    (placeAscending key value entries).2.map Prod.fst = entries.map Prod.fst := by
  induction entries with
  | nil => cases found
  | cons entry rest ih =>
      unfold seekAscending at found
      unfold placeAscending
      split at found
      · cases found
      · rfl
      · rw [List.map_cons, ih found, List.map_cons]

end Ascending

variable [DecidableEq κ]

-- The map that stores make of an empty one, each of them in the place of those before it.
def recorded (history : List (κ × ν)) : κ → Option ν :=
  history.foldl (fun map entry => Function.update map entry.1 (some entry.2)) fun _ => none

theorem recorded_snoc (history : List (κ × ν)) (entry : κ × ν) :
    recorded (history ++ [entry]) = Function.update (recorded history) entry.1 (some entry.2) := by
  rw [recorded, List.foldl_append]
  rfl

theorem erase_dups_snoc (arrived : List κ) (key : κ) :
    (arrived ++ [key]).eraseDups = if key ∈ arrived then arrived.eraseDups else arrived.eraseDups ++ [key] := by
  rw [List.eraseDups_append]
  by_cases known : key ∈ arrived
  · simp [List.removeAll, known]
  · simp [List.removeAll, known, List.eraseDups_cons]

section Arrival

theorem seek_arrival_iff (key : κ) (entries : List (κ × ν)) :
    seekArrival key entries ≠ none ↔ key ∈ entries.map Prod.fst := by
  induction entries with
  | nil => simp [seekArrival]
  | cons entry rest ih =>
      by_cases same : key = entry.1
      · simp [seekArrival, same]
      · simpa [seekArrival, same] using ih

theorem seek_arrival_member (key : κ) (value : ν) (entries : List (κ × ν)) (distinct : (entries.map Prod.fst).Nodup)
    (member : (key, value) ∈ entries) : seekArrival key entries = some value := by
  induction entries with
  | nil => cases member
  | cons entry rest ih =>
      have parts := List.nodup_cons.mp distinct
      rcases List.mem_cons.mp member with rfl | later
      · simp [seekArrival]
      · have different : key ≠ entry.1 := fun same => parts.1 (same ▸ List.mem_map.mpr ⟨(key, value), later, rfl⟩)
        simp [seekArrival, different, ih parts.2 later]

theorem arrival_old (key : κ) (value : ν) (entries : List (κ × ν)) :
    (placeArrival key value entries).1 = seekArrival key entries := by
  induction entries with
  | nil => rfl
  | cons entry rest ih =>
      by_cases same : key = entry.1
      · simp [placeArrival, seekArrival, same]
      · simp [placeArrival, seekArrival, same, ih]

theorem arrival_keys (key : κ) (value : ν) (entries : List (κ × ν)) :
    (placeArrival key value entries).2.map Prod.fst =
      if key ∈ entries.map Prod.fst then entries.map Prod.fst else entries.map Prod.fst ++ [key] := by
  induction entries with
  | nil => simp [placeArrival]
  | cons entry rest ih =>
      by_cases same : key = entry.1
      · simp [placeArrival, same]
      · by_cases later : key ∈ rest.map Prod.fst
        · rw [if_pos later] at ih
          simp only [placeArrival, if_neg same, List.map_cons, ih, if_pos (List.mem_cons_of_mem _ later)]
        · rw [if_neg later] at ih
          have fresh : key ∉ entry.1 :: rest.map Prod.fst := List.not_mem_cons_of_ne_of_not_mem same later
          simp only [placeArrival, if_neg same, List.map_cons, ih, if_neg fresh, List.cons_append]

end Arrival

variable [Ord κ]

theorem put_old (table : Table κ ν order) (key : κ) (value : ν) : (table.put key value).1 = table.get? key := by
  cases order with
  | ascending => exact ascending_old key value table.entries
  | arrival => exact arrival_old key value table.entries

theorem insert_keys (table : Table κ ν order) (key : κ) (value old : ν) (found : table.get? key = some old) :
    (table.insert key value).keys = table.keys := by
  cases order with
  | ascending => exact ascending_keys key value old table.entries found
  | arrival =>
      have known : key ∈ table.entries.map Prod.fst := by
        rw [← seek_arrival_iff]
        exact fun missing => Option.some_ne_none old (found.symm.trans missing)
      have kept := arrival_keys key value table.entries
      rw [if_pos known] at kept
      exact kept

theorem modify_keys (table : Table κ ν order) (key : κ) (change : ν → ν) :
    (table.modify key change).keys = table.keys := by
  unfold modify
  split
  · rename_i value found
    exact insert_keys table key (change value) value found
  · rfl

section Histories

def Arranged (arrived : List κ) : {order : Arrangement} → Table κ ν order → Prop
  | .ascending, table => Sorted table
  | .arrival, table => table.keys = arrived.eraseDups

structure Records (history : List (κ × ν)) (table : Table κ ν order) : Prop where
  found : ∀ key, table.get? key = recorded history key
  distinct : table.keys.Nodup
  arranged : Arranged (history.map Prod.fst) table

variable {history : List (κ × ν)} {table : Table κ ν order}

theorem records_empty : Records [] (empty : Table κ ν order) where
  found key := by cases order <;> rfl
  distinct := List.nodup_nil
  arranged := by
    cases order with
    | ascending => exact sorted_empty
    | arrival => rfl

theorem arrival_insert (table : Table κ ν .arrival) (key : κ) (value : ν) :
    (table.insert key value).keys = if key ∈ table.keys then table.keys else table.keys ++ [key] :=
  arrival_keys key value table.entries

theorem arranged_insert [Std.TransOrd κ] (records : Records history table) (key : κ) (value : ν) :
    Arranged ((history ++ [(key, value)]).map Prod.fst) (table.insert key value) := by
  cases order with
  | ascending => exact sorted_insert table key value records.arranged
  | arrival =>
      have keys : table.keys = (history.map Prod.fst).eraseDups := records.arranged
      have same : key ∈ table.keys ↔ key ∈ history.map Prod.fst := by rw [keys, List.mem_eraseDups]
      change (table.insert key value).keys = ((history ++ [(key, value)]).map Prod.fst).eraseDups
      rw [arrival_insert, List.map_append, List.map_singleton, erase_dups_snoc, ← keys]
      by_cases known : key ∈ table.keys
      · rw [if_pos known, if_pos (same.mp known)]
      · rw [if_neg known, if_neg (mt same.mpr known)]

theorem distinct_insert [Std.TransOrd κ] (records : Records history table) (key : κ) (value : ν) :
    (table.insert key value).keys.Nodup := by
  cases order with
  | ascending => exact sorted_keys _ (sorted_insert table key value records.arranged)
  | arrival =>
      rw [arrival_insert]
      by_cases known : key ∈ table.keys
      · rw [if_pos known]
        exact records.distinct
      · rw [if_neg known]
        exact List.nodup_append.mpr ⟨records.distinct, List.nodup_singleton key, fun other member last lies => by
          rw [List.mem_singleton.mp lies]
          exact fun same => known (same ▸ member)⟩

theorem records_insert [Std.TransOrd κ] [Std.LawfulEqOrd κ] (records : Records history table) (key : κ) (value : ν) :
    Records (history ++ [(key, value)]) (table.insert key value) where
  found asked := by
    rw [recorded_snoc]
    by_cases same : asked = key
    · rw [same, get?_insert_self, Function.update_self]
    · rw [get?_insert_of_ne table key asked value same, Function.update_of_ne same, records.found]
  distinct := distinct_insert records key value
  arranged := arranged_insert records key value

theorem records_inserts [Std.TransOrd κ] [Std.LawfulEqOrd κ] (later : List (κ × ν)) (records : Records history table) :
    Records (history ++ later) (later.foldl (fun table entry => table.insert entry.1 entry.2) table) := by
  induction later generalizing history table with
  | nil =>
      rw [List.append_nil]
      exact records
  | cons entry later ih =>
      have next := ih (records_insert records entry.1 entry.2)
      rw [List.append_assoc] at next
      exact next

def filled (order : Arrangement) (first later : List (κ × ν)) : Table κ ν order :=
  later.foldl (fun table entry => table.insert entry.1 entry.2) (ofList first)

theorem records_filled [Std.TransOrd κ] [Std.LawfulEqOrd κ] (order : Arrangement) (first later : List (κ × ν)) :
    Records (first ++ later) (filled order first later) :=
  records_inserts later (records_inserts first records_empty)

theorem listed_iff [Std.TransOrd κ] [Std.LawfulEqOrd κ] (records : Records history table) (key : κ) :
    key ∈ table.keys ↔ table.get? key ≠ none := by
  cases order with
  | ascending => exact mem_keys_iff table records.arranged key
  | arrival => exact (seek_arrival_iff key table.entries).symm

theorem entries_iff [Std.TransOrd κ] [Std.LawfulEqOrd κ] (records : Records history table) (key : κ) (value : ν) :
    (key, value) ∈ table.entries ↔ table.get? key = some value := by
  refine ⟨fun member => ?_, mem_entries_of_get? table key value⟩
  cases order with
  | ascending => exact seek_member table.entries records.arranged key value member
  | arrival => exact seek_arrival_member key value table.entries records.distinct member

theorem records_size [Std.TransOrd κ] [Std.LawfulEqOrd κ] (records : Records history table) :
    table.size = {key | recorded history key ≠ none}.ncard := by
  have keys : {key | recorded history key ≠ none} = (table.keys.toFinset : Set κ) := by
    ext key
    rw [Set.mem_ofPred_eq, ← records.found, ← listed_iff records, List.coe_toFinset, Set.mem_ofPred_eq]
  rw [keys, Set.ncard_coe_finset, List.toFinset_card_of_nodup records.distinct, Table.keys, List.length_map]
  rfl

end Histories

section Searches

inductive Place where
  | known (index : Nat)
  | fresh (index : Nat)

def Place.read (entries : List (κ × ν)) : Place → Option ν
  | .known index => entries[index]?.map Prod.snd
  | .fresh _ => none

def Place.write (key : κ) (value : ν) (entries : List (κ × ν)) : Place → Option ν × List (κ × ν)
  | .known index => (entries[index]?.map Prod.snd, entries.modify index fun entry => (entry.1, value))
  | .fresh index => (none, entries.insertIdx index (key, value))

-- What is asked of a search. One of ascending entries may take any way to the key, such as by halves; one of entries as
-- they came ends at the first that has the key.
def Finds (key : κ) (entries : List (κ × ν)) : Arrangement → Place → Prop
  | .ascending, .known index => ∃ entry, entries[index]? = some entry ∧ compare entry.1 key = .eq
  | .ascending, .fresh index => index ≤ entries.length ∧ (∀ entry ∈ entries.take index, compare entry.1 key = .lt) ∧
      ∀ entry ∈ entries.drop index, compare entry.1 key = .gt
  | .arrival, .known index => entries.findIdx? (fun entry => entry.1 = key) = some index
  | .arrival, .fresh index => entries.findIdx? (fun entry => entry.1 = key) = none ∧ index = entries.length

variable (key : κ) (value : ν) (entries : List (κ × ν))

theorem ascending_known [Std.TransOrd κ] [Std.LawfulEqOrd κ] (index : Nat) (ascending : Ascending entries)
    (finds : Finds key entries .ascending (.known index)) :
    seekAscending key entries = (Place.known index).read entries ∧
      placeAscending key value entries = (Place.known index).write key value entries := by
  obtain ⟨entry, here, level⟩ := finds
  have same : entry.1 = key := Std.LawfulEqOrd.eq_of_compare level
  subst same
  induction entries generalizing index with
  | nil => cases here
  | cons first rest ih =>
      cases index with
      | zero =>
          cases here
          simp [seekAscending, placeAscending, Place.read, Place.write, Std.ReflOrd.compare_self]
      | succ index =>
          have parts := List.pairwise_cons.mp ascending
          have behind : rest[index]? = some entry := here
          have above := Std.OrientedCmp.gt_of_lt (parts.1 entry (List.mem_of_getElem? behind))
          obtain ⟨read, written⟩ := ih index parts.2 behind
          simp only [Place.read, Place.write] at read written ⊢
          simp [seekAscending, placeAscending, above, read, written]

theorem ascending_fresh [Std.TransOrd κ] (index : Nat) (finds : Finds key entries .ascending (.fresh index)) :
    seekAscending key entries = none ∧ placeAscending key value entries = (none, entries.insertIdx index (key, value)) := by
  obtain ⟨within, before, behind⟩ := finds
  induction entries generalizing index with
  | nil =>
      cases Nat.le_zero.mp within
      exact ⟨rfl, rfl⟩
  | cons first rest ih =>
      cases index with
      | zero =>
          have below := Std.OrientedCmp.lt_of_gt (behind first List.mem_cons_self)
          simp [seekAscending, placeAscending, below]
      | succ index =>
          have above := Std.OrientedCmp.gt_of_lt (before first List.mem_cons_self)
          obtain ⟨missing, written⟩ := ih index (Nat.le_of_succ_le_succ within)
            (fun entry member => before entry (List.mem_cons_of_mem _ member)) behind
          simp [seekAscending, placeAscending, above, missing, written]

theorem arrival_known (index : Nat) (finds : Finds key entries .arrival (.known index)) :
    seekArrival key entries = (Place.known index).read entries ∧
      placeArrival key value entries = (Place.known index).write key value entries := by
  change entries.findIdx? _ = some index at finds
  induction entries generalizing index with
  | nil => cases finds
  | cons first rest ih =>
      by_cases same : first.1 = key
      · rw [List.findIdx?_cons, if_pos (decide_eq_true same)] at finds
        cases finds
        simp [seekArrival, placeArrival, Place.read, Place.write, same]
      · rw [List.findIdx?_cons, if_neg (by simpa using same)] at finds
        obtain ⟨before, found, rfl⟩ := Option.map_eq_some_iff.mp finds
        obtain ⟨read, written⟩ := ih before found
        simp only [Place.read, Place.write] at read written ⊢
        simp [seekArrival, placeArrival, Ne.symm same, read, written]

theorem arrival_fresh (index : Nat) (finds : Finds key entries .arrival (.fresh index)) :
    seekArrival key entries = none ∧ placeArrival key value entries = (none, entries.insertIdx index (key, value)) := by
  obtain ⟨missing, rfl⟩ := finds
  induction entries with
  | nil => exact ⟨rfl, rfl⟩
  | cons first rest ih =>
      by_cases same : first.1 = key
      · rw [List.findIdx?_cons, if_pos (decide_eq_true same)] at missing
        cases missing
      · rw [List.findIdx?_cons, if_neg (by simpa using same)] at missing
        obtain ⟨unread, written⟩ := ih (Option.map_eq_none_iff.mp missing)
        simp [seekArrival, placeArrival, Ne.symm same, unread, written]

theorem ascending_finds [Std.TransOrd κ] (ascending : Ascending entries) :
    ∃ place, Finds key entries .ascending place := by
  induction entries with
  | nil => exact ⟨.fresh 0, Nat.le_refl 0, nofun, nofun⟩
  | cons first rest ih =>
      have parts := List.pairwise_cons.mp ascending
      cases comparison : compare first.1 key with
      | eq => exact ⟨.known 0, first, rfl, comparison⟩
      | gt =>
          refine ⟨.fresh 0, Nat.zero_le _, nofun, List.forall_mem_cons.mpr ⟨comparison, fun entry member => ?_⟩⟩
          exact Std.TransCmp.gt_trans (Std.OrientedCmp.gt_of_lt (parts.1 entry member)) comparison
      | lt =>
          obtain ⟨place, finds⟩ := ih parts.2
          cases place with
          | known index => exact ⟨.known (index + 1), finds⟩
          | fresh index =>
              exact ⟨.fresh (index + 1), Nat.succ_le_succ finds.1, List.forall_mem_cons.mpr ⟨comparison, finds.2.1⟩,
                finds.2.2⟩

variable {history : List (κ × ν)} {table : Table κ ν order}

theorem table_finds [Std.TransOrd κ] (records : Records history table) :
    ∃ place, Finds key table.entries order place := by
  cases order with
  | ascending => exact ascending_finds key table.entries records.arranged
  | arrival =>
      cases found : table.entries.findIdx? (fun entry => entry.1 = key) with
      | some index => exact ⟨.known index, found⟩
      | none => exact ⟨.fresh table.entries.length, found, rfl⟩

theorem found_place [Std.TransOrd κ] [Std.LawfulEqOrd κ] (records : Records history table) (place : Place)
    (finds : Finds key table.entries order place) :
    table.get? key = place.read table.entries ∧
      table.put key value = ((place.write key value table.entries).1, ⟨(place.write key value table.entries).2⟩) := by
  cases order with
  | ascending =>
      cases place with
      | known index =>
          obtain ⟨read, written⟩ := ascending_known key value table.entries index records.arranged finds
          exact ⟨read, by simp only [put, written]⟩
      | fresh index =>
          obtain ⟨missing, written⟩ := ascending_fresh key value table.entries index finds
          exact ⟨missing, by simp only [put, written, Place.write]⟩
  | arrival =>
      cases place with
      | known index =>
          obtain ⟨read, written⟩ := arrival_known key value table.entries index finds
          exact ⟨read, by simp only [put, written]⟩
      | fresh index =>
          obtain ⟨missing, written⟩ := arrival_fresh key value table.entries index finds
          exact ⟨missing, by simp only [put, written, Place.write]⟩

end Searches

-- A table that answers as a map does: what is found in it and what it lists, how many keys it has, what a store replaces,
-- what a change of a stored value leaves, and that any search there may be of its entries comes to the same.
structure Maps (table : Table κ ν order) (map : κ → Option ν) : Prop where
  found : ∀ key, table.get? key = map key
  listed : ∀ key value, (key, value) ∈ table.entries ↔ map key = some value
  known : ∀ key, table.contains key = (map key).isSome
  size : table.size = {key | map key ≠ none}.ncard
  replaced : ∀ key value, (table.put key value).1 = map key
  changed : ∀ key change, (table.modify key change).keys = table.keys ∧
    ∀ asked, (table.modify key change).get? asked = Function.update map key ((map key).map change) asked
  sought : ∀ key, ∃ place, Finds key table.entries order place
  placed : ∀ key value place, Finds key table.entries order place → table.get? key = place.read table.entries ∧
    table.put key value = ((place.write key value table.entries).1, ⟨(place.write key value table.entries).2⟩)

theorem records_map [Std.TransOrd κ] [Std.LawfulEqOrd κ] {history : List (κ × ν)} {table : Table κ ν order}
    (records : Records history table) : Maps table (recorded history) where
  found := records.found
  listed key value := by rw [← records.found, entries_iff records]
  known key := congrArg Option.isSome (records.found key)
  size := records_size records
  replaced key value := (put_old table key value).trans (records.found key)
  changed key change := by
    refine ⟨modify_keys table key change, fun asked => ?_⟩
    by_cases same : asked = key
    · rw [same, get?_modify_self, Function.update_self, records.found]
    · rw [get?_modify_of_ne table key asked change same, Function.update_of_ne same, records.found]
  sought key := table_finds key records
  placed key value place finds := found_place key value records place finds

/-- A table is the map of what has been stored in it, whether its entries lie in ascending order or as they came. Both
find the same, have the same size and give the same for what they replace. The entries of the one ascend; the other has
each key where it came first. -/
theorem tables_map [Std.TransOrd κ] [Std.LawfulEqOrd κ] (first later : List (κ × ν)) :
    (∀ order, Maps (filled order first later) (recorded (first ++ later))) ∧
      (∀ key, (filled .ascending first later).get? key = (filled .arrival first later).get? key ∧
        (filled .ascending first later).contains key = (filled .arrival first later).contains key ∧
        ∀ value, ((filled .ascending first later).put key value).1 = ((filled .arrival first later).put key value).1) ∧
      (filled .ascending first later).size = (filled .arrival first later).size ∧
      Sorted (filled .ascending first later) ∧
      (filled .arrival first later).keys = ((first ++ later).map Prod.fst).eraseDups ∧
      (filled .arrival first later).keys.Nodup := by
  have maps := fun order => records_map (records_filled order first later)
  have ascending := maps .ascending
  have arrival := maps .arrival
  have records := records_filled .arrival first later
  refine ⟨maps, fun key => ⟨?_, ?_, fun value => ?_⟩, ascending.size.trans arrival.size.symm,
    (records_filled .ascending first later).arranged, records.arranged, records.distinct⟩
  · exact (ascending.found key).trans (arrival.found key).symm
  · exact (ascending.known key).trans (arrival.known key).symm
  · exact (ascending.replaced key value).trans (arrival.replaced key value).symm

theorem tables_map_repeated :
    (filled .ascending [("b", 1), ("c", 2)] [("a", 3), ("b", 4)]).entries = [("a", 3), ("b", 4), ("c", 2)] ∧
      (filled .arrival [("b", 1), ("c", 2)] [("a", 3), ("b", 4)]).entries = [("b", 4), ("c", 2), ("a", 3)] ∧
      Maps (filled .ascending [("b", 1), ("c", 2)] [("a", 3), ("b", 4)])
        (recorded [("b", 1), ("c", 2), ("a", 3), ("b", 4)]) ∧
      Maps (filled .arrival [("b", 1), ("c", 2)] [("a", 3), ("b", 4)])
        (recorded [("b", 1), ("c", 2), ("a", 3), ("b", 4)]) :=
  ⟨by decide +kernel, by decide +kernel, (tables_map _ _).1 .ascending, (tables_map _ _).1 .arrival⟩

end Flowline.Table
