set_option autoImplicit false

namespace Flowline

inductive Arrangement where
  | ascending
  | arrival
deriving DecidableEq, Repr

structure Table (κ ν : Type) (order : Arrangement) where
  entries : List (κ × ν)

namespace Table

variable {κ ν : Type} {order : Arrangement}

def empty : Table κ ν order := ⟨[]⟩

instance : EmptyCollection (Table κ ν order) := ⟨empty⟩

instance : Inhabited (Table κ ν order) := ⟨empty⟩

def size (table : Table κ ν order) : Nat := table.entries.length

def isEmpty (table : Table κ ν order) : Bool := table.entries.isEmpty

def keys (table : Table κ ν order) : List κ := table.entries.map Prod.fst

def values (table : Table κ ν order) : List ν := table.entries.map Prod.snd

variable [Ord κ] [DecidableEq κ]

def seekAscending (key : κ) : List (κ × ν) → Option ν
  | [] => none
  | (other, value) :: rest =>
      match compare key other with
      | .lt => none
      | .eq => some value
      | .gt => seekAscending key rest

def seekArrival (key : κ) : List (κ × ν) → Option ν
  | [] => none
  | (other, value) :: rest => if key = other then some value else seekArrival key rest

def get? (table : Table κ ν order) (key : κ) : Option ν :=
  match order with
  | .ascending => seekAscending key table.entries
  | .arrival => seekArrival key table.entries

def contains (table : Table κ ν order) (key : κ) : Bool := (table.get? key).isSome

def placeAscending (key : κ) (value : ν) : List (κ × ν) → Option ν × List (κ × ν)
  | [] => (none, [(key, value)])
  | (other, old) :: rest =>
      match compare key other with
      | .lt => (none, (key, value) :: (other, old) :: rest)
      | .eq => (some old, (other, value) :: rest)
      | .gt =>
          let placed := placeAscending key value rest
          (placed.1, (other, old) :: placed.2)

def placeArrival (key : κ) (value : ν) : List (κ × ν) → Option ν × List (κ × ν)
  | [] => (none, [(key, value)])
  | (other, old) :: rest =>
      if key = other then (some old, (other, value) :: rest)
      else
        let placed := placeArrival key value rest
        (placed.1, (other, old) :: placed.2)

def put (table : Table κ ν order) (key : κ) (value : ν) : Option ν × Table κ ν order :=
  match order with
  | .ascending =>
      let placed := placeAscending key value table.entries
      (placed.1, ⟨placed.2⟩)
  | .arrival =>
      let placed := placeArrival key value table.entries
      (placed.1, ⟨placed.2⟩)

def insert (table : Table κ ν order) (key : κ) (value : ν) : Table κ ν order := (table.put key value).2

def ofList (entries : List (κ × ν)) : Table κ ν order :=
  entries.foldl (fun table entry => table.insert entry.1 entry.2) empty

def modify (table : Table κ ν order) (key : κ) (change : ν → ν) : Table κ ν order :=
  match table.get? key with
  | some value => table.insert key (change value)
  | none => table

def erase (table : Table κ ν order) (key : κ) : Table κ ν order :=
  ⟨table.entries.filter fun entry => entry.1 ≠ key⟩

end Table

end Flowline
