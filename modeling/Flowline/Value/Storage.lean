import Flowline.Fault

set_option autoImplicit false

namespace Flowline

inductive Storage where
  | list (items : Array Value)
  | grid (rows : Array (Array Value))
deriving DecidableEq

namespace Storage

-- The most items in a list, rows in a grid, or items in a row.
def maxLength : Nat := 0x100000

def empty (rank : Nat) : Storage := if rank = 2 then .grid #[] else .list #[]

def rank : Storage → Nat
  | .list _ => 1
  | .grid _ => 2

def length : Storage → Nat
  | .list items => items.size
  | .grid rows => rows.size

def items : Storage → List Value
  | .list items => items.toList
  | .grid rows => rows.toList.flatMap Array.toList

def itemAt {α : Type} (items : Array α) (index : Nat) : Except Fault α :=
  match items[index]? with
  | some item => .ok item
  | none => .error (.indexOutOfBounds index items.size)

def read (storage : Storage) (indices : List Nat) : Except Fault Value :=
  match storage, indices with
  | .list items, [index] => itemAt items index
  | .grid rows, [row, index] =>
      match itemAt rows row with
      | .ok items => itemAt items index
      | .error fault => .error fault
  | storage, indices => .error (.dimensionMismatch storage.rank indices.length)

def reaching {α : Type} (fill : α) (items : Array α) (index : Nat) : Except Fault (Array α) :=
  if index < items.size then .ok items
  else if index < maxLength then .ok (items ++ Array.replicate (index + 1 - items.size) fill)
  else .error (.arrayTooLarge index maxLength)

-- Writes an item. In a grid the rows are made to reach the first index before the row is looked at.
def write (storage : Storage) (indices : List Nat) (value : Value) : Except Fault Unit × Storage :=
  match storage, indices with
  | .list items, [index] =>
      match reaching .undefined items index with
      | .ok items => (.ok (), .list (items.setIfInBounds index value))
      | .error fault => (.error fault, .list items)
  | .grid rows, [row, index] =>
      match reaching #[] rows row with
      | .ok rows =>
          match reaching .undefined (rows.getD row #[]) index with
          | .ok items => (.ok (), .grid (rows.setIfInBounds row (items.setIfInBounds index value)))
          | .error fault => (.error fault, .grid rows)
      | .error fault => (.error fault, .grid rows)
  | storage, indices => (.error (.dimensionMismatch storage.rank indices.length), storage)

end Storage

structure Heap where
  storages : Array Storage

namespace Heap

def empty : Heap := ⟨#[]⟩

def size (heap : Heap) : Nat := heap.storages.size

def storage? (heap : Heap) (ref : Nat) : Option Storage := heap.storages[ref]?

def lengthOf (heap : Heap) (ref : Nat) : Nat := (heap.storage? ref).elim 0 Storage.length

def allocate (heap : Heap) (storage : Storage) : Value × Heap :=
  (.array heap.size, ⟨heap.storages.push storage⟩)

def read (heap : Heap) (ref : Nat) (indices : List Nat) : Except Fault Value :=
  match heap.storage? ref with
  | some storage => storage.read indices
  | none => .error (.dimensionMismatch 0 indices.length)

def write (heap : Heap) (ref : Nat) (indices : List Nat) (value : Value) : Except Fault Unit × Heap :=
  match heap.storage? ref with
  | some storage =>
      let (outcome, storage) := storage.write indices value
      (outcome, ⟨heap.storages.setIfInBounds ref storage⟩)
  | none => (.error (.dimensionMismatch 0 indices.length), heap)

end Heap

end Flowline
