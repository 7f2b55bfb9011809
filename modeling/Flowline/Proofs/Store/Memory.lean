import Flowline.Fault
import Flowline.Value.Basic
import Mathlib.Logic.Function.Basic

set_option autoImplicit false

namespace Flowline

abbrev Names := String → Option Nat

structure Memory where
  innermost : Names
  enclosing : List Names
  values : Array Value

namespace Memory

def empty : Memory := ⟨fun _ => none, [], #[]⟩

def scopes (memory : Memory) : List Names := memory.innermost :: memory.enclosing

def locate (memory : Memory) (name : String) : Option Nat := memory.scopes.findSome? fun names => names name

def get? (memory : Memory) (name : String) : Option Value :=
  (memory.locate name).bind fun location => memory.values[location]?

def bind (memory : Memory) (name : String) (location : Nat) : Memory :=
  { memory with innermost := Function.update memory.innermost name (some location) }

def allocate (memory : Memory) (value : Value) : Nat × Memory :=
  (memory.values.size, { memory with values := memory.values.push value })

def define (memory : Memory) (name : String) (value : Value) : Memory :=
  let (location, grown) := memory.allocate value
  grown.bind name location

def set (memory : Memory) (name : String) (value : Value) : Memory :=
  match memory.locate name with
  | some location => { memory with values := memory.values.setIfInBounds location value }
  | none => memory.define name value

def share (memory : Memory) (name : String) : Nat × Memory :=
  match memory.locate name with
  | some location => (location, memory)
  | none => (memory.values.size, memory.define name .undefined)

def push (memory : Memory) : Memory :=
  { memory with innermost := fun _ => none, enclosing := memory.innermost :: memory.enclosing }

def pop (memory : Memory) : Bool × Memory :=
  match memory.enclosing with
  | [] => (false, memory)
  | next :: rest => (true, { memory with innermost := next, enclosing := rest })

def close (memory : Memory) : Nat → Memory
  | 0 => memory
  | count + 1 => memory.pop.2.close count

def Bounded (memory : Memory) : Prop :=
  ∀ names ∈ memory.scopes, ∀ name location, names name = some location → location < memory.values.size

theorem locate_bounded (memory : Memory) (bounded : memory.Bounded) (name : String) (location : Nat)
    (found : memory.locate name = some location) : location < memory.values.size := by
  obtain ⟨names, member, known⟩ := List.exists_of_findSome?_eq_some found
  exact bounded names member name location known

theorem pop_values (memory : Memory) (values : Array Value) :
    ({ memory with values } : Memory).pop.2 = { memory.pop.2 with values } := by
  rcases memory with ⟨innermost, enclosing, old⟩
  cases enclosing <;> rfl

theorem close_values (memory : Memory) (values : Array Value) (count : Nat) :
    ({ memory with values } : Memory).close count = { memory.close count with values } := by
  induction count generalizing memory with
  | zero => rfl
  | succ count ih => rw [close, pop_values, ih, close]

theorem close_keeps (memory : Memory) (count : Nat) : (memory.close count).values = memory.values := by
  rw [show memory = { memory with values := memory.values } from rfl, close_values]

theorem close_bounded (memory : Memory) (bounded : memory.Bounded) (count : Nat) : (memory.close count).Bounded := by
  induction count generalizing memory with
  | zero => exact bounded
  | succ count ih =>
      refine ih memory.pop.2 ?_
      rcases memory with ⟨innermost, enclosing, values⟩
      cases enclosing with
      | nil => exact bounded
      | cons next rest => exact fun names member => bounded names (List.mem_cons_of_mem _ member)

theorem close_bind (memory : Memory) (name : String) (location count : Nat) :
    ((memory.bind name location).close count = memory.bind name location ∧ memory.close count = memory) ∨
      (memory.bind name location).close count = memory.close count := by
  cases count with
  | zero => exact Or.inl ⟨rfl, rfl⟩
  | succ count =>
      rcases memory with ⟨innermost, enclosing, values⟩
      cases enclosing with
      | nil =>
          have alone : ∀ (names : Names) (times : Nat),
              (⟨names, [], values⟩ : Memory).close times = ⟨names, [], values⟩ := by
            intro names times
            induction times with
            | zero => rfl
            | succ times ih => exact ih
          exact Or.inl ⟨alone _ _, alone _ _⟩
      | cons next rest => exact Or.inr rfl

theorem locate_bind (memory : Memory) (name other : String) (location : Nat) :
    (memory.bind name location).locate other = if other = name then some location else memory.locate other := by
  simp only [locate, scopes, bind, List.findSome?_cons]
  by_cases same : other = name
  · rw [same, Function.update_self, if_pos rfl]
  · rw [Function.update_of_ne same, if_neg same]

theorem get_allocated (memory : Memory) (bounded : memory.Bounded) (value : Value) (name : String) :
    (memory.allocate value).2.get? name = memory.get? name := by
  change (memory.locate name).bind _ = (memory.locate name).bind _
  cases found : memory.locate name with
  | none => rfl
  | some location =>
      have below := locate_bounded memory bounded name location found
      exact Array.getElem?_push_lt below |>.trans (Array.getElem?_eq_getElem below).symm

theorem get_set_close (memory : Memory) (bounded : memory.Bounded) (name other : String) (value : Value) (count : Nat) :
    ((memory.set name value).close count).get? other =
      if ((memory.set name value).close count).locate other = (memory.set name value).locate name then some value
      else (memory.close count).get? other := by
  have inside := close_bounded memory bounded count
  have kept := close_keeps memory count
  cases found : memory.locate name with
  | some location =>
      have below := locate_bounded memory bounded name location found
      simp only [set, found]
      rw [close_values]
      change ((memory.close count).locate other).bind _ =
        if (memory.close count).locate other = memory.locate name then _ else ((memory.close count).locate other).bind _
      rw [found]
      cases held : (memory.close count).locate other with
      | none => rfl
      | some known =>
          by_cases same : known = location
          · simp [same, below]
          · have apart : ¬ location = known := fun level => same level.symm
            simp [same, apart, kept, Array.getElem?_setIfInBounds]
  | none =>
      have closed : (memory.allocate value).2.close count = ((memory.close count).allocate value).2 := by
        simp only [allocate]
        rw [close_values, kept]
      simp only [set, found, define]
      rw [locate_bind, if_pos rfl]
      rcases close_bind (memory.allocate value).2 name (memory.allocate value).1 count with ⟨bound, same⟩ | gone
      · have before : (memory.close count).get? other = (memory.allocate value).2.get? other := by
          rw [← get_allocated _ inside value other, ← closed, same]
        rw [bound, locate_bind, before, get?, locate_bind]
        by_cases itself : other = name
        · rw [if_pos itself, if_pos rfl]
          exact Array.getElem?_push_size
        · rw [if_neg itself]
          have fresh : (memory.allocate value).2.locate other ≠ some (memory.allocate value).1 := fun known =>
            Nat.lt_irrefl _ (locate_bounded memory bounded other _ known)
          rw [if_neg fresh]
          rfl
      · rw [gone, closed, get_allocated _ inside]
        have fresh : ((memory.close count).allocate value).2.locate other ≠ some (memory.allocate value).1 := by
          intro known
          have below := locate_bounded _ inside other _ known
          rw [kept] at below
          exact Nat.lt_irrefl _ below
        rw [if_neg fresh]

end Memory

end Flowline
