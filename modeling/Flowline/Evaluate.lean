import Flowline.Environment
import Flowline.Registry
import Flowline.Value.Operation

set_option autoImplicit false

namespace Flowline

structure Store where
  env : Environment
  heap : Heap
  draws : Generator

def Store.initial (seed : UInt64) : Store := ⟨.empty, .empty, .ofSeed seed⟩

abbrev Action (α : Type) := ExceptT Fault (StateM Store) α

namespace Action

def fail {α : Type} (fault : Fault) : Action α := throw fault

def lift {α : Type} (result : Except Fault α) : Action α := fun store => (result, store)

def allocate (storage : Storage) : Action Value := fun store =>
  let (value, heap) := store.heap.allocate storage
  (.ok value, { store with heap })

def readItem (ref : Nat) (indices : List Nat) : Action Value := fun store =>
  (store.heap.read ref indices, store)

def writeItem (ref : Nat) (indices : List Nat) (value : Value) : Action Unit := fun store =>
  let (outcome, heap) := store.heap.write ref indices value
  (outcome, { store with heap })

def getVariable? (name : String) : Action (Option Value) := fun store =>
  (.ok (store.env.get? name), store)

def setVariable (name : String) (value : Value) : Action Unit := fun store =>
  (.ok (), { store with env := store.env.set name value })

def shareVariable (name : String) : Action Binding := fun store =>
  let (binding, env) := store.env.share name
  (.ok binding, { store with env })

def combine (op : Label.BinaryOp) (left right : Value) : Action Value := fun store =>
  (.ok (left.combine store.heap op right), store)

def apply (function : Function) (args : List Value) : Action Value := fun store =>
  let (outcome, draws) := function.apply store.heap args store.draws
  (outcome, { store with draws })

end Action

open Label (Expr)

def resolveName (registry : Registry) (name : String) : Action Value := do
  match ← Action.getVariable? name with
  | some value => return value
  | none =>
      match registry.constant? name with
      | some value => return value
      | none =>
          match registry.function? name with
          | some function =>
              if function.arity.accepts 0 then Action.apply function []
              else Action.fail (.undefinedVariable name)
          | none => Action.fail (.undefinedVariable name)

def applyUnary (op : Label.UnaryOp) (value : Value) : Except Fault Value :=
  match op, value with
  | .not, value => .ok (.bool (!value.isTruthy))
  | .neg, .number value => .ok (.number value.neg)
  | .pos, .number value => .ok (.number value)
  | _, value => .error (.conversion value.kind .number)

def unassigned? : Expr → Action (Option String)
  | .var name => do
      match ← Action.getVariable? name with
      | none | some .undefined => return some name
      | some _ => return none
  | _ => return none

def newArray (name : String) (rank : Nat) : Action Value := do
  let base ← Action.allocate (.empty rank)
  Action.setVariable name base
  return base

mutual

def evaluate (registry : Registry) : Expr → Action Value
  | .number value => return .number value
  | .text value => return .text value
  | .bool value => return .bool value
  | .var name => resolveName registry name
  | .array items => do
      let values ← evaluateAll registry items
      Action.allocate (.list values.toArray)
  | .unary op operand => do
      let value ← evaluate registry operand
      Action.lift (applyUnary op value)
  | .binary .and left right => do
      let value ← evaluate registry left
      if value.isTruthy then return .bool (← evaluate registry right).isTruthy
      else return .bool false
  | .binary .or left right => do
      let value ← evaluate registry left
      if value.isTruthy then return .bool true
      else return .bool (← evaluate registry right).isTruthy
  | .binary op left right => do
      let a ← evaluate registry left
      let b ← evaluate registry right
      Action.combine op a b
  | .call name args => do
      match registry.function? name with
      | none => Action.fail (.undefinedFunction name)
      | some function =>
          if function.arity.accepts args.length then
            let values ← evaluateAll registry args
            Action.apply function values
          else Action.fail (.argCount name function.arity args.length)
  | .index target indices => do
      let base ← evaluate registry target
      let places ← evaluateIndices registry indices
      let ref ← Action.lift base.toRef
      Action.readItem ref places
  | .assign target value => do
      let result ← evaluate registry value
      assign registry target result
      return result

def evaluateAll (registry : Registry) : List Expr → Action (List Value)
  | [] => return []
  | first :: rest => do
      let value ← evaluate registry first
      let values ← evaluateAll registry rest
      return value :: values

-- The values of some expressions as indices, each checked before the next is looked at.
def evaluateIndices (registry : Registry) : List Expr → Action (List Nat)
  | [] => return []
  | first :: rest => do
      let value ← evaluate registry first
      let index ← Action.lift value.toIndex
      let indices ← evaluateIndices registry rest
      return index :: indices

-- Stores a value in a place. An item of a variable without a value makes the variable a new array with
-- as many dimensions as there are indices.
def assign (registry : Registry) : Expr → Value → Action Unit
  | .var name, value => Action.setVariable name value
  | .index target indices, value => do
      let places ← evaluateIndices registry indices
      let base ←
        match ← unassigned? target with
        | some name => newArray name places.length
        | none => evaluate registry target
      let ref ← Action.lift base.toRef
      Action.writeItem ref places value
  | _, _ => Action.fail .notAssignable

end

end Flowline
