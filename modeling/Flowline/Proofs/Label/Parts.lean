import Flowline.Label.Expr

set_option autoImplicit false

namespace Flowline.Label

def Expr.assigns : Expr → Bool
  | .assign _ _ => true
  | _ => false

-- What an expression is made of at its top, if it does not assign: items, operands, arguments, a base and indices.
def Expr.operands : Expr → List Expr
  | .array items => items
  | .unary _ operand => [operand]
  | .binary _ left right => [left, right]
  | .call _ args => args
  | .index target indices => target :: indices
  | _ => []

def Expr.parts : Expr → List Expr
  | .assign target value => [target, value]
  | expr => expr.operands

mutual

def Expr.Plain : Expr → Prop
  | .number _ | .text _ | .bool _ | .var _ => True
  | .array items => AllPlain items
  | .unary _ operand => operand.Plain
  | .binary _ left right => left.Plain ∧ right.Plain
  | .call _ args => AllPlain args
  | .index target indices => target.Plain ∧ AllPlain indices
  | .assign _ _ => False

def AllPlain : List Expr → Prop
  | [] => True
  | first :: rest => first.Plain ∧ AllPlain rest

end

mutual

def Expr.Avoids (word : String) : Expr → Prop
  | .number _ | .text _ | .bool _ => True
  | .var name => name ≠ word
  | .array items => AllAvoid word items
  | .unary _ operand => operand.Avoids word
  | .binary _ left right => left.Avoids word ∧ right.Avoids word
  | .call name args => name ≠ word ∧ AllAvoid word args
  | .index target indices => target.Avoids word ∧ AllAvoid word indices
  | .assign target value => target.Avoids word ∧ value.Avoids word

def AllAvoid (word : String) : List Expr → Prop
  | [] => True
  | first :: rest => first.Avoids word ∧ AllAvoid word rest

end

theorem all_plain_iff (exprs : List Expr) : AllPlain exprs ↔ ∀ expr ∈ exprs, expr.Plain := by
  induction exprs with
  | nil => exact ⟨fun _ _ => nofun, fun _ => trivial⟩
  | cons first rest ih => rw [AllPlain, ih, List.forall_mem_cons]

theorem all_avoid_iff (word : String) (exprs : List Expr) : AllAvoid word exprs ↔ ∀ expr ∈ exprs, expr.Avoids word := by
  induction exprs with
  | nil => exact ⟨fun _ _ => nofun, fun _ => trivial⟩
  | cons first rest ih => rw [AllAvoid, ih, List.forall_mem_cons]

theorem plain_operands (expr : Expr) (plain : expr.Plain) : ∀ operand ∈ expr.operands, operand.Plain := by
  refine (all_plain_iff expr.operands).mp ?_
  cases expr with
  | array | call | index => exact plain
  | unary => exact ⟨plain, trivial⟩
  | binary => exact ⟨plain.1, plain.2, trivial⟩
  | _ => trivial

theorem plain_parts (expr : Expr) (plain : expr.Plain) : ∀ part ∈ expr.parts, part.Plain := by
  cases expr with
  | assign => exact plain.elim
  | _ => exact plain_operands _ plain

theorem avoids_parts (word : String) (expr : Expr) (avoids : expr.Avoids word) :
    ∀ part ∈ expr.parts, part.Avoids word := by
  refine (all_avoid_iff word expr.parts).mp ?_
  cases expr with
  | array | index => exact avoids
  | call => exact avoids.2
  | unary => exact ⟨avoids, trivial⟩
  | binary | assign => exact ⟨avoids.1, avoids.2, trivial⟩
  | _ => trivial

end Flowline.Label
