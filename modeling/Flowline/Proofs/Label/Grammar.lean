import Flowline.Label.Parse

set_option autoImplicit false

/-!
The grammar of labels. An expression of level zero has no operator outside of brackets but signs in front of it;
one of a higher level is an expression of the level below, or two that are joined by an operator of the level, of
which the left one may have more such operators. Products are of level one, sums of level two, relations of level
three, equalities of level four, conjunctions of level five and disjunctions of level six.
-/

namespace Flowline.Label.Grammar

inductive Joins : Nat → Token → BinaryOp → Prop where
  | times : Joins 1 .times .mul
  | over : Joins 1 .over .div
  | percent : Joins 1 .percent .mod
  | plus : Joins 2 .plus .add
  | minus : Joins 2 .minus .sub
  | less : Joins 3 .less .less
  | lessEqual : Joins 3 .lessEqual .lessEqual
  | greater : Joins 3 .greater .greater
  | greaterEqual : Joins 3 .greaterEqual .greaterEqual
  | equal : Joins 4 .equal .equal
  | unequal : Joins 4 .unequal .unequal
  | and : Joins 5 .and .and
  | or : Joins 6 .or .or

inductive Signs : Token → UnaryOp → Prop where
  | not : Signs .not .not
  | minus : Signs .minus .neg
  | plus : Signs .plus .pos

inductive Place : Expr → Prop where
  | var (name : String) : Place (.var name)
  | index (target : Expr) (indices : List Expr) : Place (.index target indices)

mutual

inductive Operation : Nat → List Token → Expr → Prop where
  | signed {sign : Token} {op : UnaryOp} {tokens : List Token} {operand : Expr} (signs : Signs sign op)
      (inner : Operation 0 tokens operand) : Operation 0 (sign :: tokens) (.unary op operand)
  | applied {tokens : List Token} {expr : Expr} (inner : Application tokens expr) : Operation 0 tokens expr
  | operand {level : Nat} {tokens : List Token} {expr : Expr} (inner : Operation level tokens expr) :
      Operation (level + 1) tokens expr
  | joined {level : Nat} {first second : List Token} {sign : Token} {op : BinaryOp} {left right : Expr}
      (before : Operation (level + 1) first left) (joins : Joins (level + 1) sign op)
      (after : Operation level second right) : Operation (level + 1) (first ++ sign :: second) (.binary op left right)

-- Only names are called, with or without parentheses around them.
inductive Application : List Token → Expr → Prop where
  | simple {tokens : List Token} {expr : Expr} (inner : Simple tokens expr) : Application tokens expr
  | call {tokens inside : List Token} {name : String} {args : List Expr} (callee : Simple tokens (.var name))
      (given : Listing inside args) :
      Application (tokens ++ .openParen :: (inside ++ [.closeParen])) (.call name args)
  | index {tokens inside : List Token} {target : Expr} {indices : List Expr} (base : Application tokens target)
      (given : Listing inside indices) (count : indices.length = 1 ∨ indices.length = 2) :
      Application (tokens ++ .openBracket :: (inside ++ [.closeBracket])) (.index target indices)

inductive Simple : List Token → Expr → Prop where
  | number (value : Number) : Simple [.number value] (.number value)
  | text (value : String) : Simple [.text value] (.text value)
  | bool (value : Bool) : Simple [.bool value] (.bool value)
  | name (name : String) : Simple [.name name] (.var name)
  | group {tokens : List Token} {expr : Expr} (inner : Operation 6 tokens expr) :
      Simple (.openParen :: (tokens ++ [.closeParen])) expr
  | array {tokens : List Token} {items : List Expr} (inner : Listing tokens items) :
      Simple (.openBracket :: (tokens ++ [.closeBracket])) (.array items)

inductive Listing : List Token → List Expr → Prop where
  | empty : Listing [] []
  | items {tokens : List Token} {items : List Expr} (inner : Items tokens items) : Listing tokens items

inductive Items : List Token → List Expr → Prop where
  | last {tokens : List Token} {expr : Expr} (inner : Operation 6 tokens expr) : Items tokens [expr]
  | more {tokens others : List Token} {expr : Expr} {items : List Expr} (first : Operation 6 tokens expr)
      (rest : Items others items) : Items (tokens ++ .comma :: others) (expr :: items)

end

inductive Assignment : List Token → Expr → Prop where
  | plain {tokens : List Token} {expr : Expr} (inner : Operation 6 tokens expr) : Assignment tokens expr
  | assign {tokens others : List Token} {target value : Expr} (place : Place target)
      (before : Operation 6 tokens target) (after : Assignment others value) :
      Assignment (tokens ++ .assign :: others) (.assign target value)

-- A parameter without a mode has none of the words for modes as its name.
inductive Parameter : List Token → Param → Prop where
  | plain {name : String} (unmarked : name ≠ "in" ∧ name ≠ "out" ∧ name ≠ "inout") :
      Parameter [.name name] ⟨name, .value⟩
  | value {name : String} (other : name ≠ "out") : Parameter [.name "in", .name name] ⟨name, .value⟩
  | result (name : String) : Parameter [.name "out", .name name] ⟨name, .result⟩
  | valueResult (name : String) : Parameter [.name "inout", .name name] ⟨name, .valueResult⟩
  | apart (name : String) : Parameter [.name "in", .name "out", .name name] ⟨name, .valueResult⟩

inductive Parameters : List Token → List Param → Prop where
  | last {tokens : List Token} {param : Param} (inner : Parameter tokens param) : Parameters tokens [param]
  | more {tokens others : List Token} {param : Param} {params : List Param} (first : Parameter tokens param)
      (rest : Parameters others params) : Parameters (tokens ++ .comma :: others) (param :: params)

inductive Heading : List Token → Header → Prop where
  | bare (name : String) : Heading [.name name] ⟨name, []⟩
  | empty (name : String) : Heading [.name name, .openParen, .closeParen] ⟨name, []⟩
  | params {tokens : List Token} {params : List Param} (name : String) (inner : Parameters tokens params) :
      Heading (.name name :: .openParen :: (tokens ++ [.closeParen])) ⟨name, params⟩

theorem joins_iff (level : Nat) (token : Token) (op : BinaryOp) :
    Joins level token op ↔ operator? level token = some op := by
  constructor
  · intro joins
    cases joins <;> rfl
  · intro known
    unfold operator? at known
    split at known <;> cases known <;> constructor

theorem signs_iff (token : Token) (op : UnaryOp) : Signs token op ↔ unaryOperator? token = some op := by
  constructor
  · intro signs
    cases signs <;> rfl
  · intro known
    unfold unaryOperator? at known
    split at known <;> cases known <;> constructor

theorem place_iff (expr : Expr) : Place expr ↔ expr.isPlace = true := by
  constructor
  · intro place
    cases place <;> rfl
  · intro known
    cases expr with
    | var name => exact .var name
    | index target indices => exact .index target indices
    | _ => cases known

theorem application_var {tokens : List Token} {name : String} (applied : Application tokens (.var name)) :
    Simple tokens (.var name) := by
  cases applied with
  | simple inner => exact inner

end Flowline.Label.Grammar
