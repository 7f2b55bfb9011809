import Flowline.Number.Basic

set_option autoImplicit false

namespace Flowline.Label

inductive UnaryOp where
  | neg
  | pos
  | not
deriving DecidableEq, Repr

inductive BinaryOp where
  | add
  | sub
  | mul
  | div
  | mod
  | equal
  | unequal
  | less
  | lessEqual
  | greater
  | greaterEqual
  | and
  | or
deriving DecidableEq, Repr

inductive Expr where
  | number (value : Number)
  | text (value : String)
  | bool (value : Bool)
  | var (name : String)
  | array (items : List Expr)
  | unary (op : UnaryOp) (operand : Expr)
  | binary (op : BinaryOp) (left right : Expr)
  | call (name : String) (args : List Expr)
  | index (target : Expr) (indices : List Expr)
  | assign (target value : Expr)

def Expr.isPlace : Expr → Bool
  | .var _ | .index _ _ => true
  | _ => false

inductive ParamMode where
  | value
  | result
  | valueResult
deriving DecidableEq, Repr

structure Param where
  name : String
  mode : ParamMode
deriving DecidableEq, Repr

structure Header where
  name : String
  params : List Param
deriving DecidableEq, Repr

end Flowline.Label
