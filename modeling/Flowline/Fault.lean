import Flowline.Label.Token
import Flowline.Value.Basic

set_option autoImplicit false

namespace Flowline

inductive Arity where
  | exactly (count : Nat)
  | atLeast (count : Nat)
deriving DecidableEq, Repr

def Arity.accepts : Arity → Nat → Bool
  | .exactly count, given => given == count
  | .atLeast count, given => count ≤ given

def Arity.shown : Arity → String
  | .exactly count => toString count
  | .atLeast count => "at least " ++ toString count

inductive Fault where
  | undefinedVariable (name : String)
  | undefinedFunction (name : String)
  | undefinedSubchart (name : String)
  | conversion (got expected : Kind)
  | dimensionMismatch (expected got : Nat)
  | indexOutOfBounds (index length : Nat)
  | arrayTooLarge (index limit : Nat)
  | indexNotInteger (index : Number)
  | negativeIndex (index : Number)
  | invalidUnicode (value : Number)
  | notAssignable
  | unknownCommand (command : String)
  | argCount (name : String) (expected : Arity) (got : Nat)
  | refArgNotVariable (param : String)
  | callDepthLimit (limit : Nat)
  | label (error : Label.Error)
  | unknownComponent (id : Int32)
  | notAwaitingInput
  | inputNotProvided
deriving DecidableEq

def Fault.message : Fault → String
  | .undefinedVariable name => "variable '" ++ name ++ "' is not defined"
  | .undefinedFunction name => "function '" ++ name ++ "' is not defined"
  | .undefinedSubchart name => "subchart '" ++ name ++ "' is not defined"
  | .conversion got expected => "expected " ++ expected.shown ++ ", but got " ++ got.shown
  | .dimensionMismatch expected got =>
      "array has " ++ toString expected ++ " dimension(s), but was indexed with " ++ toString got
  | .indexOutOfBounds index length =>
      "index " ++ toString index ++ " is out of bounds for length " ++ toString length
  | .arrayTooLarge index limit =>
      "cannot grow an array to index " ++ toString index ++ " (at most " ++ toString limit ++
        " items are allowed)"
  | .indexNotInteger index => "array index " ++ index.fullText ++ " is not an integer"
  | .negativeIndex index => "array index " ++ index.fullText ++ " is negative"
  | .invalidUnicode value => value.fullText ++ " is not a valid character code"
  | .notAssignable => "only variables and array elements can be assigned"
  | .unknownCommand command => "unknown command '" ++ command ++ "'"
  | .argCount name expected got =>
      "'" ++ name ++ "' expects " ++ expected.shown ++ " argument(s), but got " ++ toString got
  | .refArgNotVariable param => "the argument for parameter '" ++ param ++ "' must be a variable"
  | .callDepthLimit limit => "exceeded the maximum call depth of " ++ toString limit
  | .label error => error.message
  | .unknownComponent id => "component " ++ toString id ++ " does not exist"
  | .notAwaitingInput => "the program is not waiting for input"
  | .inputNotProvided => "the program is waiting for input, but none was provided"

end Flowline
