import Flowline.Number.Text

set_option autoImplicit false

namespace Flowline.Label

inductive Token where
  | name (spelling : String)
  | number (value : Number)
  | text (value : String)
  | bool (value : Bool)
  | assign
  | equal
  | unequal
  | less
  | lessEqual
  | greater
  | greaterEqual
  | plus
  | minus
  | times
  | over
  | percent
  | and
  | or
  | not
  | openParen
  | closeParen
  | openBracket
  | closeBracket
  | comma
deriving DecidableEq

def Token.shown : Token → String
  | .name spelling => spelling
  | .number value => value.fullText
  | .text value => "\"" ++ value ++ "\""
  | .bool value => if value then "true" else "false"
  | .assign => ":="
  | .equal => "=="
  | .unequal => "!="
  | .less => "<"
  | .lessEqual => "<="
  | .greater => ">"
  | .greaterEqual => ">="
  | .plus => "+"
  | .minus => "-"
  | .times => "*"
  | .over => "/"
  | .percent => "%"
  | .and => "and"
  | .or => "or"
  | .not => "not"
  | .openParen => "("
  | .closeParen => ")"
  | .openBracket => "["
  | .closeBracket => "]"
  | .comma => ","

abbrev Placed := Token × Nat

inductive Wanted where
  | name
  | closeParen
  | closeBracket
  | finish
  | assign
  | expression
  | subchartCall
deriving DecidableEq, Repr

def Wanted.shown : Wanted → String
  | .name => "a name"
  | .closeParen => "')'"
  | .closeBracket => "']'"
  | .finish => "end of expression"
  | .assign => "':='"
  | .expression => "an expression"
  | .subchartCall => "a subchart call"

inductive Fault where
  | unknownToken (c : Char)
  | unterminatedText
  | badNumber
  | expected (wanted : Wanted) (found : Option Token)
  | badTarget
  | badCallee
  | badIndexCount (count : Nat)
deriving DecidableEq

def Fault.message : Fault → String
  | .unknownToken c => "Unknown token: " ++ String.singleton c
  | .unterminatedText => "Unterminated string"
  | .badNumber => "Invalid number"
  | .expected wanted (some found) => "Expected " ++ wanted.shown ++ ", but got '" ++ found.shown ++ "'"
  | .expected wanted none => "Expected " ++ wanted.shown ++ ", but got nothing"
  | .badTarget => "Only variables and array elements can be assigned"
  | .badCallee => "Only named functions can be called"
  | .badIndexCount count => "Arrays have 1 or 2 dimensions, but got " ++ toString count ++ " indices"

structure Flaw where
  column : Nat
  fault : Fault
deriving DecidableEq

structure Error where
  source : String
  column : Nat
  fault : Fault
deriving DecidableEq

def Flaw.within (flaw : Flaw) (source : String) : Error := ⟨source, flaw.column, flaw.fault⟩

def Error.message (error : Error) : String :=
  error.fault.message ++ " at\n" ++ error.source ++ "\n" ++
    String.ofList (List.replicate error.column '-') ++ "^"

end Flowline.Label
