import Flowline.Table
import Flowline.Value.Basic

set_option autoImplicit false

namespace Flowline

inductive Binding where
  | own (value : Value)
  | shared (cell : Nat)
deriving DecidableEq

abbrev Scope := Table String Binding .ascending

structure Environment where
  innermost : Scope
  enclosing : List Scope
  cells : Array Value

namespace Environment

def empty : Environment := ⟨∅, [], #[]⟩

def scopes (env : Environment) : List Scope := env.innermost :: env.enclosing

def depth (env : Environment) : Nat := env.enclosing.length + 1

def outermost (env : Environment) : Scope := env.enclosing.getLast?.getD env.innermost

def push (env : Environment) (scope : Scope) : Environment :=
  { env with innermost := scope, enclosing := env.innermost :: env.enclosing }

def pop (env : Environment) : Option Scope × Environment :=
  match env.enclosing with
  | [] => (none, env)
  | next :: rest => (some env.innermost, { env with innermost := next, enclosing := rest })

def lookup (env : Environment) (name : String) : Option Binding :=
  env.scopes.findSome? fun scope => scope.get? name

def valueOf (env : Environment) : Binding → Value
  | .own value => value
  | .shared cell => env.cells.getD cell .undefined

def get? (env : Environment) (name : String) : Option Value := (env.lookup name).map env.valueOf

def rebindFirst (name : String) (binding : Binding) : List Scope → List Scope
  | [] => []
  | scope :: rest =>
      if scope.contains name then scope.insert name binding :: rest
      else scope :: rebindFirst name binding rest

def rebind (env : Environment) (name : String) (binding : Binding) : Environment :=
  if env.innermost.contains name then { env with innermost := env.innermost.insert name binding }
  else { env with enclosing := rebindFirst name binding env.enclosing }

def define (env : Environment) (name : String) (binding : Binding) : Environment :=
  { env with innermost := env.innermost.insert name binding }

def set (env : Environment) (name : String) (value : Value) : Environment :=
  match env.lookup name with
  | some (.shared cell) => { env with cells := env.cells.setIfInBounds cell value }
  | some (.own _) => env.rebind name (.own value)
  | none => env.define name (.own value)

-- Takes a reference to a variable. One that is not known yet becomes known as undefined in the
-- innermost scope.
def share (env : Environment) (name : String) : Binding × Environment :=
  let cell := env.cells.size
  match env.lookup name with
  | some (.shared known) => (.shared known, env)
  | some (.own value) =>
      (.shared cell, { env with cells := env.cells.push value }.rebind name (.shared cell))
  | none => (.shared cell, { env with cells := env.cells.push .undefined }.define name (.shared cell))

end Environment

end Flowline
