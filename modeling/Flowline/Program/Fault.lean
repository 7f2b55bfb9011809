import Flowline.Chart.Fault
import Flowline.Record.Fault

set_option autoImplicit false

namespace Flowline.Program

open Flowline.Graph (ClassKind)

inductive RootKind where
  | record (kind : ClassKind)
  | string
  | array
deriving DecidableEq, Repr

def RootKind.ofObject : Graph.Object → RootKind
  | .record self => .record self.kind
  | .string _ => .string
  | .array _ => .array

def RootKind.shown : RootKind → String
  | .record kind => "Instance(" ++ kind.label ++ ")"
  | .string => "String"
  | .array => "Array"

inductive Wanted where
  | record (kind : ClassKind)
  | name
  | component
  | array
deriving DecidableEq, Repr

def Wanted.shown : Wanted → String
  | .record kind => kind.name
  | .name => "a subchart name"
  | .component => "a subchart root component"
  | .array => "an array"

inductive Fault where
  | noSubcharts (count : Int32)
  | ended (wanted : Wanted)
  | unexpected (wanted : Wanted) (found : Option RootKind)
  | duplicateSubchart (name : String)
  | trailing (count : Nat)
  | chart (fault : Chart.Fault)
deriving DecidableEq

def Fault.message : Fault → String
  | .noSubcharts count => "there are no subcharts (count is " ++ toString count ++ ")"
  | .ended wanted => "expected " ++ wanted.shown ++ ", but the file ended"
  | .unexpected wanted (some found) => "expected " ++ wanted.shown ++ ", but found " ++ found.shown
  | .unexpected wanted none => "expected " ++ wanted.shown ++ ", but found nothing"
  | .duplicateSubchart name => "subchart '" ++ name ++ "' is defined more than once"
  | .trailing count => toString count ++ " unexpected message(s) at the end of the file"
  | .chart fault => fault.message

inductive LoadError where
  | stream (fault : Record.Fault)
  | shape (fault : Fault)
deriving DecidableEq

def LoadError.message : LoadError → String
  | .stream fault => "decode error: " ++ fault.message
  | .shape fault => "invalid program: " ++ fault.message

end Flowline.Program
