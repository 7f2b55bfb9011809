import Flowline.Chart.Component

set_option autoImplicit false

namespace Flowline.Chart

open Flowline.Graph (ClassKind)

inductive Fault where
  | badRoot (kind : Option ClassKind)
  | notComponent (id : ComponentId) (kind : Option ClassKind)
  | badMember (id : ComponentId) (member : String)
  | unknownRectangle (id : ComponentId) (value : Int32)
deriving DecidableEq

def Fault.message : Fault → String
  | .badRoot (some kind) => "a subchart starts with " ++ kind.name ++ ", not an oval"
  | .badRoot none => "a subchart does not start with a component"
  | .notComponent id (some kind) =>
      "object " ++ toString id ++ " is linked as a component, but is " ++ kind.name
  | .notComponent id none => "object " ++ toString id ++ " is linked as a component, but is not one"
  | .badMember id member => "component " ++ toString id ++ " has an invalid '" ++ member ++ "'"
  | .unknownRectangle id value =>
      "component " ++ toString id ++ " has unknown rectangle kind " ++ toString value

end Flowline.Chart
