import Flowline.Function
import Flowline.Table
import Flowline.Text.Case

set_option autoImplicit false

namespace Flowline

structure Registry where
  functions : Table String Function .ascending
  constants : Table String Value .ascending
  subcharts : Table String Nat .ascending

namespace Registry

def empty : Registry := ⟨∅, ∅, ∅⟩

def pi : Number := ⟨0x400921FB54442D18, by decide, by decide⟩

def e : Number := ⟨0x4005BF0A8B145769, by decide, by decide⟩

def standard : Registry :=
  ⟨Table.ofList Function.named, Table.ofList [("pi", .number pi), ("e", .number e)], ∅⟩

def function? (registry : Registry) (name : String) : Option Function := registry.functions.get? name

def constant? (registry : Registry) (name : String) : Option Value := registry.constants.get? name

def defineConstant (registry : Registry) (name : String) (value : Value) : Registry :=
  { registry with constants := registry.constants.insert name value }

def subchart? (registry : Registry) (name : String) : Option Nat :=
  registry.subcharts.get? (Text.foldName name)

def defineSubchart? (registry : Registry) (name : String) (place : Nat) : Option Registry :=
  if registry.subcharts.contains (Text.foldName name) then none
  else some { registry with subcharts := registry.subcharts.insert (Text.foldName name) place }

end Registry

end Flowline
