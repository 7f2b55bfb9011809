import Flowline.Chart.Flowchart
import Flowline.Program.Log
import Flowline.Registry

set_option autoImplicit false

namespace Flowline

namespace Program

structure Subchart where
  name : String
  kind : Int32
  -- A number that some programs have behind the kind.
  extra : Option Int32
  flowchart : Flowchart
  trailer : Graph.Message

end Program

structure Program where
  version : Int32
  masterMode : Bool
  log : Program.Log
  subcharts : List Program.Subchart
  registry : Registry

namespace Program

def subchart? (program : Program) (place : Nat) : Option Subchart := program.subcharts[place]?

def component? (program : Program) (place : Nat) (id : Chart.ComponentId) : Option Chart.Component :=
  (program.subchart? place).bind fun subchart => subchart.flowchart.get? id

def start? (program : Program) (place : Nat) : Option (Chart.ComponentId × Chart.Component) :=
  (program.subchart? place).bind fun subchart =>
    subchart.flowchart.rootComponent?.map fun root => (subchart.flowchart.root, root)

end Program

end Flowline
