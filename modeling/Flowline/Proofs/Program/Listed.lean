import Flowline.Program.Report
import Flowline.Proofs.Chart.Preorder
import Flowline.Proofs.Program.Calls

set_option autoImplicit false

namespace Flowline.Program

open Flowline.Graph (ClassKind Member Object)

def heading (place : Nat) (subchart : Subchart) : String :=
  "\nsubchart " ++ toString place ++ " '" ++ subchart.name ++ "' (kind " ++ toString subchart.kind ++
    extraText subchart.extra ++ "):\n"

end Flowline.Program
