import Flowline.Program.Basic
import Flowline.Text.Quoted

set_option autoImplicit false

namespace Flowline.Program

open Chart (Component ComponentId)

def textOr {α : Type} [ToString α] (missing : String) : Option α → String
  | some value => toString value
  | none => missing

def padLeft (width : Nat) (text : String) : String :=
  String.ofList (List.replicate (width - text.length) ' ') ++ text

def linkText (link : Option ComponentId) : String := textOr "-" link

def componentText (component : Component) : String :=
  let label := Text.quoted component.label
  let next := " -> " ++ linkText component.successor
  match component.role with
  | .terminal => "terminal " ++ label ++ next
  | .entry => "procedure " ++ label ++ next
  | .assignment => "assign " ++ label ++ next
  | .call => "call " ++ label ++ next
  | .decision yes no => "if " ++ label ++ " yes " ++ linkText yes ++ " no " ++ linkText no ++ next
  | .loop before after =>
      "loop until " ++ label ++ " before " ++ linkText before ++ " after " ++ linkText after ++ next
  | .output _ => "output " ++ label ++ next
  | .input prompt => "input " ++ label ++ " prompt " ++ Text.quoted prompt ++ next

def componentLine (id : ComponentId) (component : Component) : String :=
  "  " ++ padLeft 5 (toString id) ++ "  " ++ componentText component ++ "\n"

def componentLines (chart : Flowchart) (ids : List ComponentId) : List String :=
  ids.filterMap fun id => (chart.get? id).map (componentLine id)

def logLine (entry : LogEntry) : String :=
  "  " ++ textOr "?" entry.user ++ " @ " ++ textOr "?" entry.machine ++ " ticks " ++
    textOr "?" entry.ticks ++ " kind " ++ textOr "?" entry.kind ++ "\n"

def extraText : Option Int32 → String
  | some extra => ", magic " ++ toString extra
  | none => ""

def subchartText (place : Nat) (subchart : Subchart) : String :=
  "\nsubchart " ++ toString place ++ " '" ++ subchart.name ++ "' (kind " ++ toString subchart.kind ++
    extraText subchart.extra ++ "):\n" ++
    String.join (componentLines subchart.flowchart subchart.flowchart.walk)

def report (program : Program) : String :=
  "version: " ++ toString program.version ++ "\nmaster mode: " ++ toString program.masterMode ++
    "\nlog entries: " ++ toString program.log.count ++ "\n" ++
    String.join (program.log.entries.map logLine) ++
    String.join (program.subcharts.zipIdx.map fun (subchart, place) => subchartText place subchart)

end Flowline.Program
