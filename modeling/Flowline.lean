import Flowline.Text.Printable
import Flowline.Text.Letter
import Flowline.Text.Case
import Flowline.Binary64.Shortest
import Flowline.Binary64.Reading
import Flowline.Binary64.Trigonometry
import Flowline.Number.Text
import Flowline.Table
import Flowline.Label.Parse
import Flowline.Value.Convert
import Flowline.Value.Render
import Flowline.Evaluate
import Flowline.Record.Fault
import Flowline.Record.Advance
import Flowline.Record.Decode
import Flowline.Table.Lookup
import Flowline.Chart.OfGraph
import Flowline.Program.Load
import Flowline.Execution.Step
import Flowline.Main
import Flowline.Proofs.Record.RoundTrip
import Flowline.Proofs.Execution.Soundness
import Flowline.Proofs.Execution.Answer
import Flowline.Proofs.Execution.Refinement
import Flowline.Proofs.Record.Moved
import Flowline.Proofs.Record.Streams
import Flowline.Proofs.Record.Changes
import Flowline.Proofs.Record.Coherent
import Flowline.Proofs.Record.Typed
import Flowline.Proofs.Store.Memory
import Flowline.Proofs.Store.Locations
import Flowline.Proofs.Store.Usage
import Flowline.Proofs.Store.Heights
import Flowline.Proofs.Label.Parses
import Flowline.Proofs.Store.Quiet
import Flowline.Proofs.Store.Sharing
import Flowline.Proofs.Execution.Arguments
import Flowline.Proofs.Execution.Isolation
import Flowline.Proofs.Execution.Redundant
import Flowline.Proofs.Program.Shape
import Flowline.Proofs.Chart.Described
import Flowline.Proofs.Chart.Reached
import Flowline.Proofs.Record.Narrow
import Flowline.Proofs.Label.Callee
import Flowline.Proofs.Program.Calls
import Flowline.Proofs.Execution.Activations
import Flowline.Proofs.Store.Blind
import Flowline.Proofs.Program.Words
import Flowline.Proofs.Execution.Seeds
import Flowline.Proofs.Store.Growth
import Flowline.Proofs.Store.Failure
import Flowline.Proofs.Store.Elements
import Flowline.Proofs.Value.Cycles
import Flowline.Proofs.Label.Blanks
import Flowline.Proofs.Store.Unchanged
import Flowline.Proofs.Record.Bookkeeping
import Flowline.Proofs.Program.Listed
import Flowline.Proofs.Record.Lengths
import Flowline.Proofs.Table.Mapping
import Flowline.Proofs.Value.Comparison
import Flowline.Proofs.Program.Entries
