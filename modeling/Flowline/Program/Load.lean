import Flowline.Chart.OfGraph
import Flowline.Program.Basic
import Flowline.Program.Fault
import Flowline.Record.Decode

set_option autoImplicit false

/-!
Programs out of streams. A program is a sequence of messages: the version, the master mode and the number
of subcharts; the header of each subchart; the flowchart of each subchart with an array behind it; the log,
a boolean and an identifier.
-/

namespace Flowline.Program

open Flowline.Graph (ClassKind Message)

abbrev Take (α : Type) := StateT (List Message) (Except Fault) α

namespace Take

def fail {α : Type} (fault : Fault) : Take α := fun _ => .error fault

def next (wanted : Wanted) : Take Message
  | [] => .error (.ended wanted)
  | message :: rest => .ok (message, rest)

def refuse {α : Type} (wanted : Wanted) (message : Message) : Take α :=
  fail (.unexpected wanted (message.root?.map RootKind.ofObject))

def expect {α : Type} (wanted : Wanted) (message : Message) : Option α → Take α
  | some value => return value
  | none => refuse wanted message

def rootOf? (kind : ClassKind) (message : Message) : Option Graph.Instance :=
  message.rootInstance?.filter fun self => self.kind = kind

def record {α : Type} (kind : ClassKind) (content : Message → Graph.Instance → Option α) : Take α := do
  let message ← next (.record kind)
  let self ← expect (.record kind) message (rootOf? kind message)
  expect (.record kind) message (content message self)

def int : Take Int32 := record .systemInt32 fun _ self => self.int? "m_value"

def bool : Take Bool := record .systemBoolean fun _ self => self.boolean? "m_value"

def text? (message : Message) : Option String :=
  match message.root? with
  | some (.string text) => some text
  | _ => none

def name : Take String := do
  let message ← next .name
  expect .name message (text? message)

def int? : Take (Option Int32) := fun messages =>
  match messages.head?.bind (rootOf? .systemInt32) with
  | some _ => (do return some (← int) : Take (Option Int32)) messages
  | none => .ok (none, messages)

def trailer : Take Message := do
  let message ← next .array
  match message.root? with
  | some (.array _) => return message
  | _ => refuse .array message

def flowchart : Take Flowchart := do
  let message ← next .component
  match Flowchart.ofGraph message.graph message.rootId with
  | .ok flowchart => return flowchart
  | .error fault => fail (.chart fault)

def finish : Take Unit := fun messages =>
  if messages.isEmpty then .ok ((), messages) else .error (.trailing messages.length)

end Take

structure Header where
  name : String
  kind : Int32
  extra : Option Int32
deriving DecidableEq, Repr

def takeHeader : Take Header := do
  let name ← Take.name
  let kind ← Take.record .subchartKind fun _ self => self.int? "value__"
  let extra ← Take.int?
  return ⟨name, kind, extra⟩

def takeHeaders : Nat → Take (List Header)
  | 0 => return []
  | count + 1 => do
      let header ← takeHeader
      let others ← takeHeaders count
      return header :: others

def defineSubchart (registry : Registry) (name : String) (place : Nat) : Take Registry :=
  match registry.defineSubchart? name place with
  | some registry => return registry
  | none => Take.fail (.duplicateSubchart name)

def takeSubcharts (registry : Registry) (place : Nat) : List Header → Take (List Subchart × Registry)
  | [] => return ([], registry)
  | header :: headers => do
      let flowchart ← Take.flowchart
      let trailer ← Take.trailer
      let registry ← defineSubchart registry header.name place
      let (others, registry) ← takeSubcharts registry (place + 1) headers
      return (⟨header.name, header.kind, header.extra, flowchart, trailer⟩ :: others, registry)

def takeCount : Take Nat := do
  let count ← Take.int
  if count ≤ 0 then Take.fail (.noSubcharts count) else return count.toInt.toNat

def takeProgram : Take Program := do
  let version ← Take.int
  let masterMode ← Take.bool
  let count ← takeCount
  let headers ← takeHeaders count
  let (subcharts, registry) ← takeSubcharts .standard 0 headers
  let log ← Take.record .loggingInfo fun message self => some (Log.ofInstance message.graph self)
  let _ ← Take.bool
  let _ ← Take.record .systemGuid fun _ _ => some ()
  Take.finish
  return ⟨version, masterMode, log, subcharts, registry⟩

def ofMessages (messages : List Message) : Except Fault Program := takeProgram.run' messages

def load (bytes : List UInt8) : Except LoadError Program :=
  match Record.decode bytes with
  | .error fault => .error (.stream fault)
  | .ok messages =>
      match ofMessages messages with
      | .ok program => .ok program
      | .error fault => .error (.shape fault)

end Flowline.Program
