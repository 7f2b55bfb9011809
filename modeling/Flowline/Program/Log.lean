import Flowline.Graph.Object
import Flowline.Text.Numeral

set_option autoImplicit false

namespace Flowline.Program

open Flowline.Graph (Instance Member)

structure LogEntry where
  user : Option String
  machine : Option String
  -- Tenths of a microsecond since the first day of the first year.
  ticks : Option UInt64
  kind : Option Int32
deriving DecidableEq, Repr

def LogEntry.empty : LogEntry := ⟨none, none, none, none⟩

structure Log where
  count : Int32
  entries : List LogEntry
deriving DecidableEq, Repr

def stem (name : String) : String :=
  String.ofList (name.toList.reverse.dropWhile Char.isDigit).reverse

def trailingDigits (name : String) : List Char := (name.toList.reverse.takeWhile Char.isDigit).reverse

def entryNumber? (name : String) : Option Nat := Text.naturalBelow? Text.wordLimit (trailingDigits name)

def LogEntry.note (entry : LogEntry) (graph : Graph) (name : String) (member : Member) : LogEntry :=
  match name, member with
  | "_user", .ref id => { entry with user := Graph.string? graph id }
  | "_machine", .ref id => { entry with machine := Graph.string? graph id }
  | "_date", .primitive value => { entry with ticks := value.ticks? }
  | "_kind", .ref id => { entry with kind := (Graph.instance? graph id).bind (·.int? "value__") }
  | "_kind", .primitive (.int32 value) => { entry with kind := some value }
  | _, _ => entry

def logEntries (graph : Graph) (members : List (String × Member)) : Table Nat LogEntry .ascending :=
  members.foldl (fun entries (name, member) =>
    match entryNumber? name with
    | none => entries
    | some number =>
        entries.insert number (((entries.get? number).getD .empty).note graph (stem name) member)) ∅

def Log.ofInstance (graph : Graph) (self : Instance) : Log :=
  ⟨(self.int? "_count").getD 0, (logEntries graph self.members).values⟩

end Flowline.Program
