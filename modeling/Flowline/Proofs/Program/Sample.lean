import Flowline.Proofs.Record.Layout
import Flowline.Program.Load

set_option autoImplicit false

namespace Flowline.Sample

open Flowline.Graph (ClassInfo ClassKind LibraryId MemberInfo ObjectId Primitive systemLibrary)
open Flowline.Record (Piece)

def message (pieces : List Piece) : List UInt8 := Record.Layout.bytes ⟨⟨1, -1, 1, 0⟩, pieces⟩

def declared (kind : ClassKind) (id : ObjectId) (members : List (MemberInfo × Piece)) : Piece :=
  .object id ⟨kind.name, kind, kind.library, members.map Prod.fst⟩ (.full (kind.library ≠ systemLibrary))
    (members.map Prod.snd)

def plain (field : String) (value : Primitive) : MemberInfo × Piece := (⟨field, .primitive value.kind⟩, .plain value)

def single (kind : ClassKind) (members : List (MemberInfo × Piece)) : List UInt8 :=
  message [.library kind.library "", declared kind 1 members]

def number (value : Int32) : List UInt8 := single .systemInt32 [plain "m_value" (.int32 value)]

def boolean (value : Bool) : List UInt8 := single .systemBoolean [plain "m_value" (.boolean value)]

def name (text : String) : List UInt8 := message [.string 1 text] ++ single .subchartKind [plain "value__" (.int32 0)]

def link (field : String) : Option ObjectId → MemberInfo × Piece
  | some id => (⟨field, .object⟩, .reference id)
  | none => (⟨field, .object⟩, .nulls .one)

def component (kind : ClassKind) (id : ObjectId) (text : String) (next : Option ObjectId)
    (members : List (MemberInfo × Piece)) : Piece :=
  declared kind id ((⟨"_text_str", .object⟩, .string (id + 100) text) :: link "_Successor" next :: members)

def terminal (id : ObjectId) (text : String) (next : Option ObjectId) : Piece := component .oval id text next []

def entry (id : ObjectId) (text : String) (next : Option ObjectId) : Piece := component .ovalProcedure id text next []

def assignment (id : ObjectId) (text : String) (next : Option ObjectId) : Piece :=
  component .rectangle id text next [plain "_kind" (.int32 0)]

def call (id : ObjectId) (text : String) (next : Option ObjectId) : Piece :=
  component .rectangle id text next [plain "_kind" (.int32 1)]

def loop (id : ObjectId) (text : String) (next before after : Option ObjectId) : Piece :=
  component .loop id text next [link "_before_Child" before, link "_after_Child" after]

def decision (id : ObjectId) (text : String) (next yes no : Option ObjectId) : Piece :=
  component .ifControl id text next [link "_left_Child" yes, link "_right_Child" no]

def input (id : ObjectId) (text : String) (next : Option ObjectId) : Piece :=
  component .parallelogram id text next [link "_prompt" none, plain "_is_input" (.boolean true)]

def output (id : ObjectId) (text : String) (next : Option ObjectId) : Piece :=
  component .parallelogram id text next [link "_prompt" none, plain "_is_input" (.boolean false)]

def chart (pieces : List Piece) : List UInt8 :=
  message (.library Graph.componentLibrary "" :: pieces) ++ message [.array 1 .object 0 .short []]

def program (charts : List (String × List Piece)) : List UInt8 :=
  number 14 ++ boolean false ++ number (Int32.ofNat charts.length) ++ charts.flatMap (fun named => name named.1) ++
    charts.flatMap (fun named => chart named.2) ++ single .loggingInfo [plain "_count" (.int32 0)] ++ boolean true ++
    single .systemGuid (ClassKind.systemGuid.fields.map fun field => plain field (.byte 0))

def loaded (bytes : List UInt8) (loads : (Program.load bytes).isOk = true) : Program :=
  match _result : Program.load bytes with
  | .ok program => program
  | .error _ => nomatch (show False by rw [_result] at loads; cases loads)

theorem load_loaded (bytes : List UInt8) (loads : (Program.load bytes).isOk = true) :
    Program.load bytes = .ok (loaded bytes loads) := by
  simp only [loaded]
  split
  · assumption
  · rename_i failed
    rw [failed] at loads
    cases loads

-- A loop with a branch that leads back to the loop.
def back : List UInt8 :=
  program [("main", [terminal 1 "Start" (some 2), input 2 "n" (some 3), loop 3 "n > 0" (some 5) none (some 4),
    assignment 4 "n := n + 1" (some 3), output 5 "\"bye\"" none])]

theorem back_loads : (Program.load back).isOk = true := by decide +kernel

-- A procedure that ends with an input into what it was called with.
def asking : List UInt8 :=
  program [("main", [terminal 1 "Start" (some 2), call 2 "ask(x)" (some 3), output 3 "x" none]),
    ("ask", [entry 1 "ask(out r)" (some 2), input 2 "r" none])]

theorem asking_loads : (Program.load asking).isOk = true := by decide +kernel

-- A procedure with a parameter of the same name as a variable of its caller, and a reference to one that is new.
def doubling : List UInt8 :=
  program [("main", [terminal 1 "Start" (some 2), assignment 2 "n := 2" (some 3), call 3 "double(n, y)" none]),
    ("double", [entry 1 "double(in n, out m)" (some 2), assignment 2 "n := n + n" (some 3),
      assignment 3 "m := n" none])]

theorem doubling_loads : (Program.load doubling).isOk = true := by decide +kernel

-- A call in upper case of a subchart with a letter that is not of the alphabet of ASCII.
def echoing : List UInt8 :=
  program [("main", [terminal 1 "Start" (some 2), call 2 " (ÉCHO)(x)" none]), ("Écho", [entry 1 "echo(out r)" none])]

theorem echoing_loads : (Program.load echoing).isOk = true := by decide +kernel

-- A subchart with a loop, called in a decision in a loop. All links are to components with higher numbers.
def nesting : List UInt8 :=
  program [("main", [terminal 1 "Start" (some 2), assignment 2 "n := 0" (some 3),
      loop 3 "n > 0" none none (some 4), decision 4 "n = 0" none (some 5) none, call 5 "more" none]),
    ("more", [terminal 1 "Start" (some 2), loop 2 "n > 0" none none (some 3), assignment 3 "n := 1" none])]

theorem nesting_loads : (Program.load nesting).isOk = true := by decide +kernel

end Flowline.Sample
