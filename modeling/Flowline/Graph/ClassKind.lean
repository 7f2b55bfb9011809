set_option autoImplicit false

namespace Flowline.Graph

abbrev LibraryId := Int32

def systemLibrary : LibraryId := 0

def componentLibrary : LibraryId := 2

def drawingLibrary : LibraryId := 3

inductive ClassKind where
  | systemInt32
  | systemBoolean
  | systemGuid
  | drawingRectangle
  | subchartKind
  | eventKind
  | rectangleKind
  | loggingInfo
  | oval
  | ovalProcedure
  | rectangle
  | ifControl
  | loop
  | parallelogram
  | commentBox
  | footPrint
deriving DecidableEq, Repr

namespace ClassKind

def all : List ClassKind :=
  [.systemInt32, .systemBoolean, .systemGuid, .drawingRectangle, .subchartKind, .eventKind,
    .rectangleKind, .loggingInfo, .oval, .ovalProcedure, .rectangle, .ifControl, .loop, .parallelogram,
    .commentBox, .footPrint]

-- The qualified name of a class. A class inside of another has the name of that one in front.
def name : ClassKind → String
  | .systemInt32 => "System.Int32"
  | .systemBoolean => "System.Boolean"
  | .systemGuid => "System.Guid"
  | .drawingRectangle => "System.Drawing.Rectangle"
  | .subchartKind => "raptor.Subchart_Kinds"
  | .eventKind => "raptor.logging_info+event_kind"
  | .rectangleKind => "raptor.Rectangle+Kind_Of"
  | .loggingInfo => "raptor.logging_info"
  | .oval => "raptor.Oval"
  | .ovalProcedure => "raptor.Oval_Procedure"
  | .rectangle => "raptor.Rectangle"
  | .ifControl => "raptor.IF_Control"
  | .loop => "raptor.Loop"
  | .parallelogram => "raptor.Parallelogram"
  | .commentBox => "raptor.CommentBox"
  | .footPrint => "raptor.Component+FootPrint"

def library : ClassKind → LibraryId
  | .systemInt32 | .systemBoolean | .systemGuid => systemLibrary
  | .drawingRectangle => drawingLibrary
  | _ => componentLibrary

def label : ClassKind → String
  | .systemInt32 => "SystemInt32"
  | .systemBoolean => "SystemBoolean"
  | .systemGuid => "SystemGuid"
  | .drawingRectangle => "DrawingRectangle"
  | .subchartKind => "SubChartKind"
  | .eventKind => "EventKind"
  | .rectangleKind => "RectangleKind"
  | .loggingInfo => "LoggingInfo"
  | .oval => "Oval"
  | .ovalProcedure => "OvalProcedure"
  | .rectangle => "Rectangle"
  | .ifControl => "IfControl"
  | .loop => "Loop"
  | .parallelogram => "Parallelogram"
  | .commentBox => "CommentBox"
  | .footPrint => "FootPrint"

def isComponent : ClassKind → Bool
  | .oval | .ovalProcedure | .rectangle | .ifControl | .loop | .parallelogram => true
  | _ => false

def fields : ClassKind → List String
  | .systemInt32 | .systemBoolean => ["m_value"]
  | .systemGuid => ["_a", "_b", "_c", "_d", "_e", "_f", "_g", "_h", "_i", "_j", "_k"]
  | .drawingRectangle => ["x", "y", "width", "height"]
  | .subchartKind | .eventKind | .rectangleKind => ["value__"]
  | .loggingInfo => ["_count"]
  | .oval | .ovalProcedure => ["_text_str", "_Successor"]
  | .rectangle => ["_text_str", "_Successor", "_kind"]
  | .ifControl => ["_text_str", "_Successor", "_left_Child", "_right_Child"]
  | .loop => ["_text_str", "_Successor", "_before_Child", "_after_Child"]
  | .parallelogram => ["_text_str", "_Successor", "_prompt", "_is_input"]
  | .commentBox | .footPrint => []

def resolve? (library : LibraryId) (name : String) : Option ClassKind :=
  all.find? fun kind => kind.library = library && kind.name = name

end ClassKind

end Flowline.Graph
