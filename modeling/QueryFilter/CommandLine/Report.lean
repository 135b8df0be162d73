import QueryFilter.CommandLine.Style
import QueryFilter.Config
import QueryFilter.Json.Decode
import QueryFilter.Json.Print
import QueryFilter.Mongo
import QueryFilter.Sql

/-!
# Reports

What the program prints about an input: the filter in the configured language, or an explanation with the
tree of the condition and both languages. A report is the text printed so far and the fault that ended it,
if any; an explanation has printed its heading and its input before the filter is read. The input is decoded by
whatever decoder the program is given, and a fault carries what the decoder says about it.
-/

namespace QueryFilter
namespace CommandLine

/-- Why the program fails. -/
inductive RunFault
  /-- The configuration cannot be used. -/
  | config (fault : ConfigFault)
  /-- The file with the filter cannot be read. -/
  | unreadableFile (path : String) (fault : ReadFault)
  /-- Standard input cannot be read. -/
  | unreadableInput (fault : ReadFault)
  /-- The input is no Json text, for a reason in the words of the decoder. -/
  | notJson (reason : String)
  /-- The filter is rejected. -/
  | rejected (fault : Fault)
  deriving DecidableEq, Repr

namespace RunFault

/-- What is said about an input that is no Json text, in front of the words of the decoder. -/
def notJson.message : String :=
  "filter is not valid JSON"

/-- The text of a fault. -/
def message : RunFault → String
  | .config fault =>
      fault.message
  | .unreadableFile path fault =>
      "failed to read " ++ path ++ ": " ++ fault.message
  | .unreadableInput fault =>
      "failed to read stdin: " ++ fault.message
  | .notJson reason =>
      notJson.message ++ ": " ++ reason
  | .rejected fault =>
      fault.message

end RunFault

/-- What has been printed, and the fault that ended it. -/
structure Report where
  /-- The printed text. -/
  output : String
  /-- The fault, if the report is not complete. -/
  fault? : Option RunFault
  deriving DecidableEq, Repr

/-- The filter of an input. -/
def filterOf (decode : Json.Decoder) (input : String) : Except RunFault Filter :=
  match decode input with
  | .error reason =>
      .error (.notJson reason)
  | .ok value =>
      match Filter.ofRequest value with
      | .ok filter =>
          .ok filter
      | .error fault =>
          .error (.rejected fault)

/-- The fragment of a filter without the blanks at its start. -/
def bareSql (filter : Filter) : String :=
  String.ofList (Text.trimStart filter.sql.toList)

/-- A filter in a language. -/
def written (backend : Backend) (pretty : Bool) (filter : Filter) : String :=
  match backend with
  | .mysql =>
      bareSql filter
  | .mongo =>
      filter.mongo.text pretty

/-- A line of output. -/
def line (text : String) : String :=
  text ++ "\n"

/-- Lines of output. -/
def lines (texts : List String) : String :=
  String.join (texts.map line)

/-- Print an input in the configured language. -/
def render (decode : Json.Decoder) (config : Config) (input : String) : Report :=
  match filterOf decode input with
  | .ok filter =>
      { output := line (written config.backend config.pretty filter), fault? := none }
  | .error fault =>
      { output := "", fault? := some fault }

/-- The space in front of a line of the tree. -/
def indent (depth : Nat) : String :=
  String.ofList (List.replicate (2 * depth) ' ')

/-- A comparison in one line. -/
def comparisonLine (color : Bool) (comparison : Comparison) : String :=
  Style.name.paint color comparison.property ++ " " ++
    Style.keyword.paint color comparison.op.sql ++ " " ++
    Style.value.paint color comparison.value.literal

/-- A membership test in one line, with its tag at the end. -/
def membershipLine (color : Bool) (membership : Membership) : String :=
  Style.name.paint color membership.property ++ " " ++
    Style.keyword.paint color membership.op.sql ++ " (" ++
    Style.value.paint color membership.literals ++ ") " ++
    Style.label.paint color ("<" ++ membership.datatype.name ++ ">")

mutual

/-- The lines of a tree, one for each condition, its children below it and one level deeper. -/
def treeLines (color : Bool) (depth : Nat) : Condition → List String
  | .group connective children =>
      (indent depth ++ "[" ++ Style.keyword.paint color connective.sql ++ "]") ::
        forestLines color (depth + 1) children
  | .compare comparison =>
      [indent depth ++ comparisonLine color comparison]
  | .member membership =>
      [indent depth ++ membershipLine color membership]

/-- The lines of several trees one after another. -/
def forestLines (color : Bool) (depth : Nat) : List Condition → List String
  | [] =>
      []
  | first :: rest =>
      treeLines color depth first ++ forestLines color depth rest

end

theorem forestLines_eq_flatMap
    (color : Bool)
    (depth : Nat)
    (conditions : List Condition) :
    forestLines color depth conditions = conditions.flatMap (treeLines color depth) := by
  induction conditions with
  | nil => rfl
  | cons first rest inductionHypothesis => simp [forestLines, inductionHypothesis]

/-- The lines about the condition of a filter. -/
def conditionLines (color : Bool) : Option Condition → List String
  | none =>
      ["  " ++ Style.label.paint color "(no where)"]
  | some condition =>
      treeLines color 1 condition

/-- The line about a part of a filter that is set. -/
def partLines (color : Bool) (label : String) (text? : Option String) : List String :=
  (text?.map fun text =>
    "  " ++ Style.label.paint color label ++ " " ++ Style.name.paint color text).toList

/-- A heading and a text below it. -/
def sectionLines (color : Bool) (heading text : String) : List String :=
  ["", Style.heading.paint color heading, "  " ++ Style.name.paint color text]

/-- The lines of an explanation above the filter. -/
def openingLines (color : Bool) (input : String) : List String :=
  [Style.title.paint color "qfilter explanation",
    "",
    Style.label.paint color "Input:" ++ " " ++
      Style.value.paint color (String.ofList (Text.trim input.toList)),
    ""]

/-- The lines of an explanation about the filter. -/
def filterLines (color pretty : Bool) (filter : Filter) : List String :=
  [Style.heading.paint color "Parsed Structure:"] ++
    conditionLines color filter.condition ++
    partLines color "Order:" (filter.order.map Order.sql) ++
    partLines color "Limit:" (filter.limit.map Filter.countText) ++
    partLines color "Skip:" (filter.skip.map Filter.countText) ++
    sectionLines color "Generated SQL:" (written .mysql pretty filter) ++
    sectionLines color "MongoDB:" (written .mongo pretty filter)

/-- Explain an input. -/
def explain (decode : Json.Decoder) (config : Config) (input : String) : Report :=
  let opening := lines (openingLines config.color input)
  match filterOf decode input with
  | .ok filter =>
      { output := opening ++ lines (filterLines config.color config.pretty filter), fault? := none }
  | .error fault =>
      { output := opening, fault? := some fault }

end CommandLine
end QueryFilter
