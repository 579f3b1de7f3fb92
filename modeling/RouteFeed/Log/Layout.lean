import RouteFeed.Log
import RouteFeed.Text.Blank
import RouteFeed.Value.Json

/-! The two forms of a log line: one line of text for a reader, or one JSON object. -/
namespace RouteFeed.LogEntry

inductive Layout where
  | text
  | json
  deriving DecidableEq

def fill (width : Nat) (s : String) : String :=
  s ++ String.ofList (List.replicate (width - s.length) ' ')

def needsQuotes : CodePoint → Bool
  | .half _ => false
  | .char c =>
    c == ' ' || c == '\t' || c == '=' || c == '\r' || c == '\n' || c == '"' || c == '\''

def fieldText : Value → String
  | .text s => if s.any needsQuotes then s.quoted else s.escaped
  | v => v.literal

def sortedFields (entry : LogEntry) : List (String × Value) :=
  entry.fields.mergeSort fun a b => decide (a.1 ≤ b.1)

def textLine (entry : LogEntry) : String :=
  let head := "[" ++ fill 9 entry.level.name ++ "] " ++ fill 30 entry.event
  let fields := entry.sortedFields.map fun (name, v) => name ++ "=" ++ fieldText v
  let line := if fields.isEmpty then head else head ++ " " ++ String.intercalate " " fields
  String.ofList (line.toList.reverse.dropWhile Text.isBlank).reverse

/-- The entry as an object: its fields, its event and its level. -/
def toValue (entry : LogEntry) : Value :=
  let fields := entry.fields ++ [("event", .text entry.event), ("level", .text entry.level.name)]
  .object (fields.map fun (name, v) => (↑name, v))

def line (layout : Layout) (entry : LogEntry) : String :=
  match layout with
  | .text => entry.textLine
  | .json => entry.toValue.json

end RouteFeed.LogEntry
