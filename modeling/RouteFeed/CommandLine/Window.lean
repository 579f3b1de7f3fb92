import RouteFeed.Filter
import RouteFeed.Text.Cut

/-! Time windows as they are written on the command line: two integers with a comma between. -/
namespace RouteFeed.TimeWindow

def ofText? (cs : List Char) : Option TimeWindow :=
  match Text.cutFirst? ',' cs with
  | none => none
  | some (a, b) =>
    match Number.readInteger a, Number.readInteger b with
    | .ok start, .ok finish => some ⟨start, finish⟩
    | _, _ => none

def malformed (text : String) : Failure :=
  ⟨.badArgument, s!"Malformed time window ({text}). Expecting start,end"⟩

/-- The window that a text writes, or the failure that quotes it. -/
def parse (text : String) : Except Failure TimeWindow :=
  match ofText? text.toList with
  | some w => .ok w
  | none => .error (malformed text)

end RouteFeed.TimeWindow
