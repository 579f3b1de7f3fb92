import RouteFeed.Failure
import RouteFeed.Number.Duration
import RouteFeed.Value

/-! The server of a live feed, as its client sees it: what each request asks for, and what the
reply brings, piece by piece. -/
namespace RouteFeed.Live

/-- A request for the feed. Connecting and writing have a time limit, reading has none. -/
structure Request where
  url : String
  timeLimit : Value

/-- What reading the body of a reply comes to next. -/
inductive Arrival where
  | bytes (bs : List Nat)
  | fails (failure : Failure)
  | stalls
  | pauses (time : Number.Duration)
  /-- The process is told to end, and nothing comes any more. -/
  | signals

structure Reply where
  status : Nat := 200
  headers : List (String × String) := []
  body : List Arrival := []

/-- A header; the case of its name does not matter. Headers of one name are put together with commas
between. -/
def Reply.header? (r : Reply) (name : String) : Option String :=
  match (r.headers.filter fun h => h.1.map Char.toLower == name).map Prod.snd with
  | [] => none
  | values => some (String.intercalate ", " values)

inductive Server where
  | refuses (failure : Failure)
  | replies (reply : Reply)

end RouteFeed.Live
