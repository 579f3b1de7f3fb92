import RouteFeed.CommandLine.Arguments

/-! The filters that the command line asks for. -/
namespace RouteFeed.CommandLine

def addWindows (filters : FilterSet) : List (Given TimeWindow) → Except Failure FilterSet
  | [] => .ok filters
  | .value w :: ws => addWindows (filters.addWindow w) ws
  | .erased :: _ => .error (.lacksOperation (.list []) "start")

/-- The filters of the arguments, each kind in the order of the command line. -/
def Arguments.filters (a : Arguments) : Except Failure FilterSet := do
  let add (kind : FilterKind) (filters : FilterSet) (value : Given String) : FilterSet :=
    filters.addFilter kind value
  let filters := a.projects.foldl (add .project) {}
  let filters := a.collectors.foldl (add .collector) filters
  let filters := a.types.foldl (add .recordType) filters
  let filters ← addWindows filters a.windows
  match a.period with
  | .value seconds => return filters.addReplayPeriod seconds
  | .erased => filters.addReplayValue (.list [])

end RouteFeed.CommandLine
