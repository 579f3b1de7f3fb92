import RouteFeed.Given
import RouteFeed.Value.Access

/-! Filters of a stream: inclusion lists for projects, collectors and record types, time windows,
and a replay period. Filters of one kind are alternatives; the kinds combine. -/
namespace RouteFeed

inductive FilterKind where
  | project
  | collector
  | recordType
  deriving DecidableEq

namespace FilterKind

def name : FilterKind → String
  | project => "project"
  | collector => "collector"
  | recordType => "record-type"

def all : List FilterKind := [project, collector, recordType]

def ofName (s : String) : Except Failure FilterKind :=
  (Value.text s).choose (all.map fun k => (k.name, k)) "FilterKind"

end FilterKind

/-- One inclusion filter. The source matches the value as it is. -/
structure FilterEntry where
  kind : FilterKind
  value : Given String
  deriving DecidableEq

/-- A time window in seconds, both ends included. Nothing lies in a window that ends before it
starts. -/
structure TimeWindow where
  start : Int
  finish : Int
  deriving DecidableEq

/-- The number lies in the window. -/
def TimeWindow.contains (w : TimeWindow) (time : Int) : Bool :=
  w.start ≤ time && time ≤ w.finish

/-- A value lies in the window; what is no number cannot be compared. -/
def TimeWindow.containsValue (w : TimeWindow) : Value → Except Failure Bool
  | .int n => .ok (w.contains n)
  | .bool b => .ok (w.contains (if b then 1 else 0))
  | .real x => .ok (x.geInt w.start && x.leInt w.finish)
  | v => .error (.wrongShape s!"'<=' not supported between instances of 'int' and '{v.shape}'")

/-- Some window of a list holds the value; the windows after the first that does are not asked. -/
def TimeWindow.anyContains (v : Value) : List TimeWindow → Except Failure Bool
  | [] => .ok false
  | w :: ws =>
    match w.containsValue v with
    | .error f => .error f
    | .ok true => .ok true
    | .ok false => anyContains v ws

def Given.toValue : Given String → Value
  | .value s => .text s
  | .erased => .list []

/-- The filters as a source sees them. -/
structure StreamFilters where
  projects : List (Given String) := []
  collectors : List (Given String) := []
  recordTypes : List (Given String) := []
  windows : List TimeWindow := []
  replayPeriod : Option Int := none
  deriving DecidableEq

namespace StreamFilters

def admits (values : List (Given String)) (value : Points) : Bool :=
  values.isEmpty || value.string?.any fun s => values.contains (.value s)

def matchesProject (f : StreamFilters) (project : Points) : Bool := admits f.projects project
def matchesCollector (f : StreamFilters) (collector : Points) : Bool :=
  admits f.collectors collector
def matchesRecordType (f : StreamFilters) (type : String) : Bool := admits f.recordTypes type

def matchesTime (f : StreamFilters) (time : Int) : Bool :=
  f.windows.any fun w => w.contains time

def lastEnd (f : StreamFilters) : Option Int :=
  (f.windows.map TimeWindow.finish).max?

end StreamFilters

/-- The filters gathered so far, in the order in which they were given. -/
structure FilterSet where
  entries : List FilterEntry := []
  windows : List TimeWindow := []
  replayPeriod : Option Int := none
  deriving DecidableEq

namespace FilterSet

def addFilter (s : FilterSet) (kind : FilterKind) (value : Given String) : FilterSet :=
  { s with entries := s.entries ++ [⟨kind, value⟩] }

def addWindow (s : FilterSet) (w : TimeWindow) : FilterSet :=
  { s with windows := s.windows ++ [w] }

/-- Set the replay period; one that is not positive is ignored. -/
def addReplayPeriod (s : FilterSet) (seconds : Int) : FilterSet :=
  if 0 < seconds then { s with replayPeriod := some seconds } else s

def valuesOf (s : FilterSet) (kind : FilterKind) : List (Given String) :=
  (s.entries.filter fun e => e.kind == kind).map FilterEntry.value

def snapshot (s : FilterSet) : StreamFilters where
  projects := s.valuesOf .project
  collectors := s.valuesOf .collector
  recordTypes := s.valuesOf .recordType
  windows := s.windows
  replayPeriod := s.replayPeriod

def addNamed (s : FilterSet) (kind value : String) : Except Failure FilterSet :=
  (FilterKind.ofName kind).map fun k => s.addFilter k (.value value)

def windowOf (start finish : Value) : Except Failure TimeWindow := do
  let a ← start.toInteger
  let b ← finish.toInteger
  return ⟨a, b⟩

/-- A value above zero; what is no number cannot be compared. -/
def isPositive : Value → Except Failure Bool
  | .int n => .ok (0 < n)
  | .bool b => .ok b
  | .real x => .ok (x.gtInt 0)
  | v => .error (.wrongShape s!"'>' not supported between instances of '{v.shape}' and 'int'")

/-- Set the replay period to a value's integer; a value that is not positive is ignored. -/
def addReplayValue (s : FilterSet) (seconds : Value) : Except Failure FilterSet := do
  if ← isPositive seconds then
    let n ← seconds.toInteger
    return { s with replayPeriod := some n }
  else return s

@[simp] theorem valuesOf_addFilter (s : FilterSet) (k kind : FilterKind)
    (value : Given String) :
    (s.addFilter kind value).valuesOf k =
      if kind = k then s.valuesOf k ++ [value] else s.valuesOf k := by
  by_cases h : kind = k <;> simp [valuesOf, addFilter, h]

@[simp] theorem valuesOf_addWindow (s : FilterSet) (k : FilterKind) (w : TimeWindow) :
    (s.addWindow w).valuesOf k = s.valuesOf k := rfl

end FilterSet
end RouteFeed
