import RouteFeed.Source

/-! A source that plays a script: it stands for any source in rehearsals of a session. Its script
says for each pull what becomes known, whether the pull fails or waits, how it takes being
interrupted, and which record it gives. -/
namespace RouteFeed

/-- How a waiting pull takes being interrupted. -/
inductive Reaction where
  | yields
  | fails (failure : Failure)
  | ignores

/-- One step of a script; its parts come in this order. -/
structure ScriptEvent where
  notices : List Notice := []
  failure : Option Failure := none
  waits : Bool := false
  reaction : Reaction := .yields
  record : Option Record := none

/-- A source with a script, and what has been done to it so far. -/
structure ScriptedSource where
  events : List ScriptEvent := []
  openFailure : Option Failure := none
  closeFailure : Option Failure := none
  /-- The dump of every record, in place of the usual one. -/
  dumpLines : Option (List String) := none
  /-- Pass over the records that the filters do not admit. -/
  filtered : Bool := false
  /-- Wait for more after the script, if opened to wait. -/
  endless : Bool := false
  config : Option StreamConfig := none
  isOpen : Bool := false
  closeCalls : Nat := 0
  cancels : Nat := 0
  /-- For each record handed over: its pull had been interrupted before. -/
  handedLate : List Bool := []

namespace ScriptedSource

/-- The record is not passed over: the filters admit its time, project and collector. -/
def admits (s : ScriptedSource) (r : Record) : Bool :=
  match s.config with
  | none => true
  | some c =>
    !s.filtered || (c.filters.matchesTime r.time && c.filters.matchesProject r.project &&
      c.filters.matchesCollector r.collector)

def interrupted (s : ScriptedSource) : ScriptedSource := { s with cancels := s.cancels + 1 }

def handOver (s : ScriptedSource) (late : Bool) (r : Record) : Pull ScriptedSource :=
  .done (.ok (some r)) { s with handedLate := s.handedLate ++ [late] }

/-- What comes before the other parts of a step. -/
def announce (notices : List Notice) (p : Pull ScriptedSource) : Pull ScriptedSource :=
  notices.foldr .notice p

def play : ScriptedSource → List ScriptEvent → Pull ScriptedSource
  | s, [] =>
    let s := { s with events := [] }
    if s.endless && s.config.any StreamConfig.blocking then
      .stall s (.done (.error .cancelled) s.interrupted)
    else .done (.ok none) s
  | s, e :: rest =>
    let s := { s with events := rest }
    announce e.notices <|
      match e.failure with
      | some f => .done (.error f) s
      | none =>
        if e.waits then
          .stall s <|
            match e.reaction with
            | .yields => .done (.error .cancelled) s.interrupted
            | .fails f => .done (.error f) s.interrupted
            | .ignores =>
              match e.record with
              | none => .done (.ok none) s.interrupted
              | some r =>
                if s.admits r then s.interrupted.handOver true r else play s.interrupted rest
        else
          match e.record with
          | none => play s rest
          | some r => if s.admits r then s.handOver false r else play s rest

instance : Source ScriptedSource where
  start s config :=
    let s := { s with config := some config }
    match s.openFailure with
    | some f => { result := .error f, source := s }
    | none => { result := .ok (), source := { s with isOpen := true } }
  pull s := s.play s.events
  close s :=
    let s := { s with closeCalls := s.closeCalls + 1, isOpen := false }
    match s.closeFailure with
    | some f => (.error f, s)
    | none => (.ok (), s)
  dump s record :=
    match s.dumpLines with
    | some lines => (.ok (lines.map Points.ofString), record)
    | none => record.dump
  aftermath _ := []

end ScriptedSource
end RouteFeed
