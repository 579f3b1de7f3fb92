import RouteFeed.Filter
import RouteFeed.Record

/-! The archive library, as its client sees it: the calls that configure and start a stream, and
the records that the stream hands out one by one. -/
namespace RouteFeed.Archive

/-- A call that configures or starts a stream. -/
inductive LibraryCall where
  | setInterface (name : String)
  | setOption (interface name value : String)
  | addFilter (kind : String) (value : Given String)
  | addInterval (w : TimeWindow)
  | addPeriod (seconds : Int)
  | setLive
  | start
  deriving DecidableEq

def LibraryCall.method : LibraryCall → String
  | setInterface _ => "set_data_interface"
  | setOption _ _ _ => "set_data_interface_option"
  | addFilter _ _ => "add_filter"
  | addInterval _ => "add_interval_filter"
  | addPeriod _ => "add_rib_period_filter"
  | setLive => "set_live_mode"
  | start => "start"

structure RawRecord where
  time : Value
  project : String
  collector : String
  type : Value
  position : Value
  status : Value
  dumpTime : Value
  entries : List RawEntry

/-- What the library comes to when it is asked for the next record. -/
inductive LibraryEntry where
  | record (raw : RawRecord)
  | fails (failure : Failure)
  /-- The call does not return until it is released; then it fails, or there is no record. The
  process may be told to end meanwhile. -/
  | blocks (failure : Option Failure) (signals : Bool)

/-- The library, with what it will do and what has been asked of it. -/
structure Library where
  installed : Bool := true
  makeFailure : Option Failure := none
  /-- Calls that fail whenever they are made, by their names. -/
  failures : List (String × Failure) := []
  /-- How a call fails behind the calls made before. -/
  lapse? : List LibraryCall → LibraryCall → Option Failure := fun _ _ => none
  entries : List LibraryEntry := []
  calls : List LibraryCall := []

namespace Library

def failure? (l : Library) (method : String) : Option Failure :=
  (l.failures.find? fun f => f.1 == method).map Prod.snd

def fault? (l : Library) (c : LibraryCall) : Option Failure :=
  (l.failure? c.method).or (l.lapse? l.calls c)

def note (l : Library) (c : LibraryCall) : Library := { l with calls := l.calls ++ [c] }

def perform (l : Library) (c : LibraryCall) : Except Failure Unit × Library :=
  match l.fault? c with
  | some f => (.error f, l.note c)
  | none => (.ok (), l.note c)

/-- Make calls up to the first that fails. -/
def performAll (l : Library) : List LibraryCall → Except Failure Unit × Library
  | [] => (.ok (), l)
  | c :: cs =>
    match l.perform c with
    | (.error f, l) => (.error f, l)
    | (.ok (), l) => l.performAll cs

/-- The next record does not come until it is released. -/
def isBlocked (l : Library) : Bool :=
  match l.entries with
  | .blocks _ _ :: _ => (l.failure? "get_next_record").isNone
  | _ => false

/-- The process is told to end while the library is blocked. -/
def signals (l : Library) : Bool :=
  match l.entries with
  | .blocks _ signals :: _ => signals
  | _ => false

def next (l : Library) : Except Failure (Option RawRecord) × Library :=
  match l.failure? "get_next_record" with
  | some f => (.error f, l)
  | none =>
    match l.entries with
    | [] => (.ok none, l)
    | .record raw :: entries => (.ok (some raw), { l with entries })
    | .fails f :: entries => (.error f, { l with entries })
    | .blocks (some f) _ :: entries => (.error f, { l with entries })
    | .blocks none _ :: entries => (.ok none, { l with entries })

end Library

namespace RawRecord

/-- The positions by their names; every other one is in the middle. -/
def positionOf (v : Value) : DumpPosition :=
  match v.string? with
  | some "start" => .start
  | some "end" => .finish
  | _ => .middle

/-- The statuses by their names; every other one is a corrupted record. -/
def statusOf (v : Value) : RecordStatus :=
  match v.string? with
  | some "valid" => .valid
  | some "filtered-source" => .filteredSource
  | some "outside-interval" => .filteredSource
  | some "empty-source" => .emptySource
  | some "corrupted-source" => .corruptedSource
  | _ => .corruptedRecord

def checkKey (v : Value) : Except Failure Unit :=
  match v with
  | .list _ | .object _ => .error (.wrongShape s!"unhashable type: '{v.shape}'")
  | _ => .ok ()

def typeOf (v : Value) : DumpType :=
  match v.string? with
  | some "rib" => .rib
  | _ => .update

/-- The record that the library's record stands for. Its elements are converted on demand. -/
def convert (raw : RawRecord) : Except Failure Record := do
  let time ← raw.time.toInteger
  checkKey raw.position
  checkKey raw.status
  let dumpTime ← raw.dumpTime.toInteger
  return {
    time, project := raw.project, collector := raw.collector, dumpType := typeOf raw.type
    dumpPosition := positionOf raw.position, status := statusOf raw.status, dumpTime
    payload := .pending raw.entries }

end RawRecord
end RouteFeed.Archive
