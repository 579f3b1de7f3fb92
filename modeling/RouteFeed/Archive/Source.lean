import RouteFeed.Archive.Library
import RouteFeed.Archive.Worker
import RouteFeed.Source

/-! The source of one data interface of the archive library. The calls of the library block, so
those that may take long are left to a worker. -/
namespace RouteFeed

open Archive

/-- What the worker is asked to do. -/
inductive Archive.Request where
  | start
  | next

abbrev Archive.StreamWorker := Worker Archive.Request (Except Failure (Option RawRecord))

/-- A data interface of the archive library. -/
structure ArchiveSource where
  interface : String
  library : Library
  worker : Option StreamWorker := none
  former : List StreamWorker := []
  /-- A started stream is held, from which records are read. -/
  hasStream : Bool := false
  isOpen : Bool := false

namespace ArchiveSource

def configuration (interface : String) (config : StreamConfig) : List LibraryCall :=
  let filters := config.filters
  [.setInterface interface] ++
    config.options.map (fun (name, value) => .setOption interface name value) ++
    filters.projects.map (.addFilter "project" ·) ++
    filters.collectors.map (.addFilter "collector" ·) ++
    filters.recordTypes.map (.addFilter "record-type" ·) ++
    filters.windows.map .addInterval ++
    (match filters.replayPeriod with
      | some n => if n = 0 then [] else [.addPeriod n]
      | none => []) ++
    (if config.blocking then [.setLive] else [])

def openFailure (interface : String) (f : Failure) : Failure :=
  .backendInit s!"Could not init BGPStream data interface '{interface}': {f.message}"

def perform (library : Library) : Archive.Request →
    Except Failure (Option RawRecord) × Library
  | .start =>
    let (result, library) := library.perform .start
    (result.map fun () => none, library)
  | .next => library.next

/-- The worker takes its next job and performs it, unless the library blocks it. -/
def work (w : StreamWorker) (library : Library) : StreamWorker × Library :=
  let w := w.begin
  match w.running with
  | none => (w, library)
  | some (_, request) =>
    let blocked := match request with
      | .start => false
      | .next => library.isBlocked
    if blocked then (w, library)
    else
      let (result, library) := perform library request
      ((w.finish result).deliver, library)

/-- Tell the worker to stop. -/
def dismiss (s : ArchiveSource) : ArchiveSource :=
  match s.worker with
  | some w => { s with worker := none, former := s.former ++ [w.shutdown] }
  | none => s

def settled? (w : StreamWorker) (id : Nat) : Option (Except Failure (Option RawRecord)) :=
  match w.promise? id with
  | some (.settled result) => some result
  | _ => none

/-- Make, configure and start a stream. The worker that starts it stays, even if it fails. -/
def launch (s : ArchiveSource) (config : StreamConfig) : Except Failure Unit × ArchiveSource :=
  match s.library.makeFailure with
  | some f => (.error f, s)
  | none =>
    match s.library.performAll (configuration s.interface config) with
    | (.error f, library) => (.error f, { s with library })
    | (.ok (), library) =>
      let (id, w) := Worker.call ({} : StreamWorker) .start
      let (w, library) := work w library
      -- the worker is held before the start is known to have failed
      let s := { s with library, worker := some w }
      match settled? w id with
      | some (.error f) => (.error f, s)
      | _ => (.ok (), s)

def start (s : ArchiveSource) (config : StreamConfig) : Opening ArchiveSource :=
  if s.isOpen then { result := .ok (), source := s }
  else if !s.library.installed then
    { source := s
      result := .error (.backendInit
        "pybgpstream is not installed. Install with: pip install bgpreader[bgpstream]") }
  else
    match s.launch config with
    | (.error f, s) => { result := .error (openFailure s.interface f), source := s.dismiss }
    | (.ok (), s) =>
      { result := .ok (), source := { s with hasStream := true, isOpen := true }
        log := [.info "BGPStream started" [
          ("interface", .text s.interface), ("blocking", .bool config.blocking)]] }

def close (s : ArchiveSource) : ArchiveSource :=
  { s.dismiss with hasStream := false, isOpen := false }

def answer : Except Failure (Option RawRecord) → PullAnswer
  | .error f => .error (.backend s!"Failed to read from BGPStream: {f.message}")
  | .ok none => .ok none
  | .ok (some raw) => raw.convert.map some

/-- Leave the reading of the next record to a worker. It waits while the library is blocked, or while
the worker is still busy. -/
def pullBy (s : ArchiveSource) (w : StreamWorker) : Pull ArchiveSource :=
  let (id, w) := w.call .next
  -- a call that was given up keeps the worker busy, and this one waits behind it
  let busy := w.running.isSome
  let (w, library) := work w s.library
  match settled? w id with
  | some result => .done (answer result) { s with worker := some w, library }
  | none =>
    let wait : Pull ArchiveSource :=
      .stall { s with worker := some w, library }
        (.done (.error .cancelled) { s with worker := some (w.cancel id), library })
    if !busy && library.signals then .notice .signal wait else wait

def pull (s : ArchiveSource) : Pull ArchiveSource :=
  if !s.isOpen then .done (.error (.backend "BGPStream source is not open")) s
  else
    match s.worker, s.hasStream with
    | none, _ => .done (answer (.error (.lacksOperation .null "call"))) s
    | some _, false => .done (answer (.error (.lacksOperation .null "get_next_record"))) s
    | some w, true => s.pullBy w

/-- Perform what is queued, as far as the library lets it. -/
def workAll : (jobs : Nat) → StreamWorker → Library → StreamWorker × Library
  | 0, w, library => (w, library)
  | jobs + 1, w, library =>
    let (w, library) := work w library
    workAll jobs w library

/-- The library returns from the call that blocks it, and the worker goes on. -/
def resume (s : ArchiveSource) : ArchiveSource :=
  match s.worker with
  | none => s
  | some w =>
    match w.running with
    | none => s
    | some (_, request) =>
      let (result, library) := perform s.library request
      let w := (w.finish result).deliver
      let (w, library) := workAll w.queue.length w library
      { s with worker := some w, library }

/-- The entries of calls that return when nobody waits any more. -/
def aftermath (s : ArchiveSource) : Log :=
  let left := s.former ++ s.worker.toList
  let calls := left.foldr (fun w n => (if w.running.isSome then w.outstanding else 0) + n) 0
  List.replicate calls (.debug "Dropping result of abandoned BGPStream call")

instance : Source ArchiveSource where
  start := start
  pull := pull
  close s := (.ok (), s.close)
  dump _ record := record.dump
  aftermath := aftermath

end ArchiveSource
end RouteFeed
