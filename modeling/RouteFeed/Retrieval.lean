import RouteFeed.Session

/-! Retrieval: drain a started session and write its records, their dumps and their elements as
lines, in the order in which the source delivers them. A record is released as soon as it has been
written, also if writing it fails. The output takes UTF-8, so a line that holds half of a pair of
units cannot be written. -/
namespace RouteFeed

structure OutputModes where
  records : Bool := true
  bgpdump : Bool := false
  elements : Bool := false
  deriving DecidableEq

/-- The modes asked for; record lines if none is. -/
def OutputModes.resolve (records bgpdump elements : Bool) : OutputModes :=
  { records := records || !(bgpdump || elements), bgpdump, elements }

/-- Counters of a retrieval. They go on from one run to the next. -/
structure RetrievalStats where
  records : Nat := 0
  validRecords : Nat := 0
  elements : Nat := 0
  deriving DecidableEq

structure Retrieval (σ : Type) where
  session : Session σ
  modes : OutputModes := {}
  token : Option String := none
  tokens : Tokens := {}
  /-- What happens when a pull waits. -/
  interruption : Option Interruption := none
  elementBuffer : Int := defaultElementBuffer
  stats : RetrievalStats := {}

structure Writing where
  lines : List String
  failure : Option Failure
  elements : Nat
  record : Record
  log : Log := []
  /-- The record is counted as valid, which it is not before its own line has been written. -/
  valid : Bool := true

namespace Retrieval

variable {σ : Type}

/-- The entry of an element that does not fit the buffer; other failures leave none. -/
def renderEntry (record : Record) (failure : Option Failure) : Log :=
  match failure with
  | some ⟨.render _, _⟩ =>
    [.error "Element rendering failed" [
      ("record_time", .int record.time), ("collector", .text record.collector)]]
  | _ => []

def writeElements (buffer : Int) (record : Record) : Writing :=
  match record.openCursor with
  | (.error f, record) => { lines := [], failure := some f, elements := 0, record }
  | (.ok cursor, record) =>
    let (done, record) := record.renderFrom (Element.line buffer) cursor
    { lines := done.lines, failure := done.failure, elements := done.lines.length, record
      log := renderEntry record done.failure }

/-- Write lines up to the first that has no form in UTF-8. -/
def writeLines : List Points → List String × Option Failure
  | [] => ([], none)
  | line :: lines =>
    match line.encode with
    | .error f => ([], some f)
    | .ok s => let (more, failure) := writeLines lines; (s :: more, failure)

def writeDump [Source σ] (r : Retrieval σ) (record : Record) :
    List String × Option Failure × Record :=
  if r.modes.bgpdump then
    match r.session.dump record with
    | (.error f, record) => ([], some f, record)
    | (.ok dump, record) => let (lines, failure) := writeLines dump; (lines, failure, record)
  else ([], none, record)

def writeValid [Source σ] (r : Retrieval σ) (record : Record) : Writing :=
  match r.writeDump record with
  | (lines, some f, record) => { lines, failure := some f, elements := 0, record }
  | (dump, none, record) =>
    if r.modes.elements then
      let w := writeElements r.elementBuffer record
      { w with lines := dump ++ w.lines }
    else { lines := dump, failure := none, elements := 0, record }

def writeHead (r : Retrieval σ) (record : Record) : Except Failure (List String) :=
  if r.modes.records then do return [← (← record.line).encode] else .ok []

/-- Write what belongs to a record behind its own line. -/
def writeBody [Source σ] (r : Retrieval σ) (record : Record) : Writing :=
  if record.isValid then r.writeValid record
  else { lines := [], failure := none, elements := 0, record, valid := false }

def write [Source σ] (r : Retrieval σ) (record : Record) : Writing :=
  match r.writeHead record with
  | .error f =>
    -- released even so, but not counted as valid
    { lines := [], failure := some f, elements := 0, record := record.release, valid := false }
  | .ok head =>
    let w := r.writeBody record
    { w with lines := head ++ w.lines, record := w.record.release }

def count (stats : RetrievalStats) (w : Writing) : RetrievalStats where
  records := stats.records + 1
  validRecords := stats.validRecords + if w.valid then 1 else 0
  elements := stats.elements + w.elements

structure Run (σ : Type) where
  outcome : Outcome Unit
  retrieval : Retrieval σ
  lines : List String := []
  /-- The records that the session gave, after they have been released. -/
  handled : List Record := []
  log : Log := []

def finishedEntry (stats : RetrievalStats) : LogEntry :=
  .info "Retrieval finished" [
    ("records", .int stats.records), ("valid_records", .int stats.validRecords),
    ("elements", .int stats.elements)]

/-- Put the writing of a record before the rest of a run. -/
def Run.after (log : Log) (w : Writing) (run : Run σ) : Run σ :=
  { run with
    lines := w.lines ++ run.lines
    handled := w.record :: run.handled
    log := log ++ w.log ++ run.log }

/-- What a pull comes to, with the writing of the record that it gives. -/
inductive Turn (σ : Type) where
  | ends (run : Run σ)
  | goesOn (log : Log) (writing : Writing) (retrieval : Retrieval σ)

/-- Pull once, and write what comes. -/
def turn [Source σ] (r : Retrieval σ) : Turn σ :=
  let pulled := r.session.next r.tokens r.token r.interruption
  let r := { r with session := pulled.session, tokens := pulled.tokens }
  match pulled.outcome with
  | .blocked => .ends { outcome := .blocked, retrieval := r, log := pulled.log }
  | .raised f => .ends { outcome := .raised f, retrieval := r, log := pulled.log }
  | .returned none =>
    .ends
      { outcome := .returned (), retrieval := r, log := pulled.log ++ [finishedEntry r.stats] }
  | .returned (some record) =>
    let w := r.write record
    let r := { r with stats := count r.stats w }
    match w.failure with
    | some f => .ends (Run.after pulled.log w { outcome := .raised f, retrieval := r })
    | none => .goesOn pulled.log w r

/-- Pull and write until there is no record left, the pull is cancelled, or something fails. A source
that never comes to an end leaves no run. -/
def run? [Source σ] (r : Retrieval σ) : Option (Run σ) :=
  match r.turn with
  | .ends run => some run
  | .goesOn log writing next => do
    -- by tactic: a call written as a term leaves its source position in the fixed point
    let run ← by
      apply run?
      exact next
    some (Run.after log writing run)
partial_fixpoint

def run [Source σ] (r : Retrieval σ) : Run σ :=
  r.run?.getD { outcome := .blocked, retrieval := r }

end Retrieval

def linesText (lines : List String) : String := String.join (lines.map (· ++ "\n"))

end RouteFeed
