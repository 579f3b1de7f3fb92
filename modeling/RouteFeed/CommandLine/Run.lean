import RouteFeed.CommandLine.Request
import RouteFeed.Interfaces
import RouteFeed.Retrieval
import RouteFeed.Settings.Reading

/-! A run of the program: from a command line to what it writes, logs and ends with.

The session of a run is stopped however the run ends. A signal interrupts a pull that waits, and
the run ends as if there were no more records. -/
namespace RouteFeed.CommandLine

variable {σ : Type}

inductive Exit where
  | success
  | failure
  | escaped (failure : Failure)
  | never

def Exit.code? : Exit → Option Int
  | success => some 0
  | failure => some (-1)
  | escaped _ | never => none

structure Run (σ : Type) where
  exit : Exit
  output : List String := []
  errors : String := ""
  log : Log := []
  session : Option (Session σ) := none

/-- A retrieval from the start of its session to the stop. -/
structure Reading (σ : Type) where
  outcome : Outcome RetrievalStats
  session : Session σ
  lines : List String := []
  log : Log := []

def signalToken : String := "signal"

/-- Stop the session at the end of a reading. A failure to stop takes the place of the outcome. -/
def Reading.stop [Source σ] (r : Reading σ) : Reading σ :=
  match r.outcome with
  | .blocked => r
  | _ =>
    let stopped := r.session.stop
    let r := { r with session := stopped.session, log := r.log ++ stopped.log }
    match stopped.outcome with
    | .raised f => { r with outcome := .raised f }
    | _ => r

def statsOutcome (outcome : Outcome Unit) (stats : RetrievalStats) : Outcome RetrievalStats :=
  match outcome with
  | .returned () => .returned stats
  | .raised f => .raised f
  | .blocked => .blocked

def retrieve [Source σ] (session : Session σ) (modes : OutputModes) (elementBuffer : Int) :
    Reading σ :=
  let r : Retrieval σ := {
    session, modes, elementBuffer, token := some signalToken
    tokens := { listener := some signalToken } }
  let run := r.run
  { outcome := statsOutcome run.outcome run.retrieval.stats
    session := run.retrieval.session, lines := run.lines, log := run.log }

/-- Start a session, retrieve all its records and stop it. -/
def readStream [Source σ] (session : Session σ) (filters : FilterSet) (modes : OutputModes)
    (blocking : Bool) (elementBuffer : Int) : Reading σ :=
  let started := session.start filters blocking
  match started.outcome with
  | .raised f =>
    Reading.stop { outcome := .raised f, session := started.session, log := started.log }
  | .blocked => { outcome := .blocked, session := started.session, log := started.log }
  | .returned () =>
    let r := retrieve started.session modes elementBuffer
    Reading.stop { r with log := started.log ++ r.log }

def errorLine (message : String) : String := "ERROR: " ++ message ++ "\n"

/-- The run of a command line that is refused: the reason, and how the program is called. -/
def refused (registry : Registry σ) (f : Failure) : Run σ where
  exit := .failure
  errors := errorLine f.message ++ usage registry

def isRefusal (f : Failure) : Bool :=
  match f.kind with
  | .usage | .backendNotFound | .optionNotFound | .optionMismatch => true
  | _ => false

/-- The end of a run whose source has failed: it is logged and reported. -/
def sourceFailed (session : Session σ) (event : String) (f : Failure) : Run σ :=
  match session.backendName with
  | .error g => { exit := .escaped g }
  | .ok name => {
      exit := .failure
      errors := errorLine f.message
      log := [.error event [("backend", .text name), ("error", .text f.message)]] }

def failed (session : Session σ) (f : Failure) : Run σ :=
  match f.kind with
  | .noWindow => refused session.registry f
  | .backendInit => sourceFailed session "Backend initialization failed" f
  | .backend => sourceFailed session "Backend failed" f
  | .render truncated => {
      exit := .failure
      errors := f.message ++ "\n" ++ "Elem string: " ++ truncated ++ "\n" }
  | _ => { exit := .escaped f }

def doneEntry (stats : RetrievalStats) : LogEntry :=
  .info "Done" [("records", .int stats.records), ("elements", .int stats.elements)]

def ended (r : Reading σ) : Run σ :=
  match r.outcome with
  | .returned stats => { exit := .success, log := [doneEntry stats] }
  | .raised f => failed r.session f
  | .blocked => { exit := .never }

/-- What is logged by work that a session has left behind. -/
def leftover [Source σ] (session : Session σ) : Log :=
  match session.phase.made? with
  | some source => Source.aftermath source
  | none => []

def retrieval [Source σ] (s : Settings) (session : Session σ) (a : Arguments) : Run σ :=
  match a.filters with
  | .error f => failed session f
  | .ok filters =>
    let modes := OutputModes.resolve a.records a.bgpdump a.elements
    let r := readStream session filters modes a.blocking s.elementBuffer
    let run := ended r
    { run with
      output := r.lines
      log := r.log ++ run.log ++ leftover r.session
      session := some r.session }

/-- Run a command line over the data interfaces of a registry. -/
def run [Source σ] (s : Settings) (registry : Registry σ) (argv : List String) : Run σ :=
  match request s registry argv with
  | .error f => if isRefusal f then refused registry f else { exit := .escaped f }
  | .ok (.help text) => { exit := .success, errors := text }
  | .ok (.retrieval session a) => retrieval s session a

def misconfigured (rs : List Settings.Refusal) : Run σ where
  exit := .failure
  errors := "ERROR: Invalid configuration: " ++ Settings.reportRefusals rs

end RouteFeed.CommandLine
