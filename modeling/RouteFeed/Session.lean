import RouteFeed.Registry
import RouteFeed.Source.Wait

/-! Sessions: one data interface is chosen and configured, opened once, pulled, and released.

A session is configured, then started, then iterating, then stopped. A failure of its source leads
to the error state, where only stopping is left. The phase of a session holds its source, so that
a source is pulled only while it is open. -/
namespace RouteFeed

inductive Phase (σ : Type) where
  | configuring
  /-- Still being configured, with a source whose opening was cancelled. -/
  | unopened (source : σ)
  | started (source : σ)
  | iterating (source : σ)
  /-- The source could not be made or opened, or it failed while it was read. -/
  | failed (source : Option σ)
  | stopped (source : Option σ)

inductive SessionState where
  | configuring
  | started
  | iterating
  | stopped
  | error
  deriving DecidableEq

def SessionState.name : SessionState → String
  | configuring => "configuring"
  | started => "started"
  | iterating => "iterating"
  | stopped => "stopped"
  | error => "error"

/-- What an operation comes to: a value, a failure, or a wait that never ends. -/
inductive Outcome (α : Type) where
  | returned (value : α)
  | raised (failure : Failure)
  | blocked

def Outcome.ofExcept {α : Type} : Except Failure α → Outcome α
  | .ok a => .returned a
  | .error f => .raised f

namespace Phase

variable {σ : Type}

def state : Phase σ → SessionState
  | configuring | unopened _ => .configuring
  | started _ => .started
  | iterating _ => .iterating
  | failed _ => .error
  | stopped _ => .stopped

/-- The source that a session still uses. -/
def live? : Phase σ → Option σ
  | unopened source | started source | iterating source => some source
  | failed source => source
  | configuring | stopped _ => none

def made? : Phase σ → Option σ
  | stopped source => source
  | p => p.live?

end Phase

/-- A session over the data interfaces of a registry. -/
structure Session (σ : Type) where
  registry : Registry σ
  backend : BackendId
  /-- The options set for the data interface, each name once. -/
  options : Named String := []
  filters : Option StreamFilters := none
  blocking : Bool := false
  phase : Phase σ := .configuring

namespace Session

variable {σ : Type}

/-- A session over a data interface, or over the default one. -/
def new (registry : Registry σ) (backend : Option BackendId := none) :
    Except Failure (Session σ) :=
  match backend with
  | some id => .ok { registry, backend := id }
  | none => registry.defaultBackend.map fun id => { registry, backend := id }

def state (s : Session σ) : SessionState := s.phase.state

def backendName (s : Session σ) : Except Failure String :=
  (s.registry.info s.backend).map Backend.name

def refusal (s : Session σ) (action : String) : Failure :=
  ⟨.sessionState, s!"Cannot {action} in state '{s.state.name}'"⟩

/-- Options and filters belong to a session that is being configured. -/
def requireConfiguring (s : Session σ) (action : String) : Except Failure Unit :=
  if s.state = .configuring then .ok () else .error (s.refusal action)

/-- Choose a data interface. The options set for the previous one are dropped. -/
def selectBackend (s : Session σ) (id : BackendId) : Except Failure (Session σ) := do
  s.requireConfiguring "select a backend"
  let _ ← s.registry.info id
  return { s with backend := id, options := [] }

def setBackendOption (s : Session σ) (handle : OptionHandle) (value : String) :
    Except Failure (Session σ) := do
  s.requireConfiguring "set a backend option"
  if handle.backend = s.backend then
    return { s with options := Named.put s.options handle.name value }
  else
    let owner ← s.registry.info handle.backend
    let active ← s.backendName
    throw (.optionMismatch handle.name owner.name active)

structure Step (σ α : Type) where
  outcome : Outcome α
  session : Session σ
  log : Log := []

/-- What a failed factory or opening is reported as. -/
def initFailure (name : String) (f : Failure) : Failure :=
  if f.kind = .backendInit then f
  else .backendInit s!"Could not init data interface '{name}': {f.message}"

def startedEntry (s : Session σ) (name : String) (filters : StreamFilters) : LogEntry :=
  let names := s.options.map Prod.fst
  .info "Session started" [
    ("backend", .text name), ("blocking", .bool s.blocking),
    ("windows", .int filters.windows.length),
    ("options", Value.texts ((names.mergeSort fun a b => decide (a ≤ b)).map Points.ofString))]

/-- The end of a start whose factory or opening fails, with the source that it leaves. A cancelled task
leaves the session where it was; every other failure leads to the error state. -/
def startFailed (s : Session σ) (name : String) (f : Failure) (source : Option σ)
    (log : Log := []) : Step σ Unit :=
  if f.kind = .cancelled then ⟨.raised f, { s with phase := source.elim s.phase .unopened }, log⟩
  else ⟨.raised (initFailure name f), { s with phase := .failed source }, log⟩

/-- Make the source and open it with a snapshot of the filters. -/
def start [Source σ] (s : Session σ) (filters : FilterSet) (blocking : Bool) : Step σ Unit :=
  match s.requireConfiguring "start" with
  | .error f => ⟨.raised f, s, []⟩
  | .ok () =>
    if filters.windows.isEmpty then ⟨.raised .noWindow, s, []⟩
    else
      let snapshot := filters.snapshot
      -- before the interface is looked up: a start that fails there leaves them behind
      let s := { s with filters := some snapshot, blocking }
      match s.registry.info s.backend with
      | .error f => ⟨.raised f, s, []⟩
      | .ok backend =>
        match backend.factory with
        | .error f => s.startFailed backend.name f s.phase.live?
        | .ok source =>
          let opening := Source.start source { filters := snapshot, options := s.options, blocking }
          match opening.result with
          | .error f => s.startFailed backend.name f opening.source opening.log
          | .ok () =>
            ⟨.returned (), { s with phase := .started opening.source },
              opening.log ++ [s.startedEntry backend.name snapshot]⟩

def pullFailure (s : Session σ) (f : Failure) : Failure :=
  if f.kind = .backend then f
  else
    match s.backendName with
    | .ok name => .backend s!"Data interface '{name}' failed: {f.message}"
    | .error g => g

structure Pulled (σ : Type) where
  outcome : Outcome (Option Record)
  session : Session σ
  tokens : Tokens
  log : Log := []

/-- Take the answer of a pull. A cancelled task leaves the session as it is; every other failure
leads to the error state. -/
def take (s : Session σ) (answer : PullAnswer) (source : σ) : Outcome (Option Record) × Session σ :=
  match answer with
  | .ok record => (.returned record, { s with phase := .iterating source })
  | .error f =>
    if f.kind = .cancelled then (.raised f, { s with phase := .iterating source })
    else (.raised (s.pullFailure f), { s with phase := .failed (some source) })

/-- Take the answer of a pull that its token has called off: a record that it gave is dropped, and
so is its own cancellation. -/
def takeCalledOff (s : Session σ) (answer : PullAnswer) (source : σ) :
    Outcome (Option Record) × Session σ × Log :=
  let dropped : Outcome (Option Record) × Session σ × Log :=
    match s.backendName with
    | .ok name =>
      (.returned none, { s with phase := .iterating source },
        [.info "Record pull cancelled" [("backend", .text name)]])
    | .error f => (.raised f, { s with phase := .failed (some source) }, [])
  match answer with
  | .ok _ => dropped
  | .error f =>
    if f.kind = .cancelled then dropped
    else (.raised (s.pullFailure f), { s with phase := .failed (some source) }, [])

/-- Bring the end of a pull back into the session. -/
def takeRun (s : Session σ) (r : PullRun σ) : Pulled σ :=
  match r.finish with
  | .answered answer source =>
    let (outcome, s) := s.take answer source
    ⟨outcome, s, r.tokens, r.log⟩
  | .calledOff answer source =>
    let (outcome, s, log) := s.takeCalledOff answer source
    ⟨outcome, s, r.tokens, r.log ++ log⟩
  | .abandoned source =>
    ⟨.raised .cancelled, { s with phase := .iterating source }, r.tokens, r.log⟩
  | .stuck source => ⟨.blocked, { s with phase := .iterating source }, r.tokens, r.log⟩

/-- Pull the next record from an open source, with a token or without. A token that has been fired
before keeps the source out of it. -/
def pullFrom [Source σ] (s : Session σ) (source : σ) (tokens : Tokens) (token : Option String)
    (interruption : Option Interruption) : Pulled σ :=
  match token with
  | none => s.takeRun ((Source.pull source).await interruption tokens)
  | some name =>
    if tokens.isFired name then
      ⟨.returned none, { s with phase := .iterating source }, tokens, []⟩
    else s.takeRun ((Source.pull source).race name interruption tokens.settle)

/-- Pull the next record. There is none when the data is exhausted or the pull was cancelled. -/
def next [Source σ] (s : Session σ) (tokens : Tokens) (token : Option String := none)
    (interruption : Option Interruption := none) : Pulled σ :=
  match s.phase with
  | .started source | .iterating source => s.pullFrom source tokens token interruption
  | _ => ⟨.raised (s.refusal "pull records"), s, tokens, []⟩

def dump [Source σ] (s : Session σ) (record : Record) : Except Failure (List Points) × Record :=
  match s.phase.live? with
  | some source => Source.dump source record
  | none => (.error ⟨.sessionState, "Session has no open backend"⟩, record)

/-- Release the source. This is possible in any state and more than once. -/
def stop [Source σ] (s : Session σ) : Step σ Unit :=
  match s.phase with
  | .stopped _ => ⟨.returned (), s, []⟩
  | phase =>
    match phase.live? with
    | none => ⟨.returned (), { s with phase := .stopped none }, []⟩
    | some source =>
      let (result, source) := Source.close source
      -- stopped whatever the release comes to
      let s := { s with phase := .stopped (some source) }
      match result with
      | .error f => ⟨.raised f, s, []⟩
      | .ok () =>
        match s.backendName with
        | .ok name => ⟨.returned (), s, [.info "Session stopped" [("backend", .text name)]]⟩
        | .error f => ⟨.raised f, s, []⟩

end Session
end RouteFeed
