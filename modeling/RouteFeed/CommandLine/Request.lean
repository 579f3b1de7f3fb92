import RouteFeed.CommandLine.Filters
import RouteFeed.CommandLine.Usage
import RouteFeed.Session
import RouteFeed.Settings

/-! What a command line asks for: help, or a retrieval with a session that is configured for it.
Nothing is opened before that is settled. -/
namespace RouteFeed.CommandLine

variable {σ : Type}

inductive Request (σ : Type) where
  | help (text : String)
  | retrieval (session : Session σ) (arguments : Arguments)

def banner : String := "bgpreader version 1.0.0\n"

def checkLimit {α : Type} (values : List α) (limit : Int) (what : String) : Except Failure Unit :=
  if limit < values.length then
    .error (.usage ("A maximum of " ++ Text.decimal limit ++ " " ++ what))
  else .ok ()

/-- Check the numbers of values, in a fixed order. -/
def Arguments.checkLimits (a : Arguments) (s : Settings) : Except Failure Unit := do
  checkLimit a.projects s.maxProjects "projects can be specified on the command line"
  checkLimit a.collectors s.maxCollectors "collectors can be specified on the command line"
  checkLimit a.types s.maxRecordTypes "types can be specified on the command line"
  checkLimit a.windows s.maxWindows "windows can be specified on the command line"
  checkLimit a.options s.maxOptions "interface options can be specified"

/-- A session over the data interface that is named, or over the default one. -/
def openSession (registry : Registry σ) (interface : Option (Given String)) :
    Except Failure (Session σ) := do
  let session ← Session.new registry
  match interface with
  | none => return session
  | some (.value name) => session.selectBackend (← registry.resolveBackend name)
  | some .erased => throw (.backendNotFound "[]")

/-- Whether a value begins with a question mark, which asks for the options of the interface. -/
def asksForOptions : List (Given String) → Except Failure Bool
  | [] => .ok false
  | .erased :: _ => .error (.lacksOperation (.list []) "startswith")
  | .value raw :: rest => if raw.toList.head? == some '?' then .ok true else asksForOptions rest

def malformedOption (raw : String) : Failure :=
  .usage s!"Malformed data interface option ({raw}). Expecting <option-name>,<option-value>"

/-- Set an option that is written as its name and its value with a comma between. -/
def applyOption (session : Session σ) (option : Given String) : Except Failure (Session σ) := do
  match option with
  | .erased => throw (.lacksOperation (.list []) "partition")
  | .value raw =>
    match Text.cutFirst? ',' raw.toList with
    | none => throw (malformedOption raw)
    | some (name, value) =>
      let handle ← session.registry.resolveOption session.backend (String.ofList name)
      session.setBackendOption handle (String.ofList value)

/-- Set options in order, up to the first that is refused. -/
def applyOptions : Session σ → List (Given String) → Except Failure (Session σ)
  | session, [] => .ok session
  | session, option :: options =>
    match applyOption session option with
    | .error f => .error f
    | .ok session => applyOptions session options

def optionHelp (session : Session σ) : Except Failure String := do
  return (← describeOptions session.registry session.backend) ++ usage session.registry

def Arguments.request (a : Arguments) (s : Settings) (registry : Registry σ) :
    Except Failure (Request σ) :=
  if a.help then .ok (.help (banner ++ usage registry))
  else do
    a.checkLimits s
    let session ← openSession registry a.interface
    if ← asksForOptions a.options then return .help (← optionHelp session)
    return .retrieval (← applyOptions session a.options) a

def request (s : Settings) (registry : Registry σ) (argv : List String) :
    Except Failure (Request σ) := do
  (← Arguments.parse argv).request s registry

end RouteFeed.CommandLine
