import RouteFeed.Proofs.CommandLine.Reading
import RouteFeed.Proofs.Retrieval.Turns
import RouteFeed.Proofs.Session.Morphism

/-! Runs that begin with some tokens, over a source and over an image of it. Turn by turn a retrieval
does over an image what it does over the source, and so does a whole run, from its command line to its
exit. So a record of what the sources do can be kept without a change to the run. -/
namespace RouteFeed

variable {σ τ : Type}

namespace Retrieval

/-- The same retrieval over an image of its sources. -/
def map (f : σ → τ) (r : Retrieval σ) : Retrieval τ where
  session := r.session.map f
  modes := r.modes
  token := r.token
  tokens := r.tokens
  interruption := r.interruption
  elementBuffer := r.elementBuffer
  stats := r.stats

def Run.map (f : σ → τ) (run : Run σ) : Run τ where
  outcome := run.outcome
  retrieval := run.retrieval.map f
  lines := run.lines
  handled := run.handled
  log := run.log

def Turn.map (f : σ → τ) : Turn σ → Turn τ
  | ends run => .ends (run.map f)
  | goesOn log w next => .goesOn log w (next.map f)

theorem Run.afterAll_map (f : σ → τ) (ws : List (Log × Writing)) (run : Run σ) :
    (run.map f).afterAll ws = (run.afterAll ws).map f := by
  induction ws with
  | nil => rfl
  | cons w ws ih => exact congrArg (Run.after w.1 w.2) ih

variable [Source σ] [Source τ] {f : σ → τ} (image : Source.IsImage f)

include image

theorem write_map (r : Retrieval σ) (record : Record) :
    (r.map f).write record = r.write record := by
  have dump : (r.map f).writeDump record = r.writeDump record := by
    unfold writeDump map
    rw [Session.dump_map _ image]
  unfold write writeBody writeValid
  rw [dump]
  rfl

theorem turn_map (r : Retrieval σ) : (r.map f).turn = r.turn.map f := by
  have pulled : (r.map f).pulled = Pulled.map f r.pulled := Session.next_map _ image _ _ _
  have behind : (r.map f).behind = r.behind.map f := by
    unfold Retrieval.behind
    rw [pulled]
    rfl
  have beyond (record : Record) : (r.map f).beyond record = (r.beyond record).map f := by
    unfold Retrieval.beyond
    rw [behind, write_map image]
    rfl
  rw [turn_eq, turn_eq, pulled, behind]
  simp only [write_map image, beyond]
  cases outcome : r.pulled.outcome with
  | blocked => simp only [Pulled.map, outcome]; rfl
  | raised g => simp only [Pulled.map, outcome]; rfl
  | returned answer =>
    simp only [Pulled.map, outcome]
    cases answer with
    | none => rfl
    | some record =>
      dsimp only
      cases (r.behind.write record).failure <;> rfl

theorem Leads.map {r last : Retrieval σ} {ws : List (Log × Writing)} (h : r.Leads ws last) :
    (r.map f).Leads ws (last.map f) := by
  induction h with
  | here r => exact .here _
  | step turned rest ih =>
    refine .step ?_ ih
    rw [turn_map image, turned]
    rfl

/-- Turns over the image are turns over the source. -/
theorem Leads.of_map {r : Retrieval σ} {last : Retrieval τ} {ws : List (Log × Writing)}
    (h : (r.map f).Leads ws last) : ∃ before, r.Leads ws before ∧ last = before.map f := by
  generalize start : r.map f = begun at h
  induction h generalizing r with
  | here => exact ⟨r, .here r, start.symm⟩
  | step turned rest ih =>
    rw [← start, turn_map image] at turned
    cases here : r.turn with
    | ends run =>
      rw [here] at turned
      cases turned
    | goesOn log w next =>
      rw [here] at turned
      cases turned
      obtain ⟨before, chain, same⟩ := ih rfl
      exact ⟨before, .step here chain, same⟩

theorem run?_map (r : Retrieval σ) : (r.map f).run? = r.run?.map (Run.map f) := by
  ext run
  rw [run?_eq_some_iff, Option.map_eq_some_iff]
  constructor
  · rintro ⟨ws, last, ending, chain, ends, rfl⟩
    obtain ⟨before, leads, rfl⟩ := chain.of_map image
    rw [turn_map image] at ends
    cases here : before.turn with
    | goesOn log w next =>
      rw [here] at ends
      cases ends
    | ends run =>
      rw [here] at ends
      cases ends
      exact ⟨_, run?_eq_some_iff.mpr ⟨ws, before, run, leads, here, rfl⟩,
        (Run.afterAll_map f ws run).symm⟩
  · rintro ⟨run, done, rfl⟩
    obtain ⟨ws, last, ending, chain, ends, rfl⟩ := run?_eq_some_iff.mp done
    refine ⟨ws, last.map f, ending.map f, chain.map image, ?_, (Run.afterAll_map f ws ending).symm⟩
    rw [turn_map image, ends]
    rfl

theorem run_map (r : Retrieval σ) : (r.map f).run = r.run.map f := by
  unfold run
  rw [run?_map image]
  cases r.run? <;> rfl

end Retrieval

namespace CommandLine

/-- The retrieval of a session that nothing but a signal can end, with some tokens. -/
def underTokens (tokens : Tokens) (session : Session σ) (modes : OutputModes) (size : Int) :
    Retrieval σ :=
  { underSignals session modes size with tokens }

def retrievalFrom [Source σ] (tokens : Tokens) (s : Settings) (session : Session σ) (a : Arguments) :
    Run σ :=
  match a.filters with
  | .error f => failed session f
  | .ok filters =>
    let modes := OutputModes.resolve a.records a.bgpdump a.elements
    let r := readStreamFrom tokens session filters modes a.blocking s.elementBuffer
    let run := ended r
    { run with
      output := r.lines
      log := r.log ++ run.log ++ leftover r.session
      session := some r.session }

/-- A run whose tokens at the beginning of the retrieval tell whether a signal has come before. -/
def runFrom [Source σ] (tokens : Tokens) (s : Settings) (registry : Registry σ)
    (argv : List String) : Run σ :=
  match request s registry argv with
  | .error f => if isRefusal f then refused registry f else { exit := .escaped f }
  | .ok (.help text) => { exit := .success, errors := text }
  | .ok (.retrieval session a) => retrievalFrom tokens s session a

theorem runFrom_listening [Source σ] (s : Settings) (registry : Registry σ) (argv : List String) :
    runFrom { listener := some signalToken } s registry argv = run s registry argv := rfl

def Reading.map (f : σ → τ) (r : Reading σ) : Reading τ where
  outcome := r.outcome
  session := r.session.map f
  lines := r.lines
  log := r.log

def Run.map (f : σ → τ) (run : Run σ) : Run τ where
  exit := run.exit
  output := run.output
  errors := run.errors
  log := run.log
  session := run.session.map (Session.map f)

def Request.map (f : σ → τ) : Request σ → Request τ
  | help text => .help text
  | retrieval session a => .retrieval (session.map f) a

section Asked

variable (f : σ → τ) (registry : Registry σ) (s : Session σ)

theorem usage_map : usage (registry.map f) = usage registry := by
  have lines : interfaceLines (registry.map f) = interfaceLines registry := by
    unfold interfaceLines Registry.map
    rw [List.map_map]
    rfl
  unfold usage
  rw [lines]

theorem resolveBackend_map (name : String) :
    (registry.map f).resolveBackend name = registry.resolveBackend name := by
  have found : ((registry.map f).backends.find? fun b => b.name == name) =
      (registry.backends.find? fun b => b.name == name).map (Backend.map f) := by
    unfold Registry.map
    rw [List.find?_map]
    rfl
  unfold Registry.resolveBackend
  rw [found]
  cases registry.backends.find? fun b => b.name == name <;> rfl

theorem resolveOption_map (id : BackendId) (name : String) :
    (registry.map f).resolveOption id name = registry.resolveOption id name := by
  unfold Registry.resolveOption
  rw [Session.info_map]
  cases registry.info id <;> rfl

theorem optionHelp_map : optionHelp (s.map f) = optionHelp s := by
  unfold optionHelp describeOptions Session.map
  dsimp only
  rw [Session.info_map, usage_map]
  cases s.registry.info s.backend <;> rfl

theorem openSession_map (interface : Option (Given String)) :
    openSession (registry.map f) interface =
      (openSession registry interface).map (Session.map f) := by
  have fresh : Session.new (registry.map f) = (Session.new registry).map (Session.map f) := by
    unfold Session.new
    change (registry.defaultBackend.map fun id => _) = _
    cases registry.defaultBackend <;> rfl
  unfold openSession
  rw [fresh]
  cases Session.new registry with
  | error g => rfl
  | ok session =>
    cases interface with
    | none => rfl
    | some name =>
      cases name with
      | erased => rfl
      | value name =>
        dsimp only [Except.map, bind, Except.bind]
        rw [resolveBackend_map]
        cases registry.resolveBackend name with
        | error g => rfl
        | ok id => exact Session.selectBackend_map f session id

theorem applyOption_map (option : Given String) :
    applyOption (s.map f) option = (applyOption s option).map (Session.map f) := by
  cases option with
  | erased => rfl
  | value raw =>
    unfold applyOption
    dsimp only
    split
    · rfl
    · change (((s.registry.map f).resolveOption s.backend _) >>= _) = _
      rw [resolveOption_map]
      cases s.registry.resolveOption s.backend _ with
      | error g => rfl
      | ok handle => exact Session.setBackendOption_map f s handle _

theorem applyOptions_map (options : List (Given String)) :
    applyOptions (s.map f) options = (applyOptions s options).map (Session.map f) := by
  induction options generalizing s with
  | nil => rfl
  | cons option options ih =>
    unfold applyOptions
    rw [applyOption_map]
    cases applyOption s option with
    | error g => rfl
    | ok next => exact ih next

/-- A command line asks for the same over the image. -/
theorem request_map (settings : Settings) (argv : List String) :
    request settings (registry.map f) argv =
      (request settings registry argv).map (Request.map f) := by
  unfold request
  cases Arguments.parse argv with
  | error g => rfl
  | ok a =>
    change a.request settings (registry.map f) = (a.request settings registry).map _
    unfold Arguments.request
    rw [usage_map, openSession_map]
    by_cases help : a.help
    · simp only [help, if_true]
      rfl
    · simp only [help, Bool.false_eq_true, if_false]
      cases a.checkLimits settings with
      | error g => rfl
      | ok _ =>
        cases openSession registry a.interface with
        | error g => rfl
        | ok session =>
          cases asksForOptions a.options with
          | error g => rfl
          | ok asks =>
            dsimp only [Except.map, bind, Except.bind]
            rw [optionHelp_map, applyOptions_map]
            cases asks with
            | true => cases optionHelp session <;> rfl
            | false => cases applyOptions session a.options <;> rfl

theorem failed_map (g : Failure) : failed (s.map f) g = (failed s g).map f := by
  have reported (event : String) : sourceFailed (s.map f) event g = (sourceFailed s event g).map f := by
    unfold sourceFailed
    rw [Session.backendName_map]
    cases s.backendName <;> rfl
  unfold failed
  cases g.kind with
  | noWindow =>
    change refused (s.registry.map f) g = _
    unfold refused
    rw [usage_map]
    rfl
  | backendInit => exact reported _
  | backend => exact reported _
  | _ => rfl

theorem ended_map (r : Reading σ) : ended (r.map f) = (ended r).map f := by
  unfold ended Reading.map
  cases r.outcome with
  | raised g => exact failed_map f r.session g
  | _ => rfl

end Asked

variable [Source σ] [Source τ] {f : σ → τ} (image : Source.IsImage f)

include image

theorem Reading.stop_map (r : Reading σ) : (r.map f).stop = r.stop.map f := by
  have stopped : (r.map f).session.stop = Step.map f r.session.stop := Session.stop_map _ image
  unfold Reading.stop
  rw [stopped]
  generalize r.session.stop = stopped
  obtain ⟨outcome, session, log⟩ := stopped
  obtain ⟨before, begun, lines, entries⟩ := r
  cases before <;> cases outcome <;> rfl

theorem readStreamFrom_map (tokens : Tokens) (session : Session σ) (filters : FilterSet)
    (modes : OutputModes) (blocking : Bool) (size : Int) :
    readStreamFrom tokens (session.map f) filters modes blocking size =
      (readStreamFrom tokens session filters modes blocking size).map f := by
  unfold readStreamFrom
  rw [Session.start_map _ image]
  generalize session.start filters blocking = started
  obtain ⟨outcome, begun, log⟩ := started
  cases outcome with
  | raised g => exact Reading.stop_map image ⟨.raised g, begun, [], log⟩
  | blocked => rfl
  | returned _ =>
    have run := Retrieval.run_map image (underTokens tokens begun modes size)
    have same : ({ underSignals (begun.map f) modes size with tokens } : Retrieval τ) =
        (underTokens tokens begun modes size).map f := rfl
    dsimp only [Step.map]
    rw [same, run, ← Reading.stop_map image]
    rfl

variable (aftermath : ∀ s, Source.aftermath (f s) = Source.aftermath s)

include aftermath

theorem retrievalFrom_map (tokens : Tokens) (settings : Settings) (session : Session σ)
    (a : Arguments) :
    retrievalFrom tokens settings (session.map f) a =
      (retrievalFrom tokens settings session a).map f := by
  unfold retrievalFrom
  cases a.filters with
  | error g => exact failed_map f session g
  | ok filters =>
    have left (s : Session σ) : leftover (s.map f) = leftover s := by
      unfold leftover
      have made : (s.map f).phase.made? = s.phase.made?.map f := by
        change (s.phase.map f).made? = _
        cases s.phase <;> rfl
      rw [made]
      cases s.phase.made? with
      | none => rfl
      | some source => exact aftermath source
    dsimp only
    rw [readStreamFrom_map image, ended_map, Reading.map]
    dsimp only
    rw [left]
    rfl

/-- A run over the image comes to the same: it exits in the same way, and writes the same. -/
theorem runFrom_map (tokens : Tokens) (settings : Settings) (registry : Registry σ)
    (argv : List String) :
    runFrom tokens settings (registry.map f) argv =
      (runFrom tokens settings registry argv).map f := by
  unfold runFrom
  rw [request_map]
  cases request settings registry argv with
  | error g =>
    dsimp only [Except.map]
    unfold refused
    rw [usage_map]
    split <;> rfl
  | ok request =>
    cases request with
    | help text => rfl
    | retrieval session a => exact retrievalFrom_map image aftermath tokens settings session a

end CommandLine
end RouteFeed
