import RouteFeed.Proofs.CommandLine.Output
import RouteFeed.Proofs.CommandLine.Refusals
import RouteFeed.Proofs.Retrieval.Turns
import RouteFeed.Proofs.Session.Raising

/-! What becomes of what a source raises. Failures of the factory, of the opening and of the pulls
are reported as those of the data interface. What is raised while a record is written, or while the
source is released, is passed on as it is; a failure to release takes the place of the failure before
it. So the last fault of a run decides how it exits. -/
namespace RouteFeed

inductive Place where
  | factory
  | opening
  | pull
  /-- The dump of a record, its elements, or the lines of these. -/
  | writing
  | release
  deriving DecidableEq

/-- Something that is raised in a run. -/
structure Fault where
  place : Place
  failure : Failure

/-- The failure is reported wherever it comes from. -/
def Failure.isHandled (f : Failure) : Bool :=
  match f.kind with
  | .noWindow | .backendInit | .backend | .render _ => true
  | _ => false

theorem Failure.IsReported.isHandled {f : Failure} (h : f.IsReported) : f.isHandled = true := by
  unfold Failure.isHandled
  rcases h with kind | kind | ⟨truncated, kind⟩ <;> rw [kind]

def Fault.escapes (x : Fault) : Bool :=
  match x.place with
  | .factory | .opening | .pull => x.failure.kind = .cancelled
  | .writing | .release => !x.failure.isHandled

def Fault.reported (name : String) (x : Fault) : Failure :=
  match x.place with
  | .factory | .opening =>
    if x.failure.kind = .cancelled then x.failure else Session.initFailure name x.failure
  | .pull => Session.passedOn name x.failure
  | .writing | .release => x.failure

/-- An outcome behind some faults: the last one decides. -/
def Outcome.After {α : Type} (outcome : Outcome α) (name : String) (faults : List Fault) : Prop :=
  match faults.getLast? with
  | none => ∃ a, outcome = .returned a
  | some x => outcome = .raised (x.reported name)

theorem Outcome.After.stats {outcome : Outcome Unit} {name : String} {faults : List Fault}
    (h : outcome.After name faults) (stats : RetrievalStats) :
    (CommandLine.statsOutcome outcome stats).After name faults := by
  unfold Outcome.After at h ⊢
  cases last : faults.getLast? with
  | none =>
    rw [last] at h
    obtain ⟨_, returned⟩ := h
    rw [returned]
    exact ⟨stats, rfl⟩
  | some x =>
    rw [last] at h
    rw [h]
    rfl

theorem Fault.reported_isHandled (name : String) (x : Fault) :
    if x.escapes then (x.reported name).isHandled = false ∧ x.reported name = x.failure
    else (x.reported name).isHandled = true := by
  obtain ⟨place, f⟩ := x
  have init := (CommandLine.initFailure_isReported name f).isHandled
  cases place with
  | factory | opening =>
    by_cases cancelled : f.kind = .cancelled
    · simp [escapes, reported, Failure.isHandled, cancelled]
    · simp [escapes, reported, cancelled, init]
  | pull =>
    by_cases cancelled : f.kind = .cancelled
    · simp [escapes, reported, Session.passedOn_of_cancelled, Failure.isHandled, cancelled]
    · have kind := Session.passedOn_kind name cancelled
      simp [escapes, reported, Failure.isHandled, cancelled, kind]
  | writing => cases h : f.isHandled <;> simp [escapes, reported, h]
  | release => cases h : f.isHandled <;> simp [escapes, reported, h]

variable {σ : Type}

def Source.releaseFaults [Source σ] (source : σ) : List Fault :=
  match (Source.close source).1 with
  | .error f => [⟨.release, f⟩]
  | .ok () => []

namespace Retrieval

/-- A retrieval of the interface with a name, which nothing but a signal can end. -/
structure Underway (r : Retrieval σ) (name : String) : Prop where
  reads : ∃ source, r.session.Reads source
  named : r.session.backendName = .ok name
  under : r.token = some CommandLine.signalToken
  free : r.interruption = none

variable [Source σ]

inductive Raises (r : Retrieval σ) : List Fault → σ → Prop
  | nothing {left} (outcome : r.pulled.outcome = .returned none)
    (live : r.pulled.session.phase.live? = some left) : Raises r [] left
  | pull {source f left} (reads : r.session.Reads source)
    (unfired : r.tokens.isFired CommandLine.signalToken = false)
    (raises : (Session.raceOf source r.tokens CommandLine.signalToken).finish.Raises f left) :
    Raises r [⟨.pull, f⟩] left
  | writing {record f left} (outcome : r.pulled.outcome = .returned (some record))
    (live : r.pulled.session.phase.live? = some left)
    (failure : (r.behind.write record).failure = some f) : Raises r [⟨.writing, f⟩] left

variable {r next last : Retrieval σ} {name : String} {run : Run σ}

theorem Underway.pulled_eq (h : r.Underway name) :
    r.pulled = r.session.next r.tokens (some CommandLine.signalToken) none := by
  rw [pulled, h.under, h.free]

theorem Underway.returns (h : r.Underway name) {answer : Option Record}
    (outcome : r.pulled.outcome = .returned answer) :
    ∃ left, r.pulled.session = { r.session with phase := .iterating left } := by
  obtain ⟨source, reads⟩ := h.reads
  rw [h.pulled_eq] at outcome ⊢
  rcases reads.yields h.named r.tokens CommandLine.signalToken with ⟨_, session⟩ | ⟨_, yields⟩
  · exact ⟨source, session⟩
  · cases yields with
    | returns _ session => exact ⟨_, session⟩
    | raises _ raised => cases outcome.symm.trans raised
    | waits _ blocked => cases outcome.symm.trans blocked

theorem Underway.goesOn (h : r.Underway name) {log : Log} {w : Writing}
    (turned : r.turn = .goesOn log w next) : next.Underway name := by
  have turns := r.turn_turns
  rw [turned] at turns
  cases turns with
  | goesOn outcome =>
    obtain ⟨left, session⟩ := h.returns outcome
    refine ⟨⟨left, .inr (congrArg Session.phase session)⟩, ?_, h.under, h.free⟩
    rw [beyond, behind, session]
    exact h.named

theorem Underway.leads (h : r.Underway name) {ws : List (Log × Writing)}
    (chain : r.Leads ws last) : last.Underway name := by
  induction chain with
  | here r => exact h
  | step turned rest ih => exact ih (h.goesOn turned)

/-- The end of a retrieval behind some faults. -/
structure Run.EndsAfter (run : Run σ) (name : String) (faults : List Fault) (left : σ) : Prop where
  outcome : run.outcome.After name faults
  live : run.retrieval.session.phase.live? = some left
  named : run.retrieval.session.backendName = .ok name

theorem Raises.ends {faults : List Fault} {left : σ} (h : r.Raises faults left)
    (underway : r.Underway name) :
    ∃ run, r.turn = .ends run ∧ run.EndsAfter name faults left := by
  cases h with
  | nothing outcome live =>
    obtain ⟨source, session⟩ := underway.returns outcome
    have turned := r.turn_eq
    rw [outcome] at turned
    refine ⟨_, turned, ⟨(), rfl⟩, live, ?_⟩
    rw [behind, session]
    exact underway.named
  | pull reads unfired raises =>
    obtain ⟨outcome, phase, session, live⟩ :=
      Session.takeRun_of_raises underway.named raises
    rw [← reads.next_of_unfired unfired, ← underway.pulled_eq] at outcome session
    have turned := r.turn_eq
    rw [outcome] at turned
    refine ⟨_, turned, rfl, ?_, ?_⟩
    · rw [behind, session]
      exact live
    · rw [behind, session]
      exact underway.named
  | writing outcome live failure =>
    obtain ⟨source, session⟩ := underway.returns outcome
    have turned := turn_of_record outcome
    rw [failure] at turned
    refine ⟨_, turned, rfl, live, ?_⟩
    change r.pulled.session.backendName = _
    rw [session]
    exact underway.named

theorem Underway.ends (h : r.Underway name) (turned : r.turn = .ends run)
    (unblocked : run.outcome ≠ .blocked) : ∃ faults left, r.Raises faults left := by
  have turns := r.turn_turns
  rw [turned] at turns
  cases turns with
  | waits => exact absurd rfl unblocked
  | finishes outcome =>
    obtain ⟨left, session⟩ := h.returns outcome
    exact ⟨_, left, .nothing outcome (by rw [session]; rfl)⟩
  | breaks outcome failure =>
    obtain ⟨left, session⟩ := h.returns outcome
    exact ⟨_, left, .writing outcome (by rw [session]; rfl) failure⟩
  | fails outcome =>
    obtain ⟨source, reads⟩ := h.reads
    rw [h.pulled_eq] at outcome
    rcases reads.yields h.named r.tokens CommandLine.signalToken with ⟨none, _⟩ | ⟨unfired, yields⟩
    · cases outcome.symm.trans none
    · cases yields with
      | returns returned => cases outcome.symm.trans returned
      | raises raises => exact ⟨_, _, .pull reads unfired raises⟩
      | waits _ blocked => cases outcome.symm.trans blocked

end Retrieval

namespace CommandLine

/-- The exit after some faults: the last one decides. -/
def exitAfter (faults : List Fault) : Exit :=
  match faults.getLast? with
  | none => .success
  | some x => if x.escapes then .escaped x.failure else .failure

theorem failed_exit {session : Session σ} {name : String} (named : session.backendName = .ok name)
    (f : Failure) :
    (failed session f).exit = if f.isHandled then .failure else .escaped f := by
  unfold failed Failure.isHandled sourceFailed
  rw [named]
  cases f.kind <;> rfl

theorem errorLine_append_ne (message rest : String) : errorLine message ++ rest ≠ "" := by
  intro empty
  have lengths := congrArg String.length empty
  simp [errorLine, String.length_append] at lengths

theorem failed_errors {session : Session σ} {f : Failure}
    (h : (failed session f).exit = .failure) : (failed session f).errors ≠ "" := by
  have report (event : String) (h : (sourceFailed session event f).exit = .failure) :
      (sourceFailed session event f).errors ≠ "" := by
    unfold sourceFailed at h ⊢
    cases named : session.backendName with
    | error g => simp [named] at h
    | ok name => simpa using errorLine_append_ne f.message ""
  unfold failed at h ⊢
  cases kind : f.kind with
  | noWindow => exact errorLine_append_ne _ _
  | backendInit =>
    simp only [kind] at h
    exact report _ h
  | backend =>
    simp only [kind] at h
    exact report _ h
  | render truncated =>
    intro empty
    have lengths := congrArg String.length empty
    simp [String.length_append] at lengths
  | _ => simp [kind] at h

variable [Source σ] {name : String} {faults : List Fault} {left : σ}

/-- A reading whose session has not been stopped, behind some faults. -/
structure Reading.EndsAfter (r : Reading σ) (name : String) (faults : List Fault) (left : Option σ) :
    Prop where
  outcome : r.outcome.After name faults
  live : r.session.phase.live? = left
  going : r.session.state ≠ .stopped
  named : r.session.backendName = .ok name

theorem Reading.stop_eq {r : Reading σ} (unblocked : r.outcome ≠ .blocked) :
    r.stop.session = r.session.stop.session ∧
      r.stop.outcome = match r.session.stop.outcome with
        | .raised f => .raised f
        | _ => r.outcome := by
  unfold Reading.stop
  split
  · contradiction
  · generalize r.session.stop = stopped
    obtain ⟨outcome, session, log⟩ := stopped
    cases outcome <;> exact ⟨rfl, rfl⟩

/-- A failure to release takes the place of what was raised before. -/
theorem Reading.EndsAfter.stop {r : Reading σ} {left : Option σ} (h : r.EndsAfter name faults left) :
    r.stop.outcome.After name (faults ++ (left.map Source.releaseFaults).getD []) ∧
      r.stop.session.backendName = .ok name := by
  have unblocked : r.outcome ≠ .blocked := by
    have outcome := h.outcome
    unfold Outcome.After at outcome
    intro blocked
    rw [blocked] at outcome
    split at outcome
    · obtain ⟨_, returned⟩ := outcome
      cases returned
    · cases outcome
  obtain ⟨session, outcome⟩ := Reading.stop_eq unblocked
  rw [session, outcome]
  cases r.session.stop_stops with
  | again before => exact absurd (congrArg Phase.state before) h.going
  | alone before returned stopped =>
    have none : left = none := by
      rw [← h.live]
      rcases before with before | before <;> rw [before] <;> rfl
    rw [returned, stopped, none, Option.map_none, Option.getD_none, List.append_nil]
    exact ⟨h.outcome, h.named⟩
  | @closes source live closed stopped =>
    have some : left = some source := by rw [← h.live, live]
    rw [closed, stopped, some, Option.map_some, Option.getD_some]
    refine ⟨?_, h.named⟩
    unfold Source.releaseFaults
    cases (Source.close source).1 with
    | error f =>
      unfold Outcome.After
      rw [List.getLast?_append]
      rfl
    | ok _ =>
      rw [h.named, List.append_nil]
      exact h.outcome

omit [Source σ] in
theorem ended_exit {r : Reading σ} (h : r.outcome.After name faults)
    (named : r.session.backendName = .ok name) : (ended r).exit = exitAfter faults := by
  unfold Outcome.After at h
  unfold exitAfter ended
  cases last : faults.getLast? with
  | none =>
    rw [last] at h
    obtain ⟨stats, outcome⟩ := h
    rw [outcome]
  | some x =>
    rw [last] at h
    have reported := x.reported_isHandled name
    rw [h]
    dsimp only
    rw [failed_exit named]
    cases escapes : x.escapes with
    | true =>
      rw [escapes] at reported
      rw [reported.1, reported.2]
      rfl
    | false =>
      rw [escapes] at reported
      rw [reported]
      rfl

end CommandLine

/-- What is raised from the making of a source to its release. -/
inductive Session.Suffers [Source σ] (s : Session σ) (filters : FilterSet) (blocking : Bool)
    (modes : OutputModes) (size : Int) (b : Backend σ) : List Fault → Prop
  | notMade {f} (made : b.factory = .error f) : Suffers s filters blocking modes size b [⟨.factory, f⟩]
  | notOpened {source f} (made : b.factory = .ok source)
    (opened : (Source.start source (s.config filters blocking)).result = .error f) :
    Suffers s filters blocking modes size b (⟨.opening, f⟩ ::
      Source.releaseFaults (Source.start source (s.config filters blocking)).source)
  | retrieved {source ws last faults left} (made : b.factory = .ok source)
    (opened : (Source.start source (s.config filters blocking)).result = .ok ())
    (chain : (CommandLine.underSignals (s.start filters blocking).session modes size).Leads ws last)
    (raises : last.Raises faults left) :
    Suffers s filters blocking modes size b (faults ++ Source.releaseFaults left)

section Suffers

variable [Source σ] {s : Session σ} {filters : FilterSet} {blocking : Bool} {modes : OutputModes}
  {size : Int} {b : Backend σ} {faults : List Fault} {f : Failure}

theorem Session.Suffers.of_not_made (h : s.Suffers filters blocking modes size b faults)
    (failed : b.factory = .error f) : faults = [⟨.factory, f⟩] := by
  cases h with
  | notOpened made => cases failed.symm.trans made
  | retrieved made => cases failed.symm.trans made
  | notMade made =>
    cases failed.symm.trans made
    rfl

theorem Session.Suffers.of_not_opened (h : s.Suffers filters blocking modes size b faults)
    {source : σ} (made : b.factory = .ok source)
    (opened : (Source.start source (s.config filters blocking)).result = .error f) :
    faults = ⟨.opening, f⟩ ::
      Source.releaseFaults (Source.start source (s.config filters blocking)).source := by
  cases h with
  | notMade failed => cases failed.symm.trans made
  | retrieved made' opened' =>
    cases made.symm.trans made'
    cases opened.symm.trans opened'
  | notOpened made' opened' =>
    cases made.symm.trans made'
    cases opened.symm.trans opened'
    rfl

end Suffers

namespace CommandLine

variable [Source σ] {session : Session σ} {filters : FilterSet} {modes : OutputModes}
  {blocking : Bool} {size : Int} {b : Backend σ} {faults : List Fault}

theorem underSignals_underway {source : σ} (info : session.registry.info session.backend = .ok b)
    (started : (session.start filters blocking).session =
      session.configured filters blocking (.started source)) :
    (underSignals (session.start filters blocking).session modes size).Underway b.name := by
  refine ⟨⟨source, .inl (congrArg Session.phase started)⟩, ?_, rfl, rfl⟩
  change (session.start filters blocking).session.backendName = _
  rw [started]
  exact Session.backendName_configured info filters blocking _

theorem readStream_of_fault (place : Place) {f : Failure} {left : Option σ} {phase : Phase σ}
    (info : session.registry.info session.backend = .ok b)
    (outcome : (session.start filters blocking).outcome =
      .raised ((⟨place, f⟩ : Fault).reported b.name))
    (started : (session.start filters blocking).session =
      session.configured filters blocking phase)
    (live : phase.live? = left) (going : phase.state ≠ .stopped) :
    let r := readStream session filters modes blocking size
    r.outcome.After b.name ([⟨place, f⟩] ++ (left.map Source.releaseFaults).getD []) ∧
      r.session.backendName = .ok b.name := by
  have ends : Reading.EndsAfter
      { outcome := .raised ((⟨place, f⟩ : Fault).reported b.name)
        session := (session.start filters blocking).session
        log := (session.start filters blocking).log : Reading σ } b.name [⟨place, f⟩] left := by
    refine ⟨rfl, ?_, ?_, ?_⟩
    · rw [started]
      exact live
    · rw [started]
      exact going
    · rw [started]
      exact Session.backendName_configured info filters blocking phase
  simp only [readStream, outcome]
  exact ends.stop

theorem readStream_of_raises {source left : σ} {ws : List (Log × Writing)} {last : Retrieval σ}
    (info : session.registry.info session.backend = .ok b)
    (outcome : (session.start filters blocking).outcome = .returned ())
    (started : (session.start filters blocking).session =
      session.configured filters blocking (.started source))
    (chain : (underSignals (session.start filters blocking).session modes size).Leads ws last)
    (raises : last.Raises faults left) :
    let r := readStream session filters modes blocking size
    r.outcome.After b.name (faults ++ Source.releaseFaults left) ∧
      r.session.backendName = .ok b.name := by
  obtain ⟨ending, turned, ends⟩ := raises.ends ((underSignals_underway info started).leads chain)
  have done := Retrieval.run?_eq_some_iff.mpr ⟨ws, last, ending, chain, turned, rfl⟩
  have same : readStream session filters modes blocking size = Reading.stop
      { Reading.ofRun (ending.afterAll ws) with
        log := (session.start filters blocking).log ++ (Reading.ofRun (ending.afterAll ws)).log } := by
    simp only [readStream, outcome, retrieve_eq, Retrieval.run, done, Option.getD_some]
  intro r
  have begun : Reading.EndsAfter { Reading.ofRun (ending.afterAll ws) with
      log := (session.start filters blocking).log ++ (Reading.ofRun (ending.afterAll ws)).log }
      b.name faults (some left) := by
    simp only [Reading.ofRun, Retrieval.Run.afterAll_outcome, Retrieval.Run.afterAll_retrieval]
    exact ⟨ends.outcome.stats _, ends.live, Phase.going_of_live ends.live, ends.named⟩
  simp only [r, same]
  exact begun.stop

theorem readStream_suffers (configuring : session.phase = .configuring)
    (windows : filters.windows ≠ []) (info : session.registry.info session.backend = .ok b)
    (h : session.Suffers filters blocking modes size b faults) :
    (readStream session filters modes blocking size).outcome.After b.name faults ∧
      (readStream session filters modes blocking size).session.backendName = .ok b.name := by
  have admits : session.Admits filters b := ⟨congrArg Phase.state configuring, windows, info⟩
  cases session.start_starts filters blocking with
  | refuses _ _ _ reason => exact absurd ⟨b, admits⟩ reason
  | @makesNone b' f found failed own outcome started =>
    obtain rfl := admits.unique found
    rw [configuring] at started
    obtain rfl := h.of_not_made failed
    refine readStream_of_fault .factory info ?_ started rfl nofun
    rw [outcome, Fault.reported, if_neg own]
  | @cancelsMaking b' f found failed cancelled outcome started =>
    obtain rfl := admits.unique found
    rw [configuring] at started
    obtain rfl := h.of_not_made failed
    refine readStream_of_fault .factory info ?_ started rfl nofun
    rw [outcome, Fault.reported, if_pos cancelled]
  | @opensNone b' source f found made opened own outcome started =>
    obtain rfl := admits.unique found
    obtain rfl := h.of_not_opened made opened
    refine readStream_of_fault .opening info ?_ started rfl nofun
    rw [outcome, Fault.reported, if_neg own]
  | @cancelsOpening b' source f found made opened cancelled outcome started =>
    obtain rfl := admits.unique found
    obtain rfl := h.of_not_opened made opened
    refine readStream_of_fault .opening info ?_ started rfl nofun
    rw [outcome, Fault.reported, if_pos cancelled]
  | @opens b' source found made opened outcome started =>
    obtain rfl := admits.unique found
    cases h with
    | notMade failed => cases failed.symm.trans made
    | notOpened made' opened' =>
      cases made.symm.trans made'
      cases opened.symm.trans opened'
    | retrieved made' opened' chain raises =>
      exact readStream_of_raises info outcome started chain raises

/-- A reading that comes to its end suffers something, if only nothing at all. -/
theorem suffers_of_unblocked (configuring : session.phase = .configuring)
    (windows : filters.windows ≠ []) (info : session.registry.info session.backend = .ok b)
    (unblocked : (readStream session filters modes blocking size).outcome ≠ .blocked) :
    ∃ faults, session.Suffers filters blocking modes size b faults := by
  have admits : session.Admits filters b := ⟨congrArg Phase.state configuring, windows, info⟩
  cases session.start_starts filters blocking with
  | refuses _ _ _ reason => exact absurd ⟨b, admits⟩ reason
  | makesNone found failed | cancelsMaking found failed =>
    obtain rfl := admits.unique found
    exact ⟨_, .notMade failed⟩
  | opensNone found made opened | cancelsOpening found made opened =>
    obtain rfl := admits.unique found
    exact ⟨_, .notOpened made opened⟩
  | @opens b' source found made opened outcome started =>
    obtain rfl := admits.unique found
    let begun := underSignals (session.start filters blocking).session modes size
    have waits : begun.run.outcome ≠ .blocked := by
      intro blocked
      apply unblocked
      simp only [readStream, outcome, retrieve_eq]
      rw [Reading.stop, Reading.ofRun, blocked]
      rfl
    obtain ⟨ws, last, ending, chain, turned, same⟩ :=
      Retrieval.run?_eq_some_iff.mp (Retrieval.run?_of_unblocked waits)
    rw [same, Retrieval.Run.afterAll_outcome] at waits
    obtain ⟨faults, left, raises⟩ :=
      ((underSignals_underway info started).leads chain).ends turned waits
    exact ⟨_, .retrieved made opened chain raises⟩

theorem retrieval_exit {settings : Settings} {a : Arguments} (filtered : a.filters = .ok filters) :
    (retrieval settings session a).exit = (ended (readStream session filters
      (.resolve a.records a.bgpdump a.elements) a.blocking settings.elementBuffer)).exit := by
  unfold retrieval
  simp only [filtered]

theorem retrieval_errors {settings : Settings} {a : Arguments}
    (h : (retrieval settings session a).exit = .failure) :
    (retrieval settings session a).errors ≠ "" := by
  unfold retrieval at h ⊢
  cases filtered : a.filters with
  | error f =>
    simp only [filtered] at h ⊢
    exact failed_errors h
  | ok filters =>
    simp only [filtered] at h ⊢
    unfold ended at h ⊢
    split
    · rename_i returned
      simp [returned] at h
    · rename_i raised
      simp only [raised] at h
      exact failed_errors h
    · rename_i blocked
      simp [blocked] at h

theorem readStream_of_no_windows (configuring : session.phase = .configuring)
    (none : filters.windows = []) (modes : OutputModes) (blocking : Bool) (size : Int) :
    readStream session filters modes blocking size =
      { outcome := .raised .noWindow, session := { session with phase := .stopped .none } } := by
  have start : session.start filters blocking = ⟨.raised .noWindow, session, []⟩ := by
    unfold Session.start
    rw [Session.configuring_allows (congrArg Phase.state configuring)]
    simp only [none, List.isEmpty_nil, if_true]
  have stop : session.stop = ⟨.returned (), { session with phase := .stopped .none }, []⟩ := by
    unfold Session.stop
    simp only [configuring, Phase.live?]
  unfold readStream
  simp only [start, Reading.stop, stop]
  rfl

theorem retrieval_of_no_windows {settings : Settings} {a : Arguments}
    (configuring : session.phase = .configuring) (filtered : a.filters = .ok filters)
    (none : filters.windows = []) : (retrieval settings session a).exit = .failure := by
  rw [retrieval_exit filtered, readStream_of_no_windows configuring none]
  rfl

/-- Filters that cannot be made end a retrieval as they are: an option has lost its value. -/
theorem retrieval_of_no_filters {settings : Settings} {a : Arguments} {f : Failure}
    (unfiltered : a.filters = .error f) :
    (retrieval settings session a).exit = .escaped f ∧ ¬ a.Intact := by
  have erased : ¬ a.Intact := by
    intro intact
    obtain ⟨filters, filtered, _⟩ := intact.filters
    cases unfiltered.symm.trans filtered
  refine ⟨?_, erased⟩
  obtain ⟨g, unfiltered', kind⟩ := Arguments.filters_error erased
  cases unfiltered.symm.trans unfiltered'
  unfold retrieval failed
  rw [unfiltered]
  rcases kind with kind | kind
  · simp only [kind]
  · simp only [kind]

variable {settings : Settings} {registry : Registry σ} {argv : List String}

theorem run_errors (h : (run settings registry argv).exit = .failure) :
    (run settings registry argv).errors ≠ "" := by
  unfold run at h ⊢
  cases asked : request settings registry argv with
  | error f =>
    simp only [asked] at h ⊢
    split at h
    · rename_i refused
      simp only [refused, if_true]
      exact errorLine_append_ne _ _
    · cases h
  | ok request =>
    cases request with
    | help text => simp [asked] at h
    | retrieval session a =>
      simp only [asked] at h ⊢
      exact retrieval_errors h

/-- A command line that is refused fails in order, or an option of it has lost its value. -/
theorem run_of_refused (built : registry.Built) {f : Failure}
    (refused : request settings registry argv = .error f) :
    (run settings registry argv).exit = .failure ∨
      (run settings registry argv).exit = .escaped f ∧
        ∃ a, Arguments.parse argv = .ok a ∧ .erased ∈ a.options := by
  simp only [run, refused]
  cases refuses : isRefusal f with
  | true => exact .inl rfl
  | false =>
    rcases request_failsOnly settings built argv f refused with refuses' | erased
    · cases refuses.symm.trans refuses'
    · exact .inr ⟨rfl, erased⟩

theorem run_of_retrieval {a : Arguments}
    (asked : request settings registry argv = .ok (.retrieval session a)) :
    run settings registry argv = retrieval settings session a := by
  simp only [run, asked]

/-- A run that fails in order says why, and it fails in order when its command line is refused. A run
that retrieves exits by the last fault that it suffers: it ends in success if there is none, and no one
handles that fault if it is raised by the writing of a record or the release of the source with a
failure of another kind than those of the program. -/
theorem run_exits_by_last_fault (settings : Settings) {registry : Registry σ} (built : registry.Built)
    (argv : List String) :
    let run := run settings registry argv
    (run.exit = .failure → run.errors ≠ "") ∧
    (∀ f, request settings registry argv = .error f →
      run.exit = .failure ∨
        run.exit = .escaped f ∧ ∃ a, Arguments.parse argv = .ok a ∧ .erased ∈ a.options) ∧
    (∀ text, request settings registry argv = .ok (.help text) → run.exit = .success) ∧
    ∀ session a, request settings registry argv = .ok (.retrieval session a) →
      (∀ f, a.filters = .error f → run.exit = .escaped f ∧ ¬ a.Intact) ∧
      ∀ filters, a.filters = .ok filters →
        (filters.windows = [] → run.exit = .failure) ∧
        (filters.windows ≠ [] → ∃ b, registry.info session.backend = .ok b ∧
          let suffers := session.Suffers filters a.blocking
            (.resolve a.records a.bgpdump a.elements) settings.elementBuffer b
          (∀ faults, suffers faults → run.exit = exitAfter faults) ∧
          (run.exit ≠ .never → ∃ faults, suffers faults)) := by
  intro run
  refine ⟨run_errors, fun f refused => run_of_refused built refused, fun text asked => ?_,
    fun session a asked => ?_⟩
  · simp only [run, CommandLine.run, asked]
  · obtain ⟨configuring, registered⟩ := request_retrieval asked
    simp only [run, run_of_retrieval asked]
    refine ⟨fun f unfiltered => retrieval_of_no_filters unfiltered, fun filters filtered =>
      ⟨retrieval_of_no_windows configuring filtered, fun windows => ?_⟩⟩
    obtain ⟨b, info⟩ := request_info built asked
    refine ⟨b, registered ▸ info, fun faults suffers => ?_, fun ends => ?_⟩
    · obtain ⟨outcome, named⟩ := readStream_suffers configuring windows info suffers
      rw [retrieval_exit filtered]
      exact ended_exit outcome named
    · refine suffers_of_unblocked configuring windows info fun blocked => ends ?_
      rw [retrieval_exit filtered, ended, blocked]

theorem run_exits_by_last_fault_broken :
    let run := run {} (announcerRegistry [] (some (.badValue "broken"))) ["-w", "0,9"]
    run.exit = .failure ∧ run.errors ≠ "" := by
  intro run
  have built : (announcerRegistry [] (some (.badValue "broken"))).Built := .add .empty _ _ _ _ _
  obtain ⟨explains, _, _, retrieves⟩ := run_exits_by_last_fault {} built ["-w", "0,9"]
  let session : Session ScriptedSource :=
    { registry := announcerRegistry [] (some (.badValue "broken")), backend := 1 }
  have asked : request {} (announcerRegistry [] (some (.badValue "broken"))) ["-w", "0,9"] =
    .ok (.retrieval session { windows := [.value ⟨0, 9⟩] }) := rfl
  let filters : FilterSet := { windows := [⟨0, 9⟩] }
  obtain ⟨b, info, exits, _⟩ := ((retrieves _ _ asked).2 filters rfl).2 (List.cons_ne_nil _ _)
  cases info
  let left : ScriptedSource :=
    (Source.start (announcer [] (some (.badValue "broken"))) (session.config filters false)).source
  have finish : (Session.raceOf left
      (underSignals (session.start filters false).session (.resolve false false false)
        defaultElementBuffer).tokens signalToken).finish =
      .answered (.error (.badValue "broken")) { left with events := [] } := rfl
  have raises : (underSignals (session.start filters false).session
      (.resolve false false false) defaultElementBuffer).Raises [⟨.pull, .badValue "broken"⟩]
      { left with events := [] } :=
    .pull (.inl rfl) rfl (finish ▸ .answered _ _)
  have exit : run.exit = .failure := exits _ (.retrieved rfl rfl (.here _) raises)
  exact ⟨exit, explains exit⟩

/-- A source without records that cannot be released. -/
def stuck : ScriptedSource where
  closeFailure := some (.badValue "stuck")

/-- A failure to release the source ends a run with neither code. -/
theorem release_fault_escapes :
    (run {} (Registry.add {} "stuck" "" (.ok stuck)) ["-w", "0,9"]).exit.code? = none := by
  let session : Session ScriptedSource :=
    { registry := Registry.add {} "stuck" "" (.ok stuck), backend := 1 }
  let a : Arguments := { windows := [.value ⟨0, 9⟩] }
  have same : run {} (Registry.add {} "stuck" "" (.ok stuck)) ["-w", "0,9"] =
    retrieval {} session a := rfl
  let filters : FilterSet := { windows := [⟨0, 9⟩] }
  have raises : (underSignals (session.start filters false).session (.resolve false false false)
      defaultElementBuffer).Raises [] (Source.start stuck (session.config filters false)).source :=
    .nothing rfl rfl
  have suffers : session.Suffers filters false (.resolve false false false) defaultElementBuffer
      ⟨1, "stuck", "", [], .ok stuck⟩ [⟨.release, .badValue "stuck"⟩] :=
    .retrieved rfl rfl (.here _) raises
  obtain ⟨outcome, named⟩ := readStream_suffers rfl (List.cons_ne_nil _ _) rfl suffers
  rw [same, retrieval_exit rfl]
  exact congrArg Exit.code? (ended_exit outcome named)

end CommandLine
end RouteFeed
