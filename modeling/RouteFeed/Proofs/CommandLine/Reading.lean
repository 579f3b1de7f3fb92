import RouteFeed.CommandLine.Run
import RouteFeed.Proofs.Retrieval.Drain
import RouteFeed.Proofs.Session.Lifecycle

/-! Readings: what is written from the start of a session to its stop, and what is left of it. -/
namespace RouteFeed

variable {σ : Type} [Source σ]

/-- What a factory and the source that it makes do when a session is started with a configuration
and drained. -/
inductive Source.Plays (token : String) (config : StreamConfig) :
    Except Failure σ → List Record → Supply → Prop
  | notMade {f} (own : f.kind ≠ .cancelled) : Plays token config (.error f) [] .fails
  | notOpened {s f} (opened : (Source.start s config).result = .error f)
    (own : f.kind ≠ .cancelled) (mannered : Mannered (Source.start s config).source) : Plays token config (.ok s) [] .fails
  | opened {s records supply} (opened : (Source.start s config).result = .ok ())
    (delivers : Delivers token (Source.start s config).source records supply) :
    Plays token config (.ok s) records supply

theorem Source.Plays.traced {config : StreamConfig} {factory : Except Failure σ}
    {records : List Record} {supply : Supply} {token : String}
    (h : Plays token config factory records supply) (calls : List SourceCall) :
    Plays token config (factory.map fun s => (⟨s, calls⟩ : Traced σ)) records supply := by
  cases h with
  | notMade own => exact .notMade own
  | notOpened opened own mannered => exact .notOpened opened own (mannered.traced _)
  | opened opened delivers => exact .opened opened (delivers.traced _)

/-- Everything that a source has is written. -/
def Supply.Complete (supply : Supply) (size : Int) (entries : List Entry) : Prop :=
  supply = .exhausted ∧ ∀ e ∈ entries, e.Fits size

instance (supply : Supply) (size : Int) (entries : List Entry) :
    Decidable (supply.Complete size entries) :=
  inferInstanceAs (Decidable (supply = .exhausted ∧ ∀ e ∈ entries, e.Fits size))

/-- There are records without end that can be written, and all their entries fit. -/
def Record.Endless (modes : OutputModes) (size : Int) (given : List Record → Prop) : Prop :=
  ∀ n, ∃ records, n ≤ records.length ∧ given records ∧ (∀ record ∈ records, record.Printable) ∧
    ∀ e ∈ records.flatMap (entries modes), e.Fits size

def Failure.IsReported (f : Failure) : Prop :=
  f.kind = .backendInit ∨ f.kind = .backend ∨ ∃ truncated, f.kind = .render truncated

namespace CommandLine

/-- A reading that has written entries: it returns if they are complete, and fails otherwise. -/
structure Reading.Renders (r : Reading σ) (size : Int) (entries : List Entry) (supply : Supply) :
    Prop where
  lines : r.lines = Entry.written size entries
  complete : supply.Complete size entries → ∃ stats, r.outcome = .returned stats
  broken : ¬ supply.Complete size entries → ∃ f, r.outcome = .raised f ∧ f.IsReported

variable {size : Int} {entries : List Entry} {supply : Supply}

/-- The retrieval of a session that nothing but a signal can end. -/
def underSignals (session : Session σ) (modes : OutputModes) (size : Int) : Retrieval σ where
  session
  modes
  elementBuffer := size
  token := some signalToken
  tokens := { listener := some signalToken }

omit [Source σ] in
theorem underSignals_undisturbed {session : Session σ} {source : σ} (reads : session.Reads source)
    (modes : OutputModes) (size : Int) :
    (underSignals session modes size).Undisturbed signalToken source :=
  ⟨reads, rfl, rfl, ⟨rfl, rfl⟩⟩

def Reading.ofRun (run : Retrieval.Run σ) : Reading σ where
  outcome := statsOutcome run.outcome run.retrieval.stats
  session := run.retrieval.session
  lines := run.lines
  log := run.log

theorem retrieve_eq (session : Session σ) (modes : OutputModes) (size : Int) :
    retrieve session modes size = .ofRun (underSignals session modes size).run := rfl

theorem retrieve_renders {session : Session σ} {modes : OutputModes} {source : σ}
    {records : List Record} {name : String} (reads : session.Reads source)
    (named : session.backendName = .ok name)
    (delivers : Source.Delivers signalToken source records supply)
    (printable : ∀ record ∈ records, record.Printable)
    (bounded : supply = .goesOn →
      ¬ ∀ e ∈ records.flatMap (Record.entries modes), e.Fits size) :
    (retrieve session modes size).Renders size (records.flatMap (Record.entries modes)) supply ∧
      session.Releasable (retrieve session modes size).session := by
  obtain ⟨run, done, drains⟩ := Retrieval.run?_of_delivers delivers
    (underSignals_undisturbed reads modes size) named printable bounded
  rw [retrieve_eq, Retrieval.run, done, Option.getD_some]
  cases drains with
  | exhausts supply writes outcome left =>
    have fits := writes.fits_iff.mp rfl
    refine ⟨⟨writes.lines_eq, fun _ => ⟨run.retrieval.stats, ?_⟩, ?_⟩, left⟩
    · rw [Reading.ofRun, outcome]
      rfl
    · exact fun h => absurd ⟨supply, fits⟩ h
  | @fails f failed writes outcome kind left =>
    refine ⟨⟨writes.lines_eq, fun h => ?_, fun _ => ⟨f, ?_, .inr (.inl kind)⟩⟩, left⟩
    · rw [h.1] at failed
      cases failed
    · rw [Reading.ofRun, outcome]
      rfl
  | @cut f writes outcome left =>
    refine ⟨⟨writes.lines_eq, fun h => ?_, fun _ => ⟨f, ?_, ?_⟩⟩, left⟩
    · cases writes.fits_iff.mpr h.2
    · rw [Reading.ofRun, outcome]
      rfl
    · obtain ⟨truncated, rfl⟩ := writes.failure_eq
      exact .inr (.inr ⟨truncated, rfl⟩)

/-- The stop at the end of a reading changes neither what it has written nor how it ends. -/
theorem Reading.Renders.stop {r : Reading σ} (h : r.Renders size entries supply) {name : String}
    (going : r.session.state ≠ .stopped)
    (released : ∀ source, r.session.phase.live? = some source → (Source.close source).1 = .ok ())
    (named : r.session.backendName = .ok name) :
    r.stop.Renders size entries supply ∧ r.stop.session =
      { r.session with
        phase := .stopped (r.session.phase.live?.map fun source => (Source.close source).2) } := by
  obtain ⟨outcome, session⟩ := Session.stop_of_released going released named
  have waits : r.outcome ≠ .blocked := by
    intro blocked
    by_cases complete : supply.Complete size entries
    · obtain ⟨stats, returned⟩ := h.complete complete
      rw [returned] at blocked
      cases blocked
    · obtain ⟨f, raised, _⟩ := h.broken complete
      rw [raised] at blocked
      cases blocked
  have stopped : r.stop =
      { r with session := r.session.stop.session, log := r.log ++ r.session.stop.log } := by
    unfold Reading.stop
    split
    · rename_i blocked
      exact absurd blocked waits
    · simp only [outcome]
  rw [stopped]
  exact ⟨⟨h.lines, h.complete, h.broken⟩, session⟩

theorem initFailure_isReported (name : String) (f : Failure) :
    (Session.initFailure name f).IsReported := by
  unfold Session.initFailure
  split
  · rename_i kind
    exact .inl kind
  · exact .inl rfl

theorem readStream_of_raised {session : Session σ} {filters : FilterSet} (modes : OutputModes)
    {blocking : Bool} (size : Int) {f : Failure}
    (outcome : (session.start filters blocking).outcome = .raised f) (reported : f.IsReported) :
    ∃ r : Reading σ, readStream session filters modes blocking size = r.stop ∧
      r.session = (session.start filters blocking).session ∧ r.Renders size [] .fails := by
  refine ⟨{ outcome := .raised f, session := (session.start filters blocking).session
            log := (session.start filters blocking).log }, ?_, rfl, rfl, fun h => ?_, fun _ => ?_⟩
  · simp only [readStream, outcome]
  · cases h.1
  · exact ⟨f, rfl, reported⟩

/-- A phase whose source, if there is one, can be released. -/
structure Disposable (phase : Phase σ) (made : Bool) : Prop where
  going : phase.state ≠ .stopped
  released : ∀ source, phase.live? = some source → (Source.close source).1 = .ok ()
  made : phase.live?.isSome = made

theorem Disposable.of_live {phase : Phase σ} {source : σ} (live : phase.live? = some source)
    (mannered : Source.Mannered source) : Disposable phase true := by
  refine ⟨Phase.going_of_live live, fun other live' => ?_, by rw [live, Option.isSome_some]⟩
  rw [live] at live'
  cases live'
  exact mannered.close

inductive StartPlays (session : Session σ) (filters : FilterSet) (blocking made : Bool)
    (records : List Record) (supply : Supply) : Prop
  | fails {f phase} (outcome : (session.start filters blocking).outcome = .raised f)
    (reported : f.IsReported)
    (started : (session.start filters blocking).session =
      session.configured filters blocking phase)
    (disposable : Disposable phase made) (none : records = []) (supply : supply = .fails)
  | opens {source} (outcome : (session.start filters blocking).outcome = .returned ())
    (started : (session.start filters blocking).session =
      session.configured filters blocking (.started source))
    (delivers : Source.Delivers signalToken source records supply) (made : made = true)

theorem startPlays_of_plays {session : Session σ} {filters : FilterSet} {blocking : Bool}
    {b : Backend σ} {records : List Record} (fresh : session.phase = .configuring)
    (admits : session.Admits filters b)
    (plays : Source.Plays signalToken (session.config filters blocking) b.factory records supply) :
    StartPlays session filters blocking b.factory.isOk records supply := by
  -- every end of the start is a way to play, except the cancelled ones
  cases session.start_starts filters blocking with
  | refuses _ _ _ reason => exact absurd ⟨b, admits⟩ reason
  | makesNone found made _ outcome started =>
    obtain rfl := admits.unique found
    rw [made] at plays ⊢
    cases plays
    rw [fresh] at started
    exact .fails outcome (initFailure_isReported _ _) started ⟨nofun, nofun, rfl⟩ rfl rfl
  | cancelsMaking found made cancelled =>
    obtain rfl := admits.unique found
    rw [made] at plays
    cases plays with
    | notMade own => exact absurd cancelled own
  | @opensNone b' source f found made opened _ outcome started =>
    obtain rfl := admits.unique found
    rw [made] at plays ⊢
    cases plays with
    | opened success => simp [opened] at success
    | notOpened _ _ mannered =>
      exact .fails outcome (initFailure_isReported _ f) started (.of_live rfl mannered) rfl rfl
  | cancelsOpening found made opened cancelled =>
    obtain rfl := admits.unique found
    rw [made] at plays
    cases plays with
    | opened success => simp [opened] at success
    | notOpened failed own =>
      cases opened.symm.trans failed
      exact absurd cancelled own
  | opens found made opened outcome started =>
    obtain rfl := admits.unique found
    rw [made] at plays ⊢
    cases plays with
    | notOpened failed => simp [opened] at failed
    | opened _ delivers => exact .opens outcome started delivers rfl

theorem Reading.Renders.stop_configured {r : Reading σ} (h : r.Renders size entries supply)
    {session : Session σ} {filters : FilterSet} {blocking made : Bool} {phase : Phase σ}
    {b : Backend σ} (info : session.registry.info session.backend = .ok b)
    (left : r.session = session.configured filters blocking phase)
    (disposable : Disposable phase made) :
    r.stop.Renders size entries supply ∧ r.stop.session.backendName = .ok b.name ∧
      ∃ source, r.stop.session.phase = .stopped source ∧ source.isSome = made := by
  obtain ⟨renders, last⟩ := h.stop (by rw [left]; exact disposable.going)
    (by rw [left]; exact disposable.released)
    (by rw [left]; exact Session.backendName_configured info filters blocking phase)
  rw [left] at last
  rw [last]
  exact ⟨renders, Session.backendName_configured info filters blocking _, _, rfl,
    Option.isSome_map.trans disposable.made⟩

theorem readStream_renders {session : Session σ} {filters : FilterSet} {modes : OutputModes}
    {blocking : Bool} {b : Backend σ} {records : List Record}
    (configuring : session.phase = .configuring) (windows : filters.windows ≠ [])
    (info : session.registry.info session.backend = .ok b)
    (plays : Source.Plays signalToken (session.config filters blocking) b.factory records supply)
    (printable : ∀ record ∈ records, record.Printable)
    (bounded : supply = .goesOn →
      ¬ ∀ e ∈ records.flatMap (Record.entries modes), e.Fits size) :
    let r := readStream session filters modes blocking size
    r.Renders size (records.flatMap (Record.entries modes)) supply ∧
      r.session.backendName = .ok b.name ∧
      ∃ source, r.session.phase = .stopped source ∧ source.isSome = b.factory.isOk := by
  intro r
  have admits : session.Admits filters b := ⟨congrArg Phase.state configuring, windows, info⟩
  cases startPlays_of_plays configuring admits plays with
  | fails outcome reported started disposable none failed =>
    subst none failed
    obtain ⟨first, stopped, left, renders⟩ := readStream_of_raised modes size outcome reported
    simp only [r, stopped]
    exact renders.stop_configured info (left.trans started) disposable
  | @opens source outcome started delivers made =>
    have reads : (session.start filters blocking).session.Reads source := by
      rw [started]
      exact .inl rfl
    have same : (session.start filters blocking).session.backendName = .ok b.name := by
      rw [started]
      exact Session.backendName_configured info filters blocking _
    obtain ⟨renders, phase, _, left, live, mannered⟩ :=
      retrieve_renders reads same delivers printable bounded
    have left : (retrieve (session.start filters blocking).session modes size).session =
        session.configured filters blocking phase := by
      rw [left, started]
      rfl
    have stopped : r = Reading.stop
        { retrieve (session.start filters blocking).session modes size with
          log := (session.start filters blocking).log ++
            (retrieve (session.start filters blocking).session modes size).log } := by
      simp only [r, readStream, outcome]
    rw [stopped, made]
    refine Reading.Renders.stop_configured ?_ info left (.of_live live mannered)
    exact ⟨renders.lines, renders.complete, renders.broken⟩

/-- A retrieval of records without end does not come to an end. -/
theorem retrieve_blocked {session : Session σ} {modes : OutputModes} {source : σ}
    (reads : session.Reads source)
    (endless : Record.Endless modes size fun records =>
      Source.Delivers signalToken source records .goesOn) :
    (retrieve session modes size).outcome = .blocked := by
  have none : (underSignals session modes size).run? = none := by
    cases done : (underSignals session modes size).run? with
    | none => rfl
    | some run =>
      obtain ⟨records, longer, delivers, printable, fits⟩ := endless (run.handled.length + 1)
      have handled := Retrieval.length_le_handled delivers
        (underSignals_undisturbed reads modes size) printable fits done
      omega
  rw [retrieve_eq, Retrieval.run, none]
  rfl

theorem readStream_blocked {session : Session σ} {filters : FilterSet} {modes : OutputModes}
    {blocking : Bool} {b : Backend σ} (configuring : session.phase = .configuring)
    (windows : filters.windows ≠ []) (info : session.registry.info session.backend = .ok b)
    (endless : Record.Endless modes size fun records =>
      Source.Plays signalToken (session.config filters blocking) b.factory records .goesOn) :
    (readStream session filters modes blocking size).outcome = .blocked := by
  have admits : session.Admits filters b := ⟨congrArg Phase.state configuring, windows, info⟩
  obtain ⟨_, _, plays, _⟩ := endless 0
  cases startPlays_of_plays configuring admits plays with
  | fails _ _ _ _ _ failed => cases failed
  | @opens source outcome started =>
    have reads : (session.start filters blocking).session.Reads source := by
      rw [started]
      exact .inl rfl
    have blocked : (retrieve (session.start filters blocking).session modes size).outcome =
        .blocked := by
      refine retrieve_blocked reads fun n => ?_
      obtain ⟨records, longer, plays, written⟩ := endless n
      cases startPlays_of_plays configuring admits plays with
      | fails _ _ _ _ _ failed => cases failed
      | opens _ again delivers =>
        cases started.symm.trans again
        exact ⟨records, longer, delivers, written⟩
    simp only [readStream, outcome, Reading.stop, blocked]

/-- A reading that begins with some tokens: a signal may have come while the source was opened. -/
def readStreamFrom (tokens : Tokens) (session : Session σ) (filters : FilterSet)
    (modes : OutputModes) (blocking : Bool) (size : Int) : Reading σ :=
  let started := session.start filters blocking
  match started.outcome with
  | .raised f =>
    Reading.stop { outcome := .raised f, session := started.session, log := started.log }
  | .blocked => { outcome := .blocked, session := started.session, log := started.log }
  | .returned () =>
    let r := Reading.ofRun
      ({ underSignals started.session modes size with tokens } : Retrieval σ).run
    Reading.stop { r with log := started.log ++ r.log }

theorem readStreamFrom_listening (session : Session σ) (filters : FilterSet) (modes : OutputModes)
    (blocking : Bool) (size : Int) :
    readStreamFrom { listener := some signalToken } session filters modes blocking size =
      readStream session filters modes blocking size := rfl

theorem Reading.stop_preserves {P : Session σ → Prop} (stop : ∀ s, P s → P s.stop.session)
    {r : Reading σ} (h : P r.session) : P r.stop.session := by
  unfold Reading.stop
  split
  · exact h
  · dsimp only
    split
    · exact stop _ h
    · exact stop _ h

/-- What holds of a started session, and is kept by pulling and stopping, holds behind a reading. -/
theorem readStreamFrom_preserves {P : Session σ → Prop} (tokens : Tokens) {session : Session σ}
    {filters : FilterSet} {blocking : Bool} (started : P (session.start filters blocking).session)
    (next : ∀ s tokens token interruption, P s → P (s.next tokens token interruption).session)
    (stop : ∀ s, P s → P s.stop.session) (modes : OutputModes) (size : Int) :
    P (readStreamFrom tokens session filters modes blocking size).session := by
  have retrieved : P ({ underSignals (session.start filters blocking).session modes size with
      tokens } : Retrieval σ).run.retrieval.session := by
    generalize begun : ({ underSignals (session.start filters blocking).session modes size with
      tokens } : Retrieval σ) = r
    have before : P r.session := by
      rw [← begun]
      exact started
    rw [Retrieval.run]
    cases done : r.run? with
    | none => exact before
    | some run => exact Retrieval.run?_preserves next done before
  unfold readStreamFrom
  dsimp only
  split
  · exact Reading.stop_preserves stop started
  · exact started
  · exact Reading.stop_preserves stop retrieved

theorem readStreamFrom_sound (tokens : Tokens) {session : Session (Traced σ)} (h : session.Sound)
    (filters : FilterSet) (modes : OutputModes) (blocking : Bool) (size : Int) :
    (readStreamFrom tokens session filters modes blocking size).session.Sound :=
  readStreamFrom_preserves tokens (Session.start_does h filters blocking).2
    (fun _ tokens token interruption hs => (Session.next_does hs tokens token interruption).2)
    (fun _ hs => (Session.stop_does hs).2) modes size

theorem readStream_sound {session : Session (Traced σ)} (h : session.Sound) (filters : FilterSet)
    (modes : OutputModes) (blocking : Bool) (size : Int) :
    (readStream session filters modes blocking size).session.Sound :=
  readStreamFrom_sound _ h filters modes blocking size

end CommandLine
end RouteFeed
