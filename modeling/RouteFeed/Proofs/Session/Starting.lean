import RouteFeed.Proofs.Session.Creating
import RouteFeed.Source.Scripted

/-! Starts that fail. Apart from the state there are four points at which a start can fail; what each of
them leaves of the session is said once, in `start_fails`. The windows are checked before the filters are
taken over, but the interface is looked for only behind that; and a task that is cancelled behind that
leaves the session configuring, with a source if the cancelled opening was that of a new one. -/
namespace RouteFeed

variable {σ : Type}

def Backend.CancelsMaking (b : Backend σ) : Prop := ∃ f, b.factory = .error f ∧ f.kind = .cancelled

namespace Session

theorem initFailure_kind (name : String) (f : Failure) : (initFailure name f).kind = .backendInit := by
  unfold initFailure
  split
  · assumption
  · rfl

def taken (s : Session σ) (filters : FilterSet) (blocking : Bool) : Session σ :=
  s.configured filters blocking s.phase

/-- Nothing has been changed exactly if the same filters and the same flag were there before. -/
theorem taken_eq_iff (s : Session σ) (filters : FilterSet) (blocking : Bool) :
    s.taken filters blocking = s ↔ s.filters = some filters.snapshot ∧ s.blocking = blocking := by
  obtain ⟨registry, backend, options, filters', blocking', phase⟩ := s
  simp only [taken, configured, mk.injEq, true_and, and_true, eq_comm]

variable [Source σ]

/-- The source that a start makes is cancelled while it is opened. -/
def CancelsOpening (s : Session σ) (filters : FilterSet) (blocking : Bool) : Prop :=
  ∃ b source f, s.registry.info s.backend = .ok b ∧ b.factory = .ok source ∧
    (Source.start source (s.config filters blocking)).result = .error f ∧ f.kind = .cancelled

/-- The interfaces whose factories have given a source in a start, each as often as it did. -/
def created (s : Session σ) (filters : FilterSet) (blocking : Bool) : List BackendId :=
  s.registry.created (s.recordedStart filters blocking).2

/-- How a start fails from a session that is being configured: with a failure, a session and the
interfaces that have given a source. -/
inductive Fails (s : Session σ) (filters : FilterSet) (blocking : Bool) :
    Failure → Session σ → List BackendId → Prop
  | windowless (empty : filters.windows = []) : Fails s filters blocking .noWindow s []
  | unknown {f} (windowed : filters.windows ≠ []) (missing : s.registry.info s.backend = .error f) :
    Fails s filters blocking f (s.taken filters blocking) []
  | unmade {b f} (admits : s.Admits filters b) (made : b.factory = .error f)
    (own : f.kind ≠ .cancelled) : Fails s filters blocking (initFailure b.name f)
      (s.configured filters blocking (.failed s.phase.live?)) []
  | unmadeCancelled {b f} (admits : s.Admits filters b) (made : b.factory = .error f)
    (cancelled : f.kind = .cancelled) : Fails s filters blocking f (s.taken filters blocking) []
  | unopened {b source f} (admits : s.Admits filters b) (made : b.factory = .ok source)
    (opened : (Source.start source (s.config filters blocking)).result = .error f)
    (own : f.kind ≠ .cancelled) : Fails s filters blocking (initFailure b.name f)
      (s.configured filters blocking
        (.failed (some (Source.start source (s.config filters blocking)).source))) [b.id]
  | unopenedCancelled {b source f} (admits : s.Admits filters b) (made : b.factory = .ok source)
    (opened : (Source.start source (s.config filters blocking)).result = .error f)
    (cancelled : f.kind = .cancelled) : Fails s filters blocking f
      (s.configured filters blocking
        (.unopened (Source.start source (s.config filters blocking)).source)) [b.id]

variable {s : Session σ} {filters : FilterSet} {blocking : Bool}

theorem created_known {b : Backend σ} (admits : s.Admits filters b) :
    s.created filters blocking = if b.factory.isOk then [b.id] else [] :=
  creations_known admits blocking

theorem created_refused (reason : ¬ ∃ b, s.Admits filters b) : s.created filters blocking = [] :=
  creations_refused reason blocking

variable (configuring : s.state = .configuring)

include configuring

theorem start_windowless (empty : filters.windows = []) :
    s.start filters blocking = ⟨.raised .noWindow, s, []⟩ := by
  unfold start
  rw [configuring_allows configuring, empty]
  rfl

theorem start_unknown {f : Failure} (windowed : filters.windows ≠ [])
    (missing : s.registry.info s.backend = .error f) :
    s.start filters blocking = ⟨.raised f, s.taken filters blocking, []⟩ := by
  have windows : filters.windows.isEmpty = false := by simpa using windowed
  unfold start
  rw [configuring_allows configuring]
  simp only [windows, Bool.false_eq_true, if_false, missing]
  rfl

theorem start_fails {f : Failure} (raised : (s.start filters blocking).outcome = .raised f) :
    s.Fails filters blocking f (s.start filters blocking).session (s.created filters blocking) := by
  by_cases admitted : ∃ b, s.Admits filters b
  · obtain ⟨b, admits⟩ := admitted
    rw [created_known admits]
    cases s.start_starts filters blocking with
    | refuses _ _ _ reason => exact absurd ⟨b, admits⟩ reason
    | makesNone found made own outcome session =>
      obtain rfl := admits.unique found
      cases raised.symm.trans outcome
      rw [session, made]
      exact .unmade admits made own
    | cancelsMaking found made cancelled outcome session =>
      obtain rfl := admits.unique found
      cases raised.symm.trans outcome
      rw [session, made]
      exact .unmadeCancelled admits made cancelled
    | opensNone found made opened own outcome session =>
      obtain rfl := admits.unique found
      cases raised.symm.trans outcome
      rw [session, made]
      exact .unopened admits made opened own
    | cancelsOpening found made opened cancelled outcome session =>
      obtain rfl := admits.unique found
      cases raised.symm.trans outcome
      rw [session, made]
      exact .unopenedCancelled admits made opened cancelled
    | opens _ _ _ outcome => cases raised.symm.trans outcome
  · rw [created_refused admitted]
    by_cases empty : filters.windows = []
    · rw [start_windowless configuring empty] at raised ⊢
      cases raised
      exact .windowless empty
    · cases info : s.registry.info s.backend with
      | error g =>
        rw [start_unknown configuring empty info] at raised ⊢
        cases raised
        exact .unknown empty info
      | ok b => exact absurd ⟨b, configuring, empty, info⟩ admitted

omit configuring

/-- If the start fails, the session is as it was before and no source has been created, or the session
is in the error state and the failure says that it could not be initialised. -/
def StartsCleanly (s : Session σ) (filters : FilterSet) (blocking : Bool) : Prop :=
  ∀ f, (s.start filters blocking).outcome = .raised f →
    ((s.start filters blocking).session.state = .configuring →
      (s.start filters blocking).session = s ∧ s.created filters blocking = []) ∧
    ((s.start filters blocking).session.state ≠ .configuring →
      (s.start filters blocking).session.state = .error ∧ f.kind = .backendInit)

/-- There is no window, or the opening is not cancelled and the interface is found and its factory not
cancelled, unless the filters and the flag are those that the session has. -/
def Settled (s : Session σ) (filters : FilterSet) (blocking : Bool) : Prop :=
  filters.windows = [] ∨ ¬ s.CancelsOpening filters blocking ∧
    ((∃ b, s.registry.info s.backend = .ok b ∧ ¬ b.CancelsMaking) ∨
      (s.filters = some filters.snapshot ∧ s.blocking = blocking))

include configuring in
/-- Every failure changes nothing, or moves the session to the error state, or is one of a start that is
not settled. -/
theorem Fails.clean {f : Failure} {t : Session σ} {created : List BackendId}
    (fails : s.Fails filters blocking f t created) (settled : s.Settled filters blocking) :
    (t.state = .configuring → t = s ∧ created = []) ∧
      (t.state ≠ .configuring → t.state = .error ∧ f.kind = .backendInit) := by
  -- whatever leaves only the filters and the flag behind finds them there
  have same (windowed : filters.windows ≠ [])
      (lost : ∀ b, s.registry.info s.backend = .ok b → b.CancelsMaking) :
      s.taken filters blocking = s := by
    rcases settled with empty | ⟨_, ⟨b, info, calm⟩ | same⟩
    · exact absurd empty windowed
    · exact absurd (lost b info) calm
    · exact (s.taken_eq_iff filters blocking).mpr same
  cases fails with
  | windowless => exact ⟨fun _ => ⟨rfl, rfl⟩, fun changed => absurd configuring changed⟩
  | unknown windowed missing =>
    rw [same windowed fun b info => nomatch missing.symm.trans info]
    exact ⟨fun _ => ⟨rfl, rfl⟩, fun changed => absurd configuring changed⟩
  | unmade => exact ⟨nofun, fun _ => ⟨rfl, initFailure_kind _ _⟩⟩
  | unmadeCancelled admits made cancelled =>
    rw [same admits.windowed fun b info => Except.ok.inj (admits.info.symm.trans info) ▸
      ⟨_, made, cancelled⟩]
    exact ⟨fun _ => ⟨rfl, rfl⟩, fun changed => absurd configuring changed⟩
  | unopened => exact ⟨nofun, fun _ => ⟨rfl, initFailure_kind _ _⟩⟩
  | unopenedCancelled admits made opened cancelled =>
    rcases settled with empty | ⟨calm, _⟩
    · exact absurd empty admits.windowed
    · exact absurd ⟨_, _, _, admits.info, made, opened, cancelled⟩ calm

include configuring in
/-- A start whose factory is cancelled is like one whose interface is missing. -/
theorem start_unmadeCancelled {b : Backend σ} {f : Failure} (windowed : filters.windows ≠ [])
    (info : s.registry.info s.backend = .ok b) (made : b.factory = .error f)
    (cancelled : f.kind = .cancelled) :
    (s.start filters blocking).outcome = .raised f ∧
      (s.start filters blocking).session = s.taken filters blocking := by
  have admits : s.Admits filters b := ⟨configuring, windowed, info⟩
  cases s.start_starts filters blocking with
  | refuses _ _ _ reason => exact absurd ⟨b, admits⟩ reason
  | makesNone found failed own =>
    obtain rfl := admits.unique found
    cases made.symm.trans failed
    exact absurd cancelled own
  | cancelsMaking found failed _ outcome session =>
    obtain rfl := admits.unique found
    cases made.symm.trans failed
    exact ⟨outcome, session⟩
  | opensNone found given | cancelsOpening found given | opens found given =>
    obtain rfl := admits.unique found
    cases made.symm.trans given

include configuring in
theorem start_unopenedCancelled {b : Backend σ} {source : σ} {f : Failure}
    (windowed : filters.windows ≠ []) (info : s.registry.info s.backend = .ok b)
    (made : b.factory = .ok source)
    (opened : (Source.start source (s.config filters blocking)).result = .error f)
    (cancelled : f.kind = .cancelled) :
    (s.start filters blocking).outcome = .raised f ∧
      (s.start filters blocking).session = s.configured filters blocking
        (.unopened (Source.start source (s.config filters blocking)).source) ∧
      s.created filters blocking = [b.id] := by
  have admits : s.Admits filters b := ⟨configuring, windowed, info⟩
  have one : s.created filters blocking = [b.id] := by
    rw [created_known admits, made]
    rfl
  cases start_opens admits made blocking with
  | fails failed own =>
    cases opened.symm.trans failed
    exact absurd cancelled own
  | cancels failed _ outcome session =>
    cases opened.symm.trans failed
    exact ⟨outcome, session, one⟩
  | succeeds succeeded => cases opened.symm.trans succeeded

include configuring in
theorem settled_of_clean (clean : s.StartsCleanly filters blocking) :
    s.Settled filters blocking := by
  have leaves {f : Failure} (raised : (s.start filters blocking).outcome = .raised f)
      (left : (s.start filters blocking).session = s.taken filters blocking) :
      s.filters = some filters.snapshot ∧ s.blocking = blocking := by
    have still : (s.start filters blocking).session.state = .configuring := left ▸ configuring
    exact (s.taken_eq_iff filters blocking).mp (left.symm.trans ((clean f raised).1 still).1)
  by_cases empty : filters.windows = []
  · exact .inl empty
  refine .inr ⟨?_, ?_⟩
  · rintro ⟨b, source, f, info, made, opened, cancelled⟩
    obtain ⟨raised, left, one⟩ :=
      start_unopenedCancelled configuring empty info made opened cancelled
    have still : (s.start filters blocking).session.state = .configuring := left ▸ rfl
    exact absurd (one.symm.trans ((clean f raised).1 still).2) (List.cons_ne_nil _ _)
  · cases info : s.registry.info s.backend with
    | error f =>
      have start : s.start filters blocking = ⟨.raised f, s.taken filters blocking, []⟩ :=
        start_unknown configuring empty info
      exact .inr (leaves (congrArg Step.outcome start) (congrArg Step.session start))
    | ok b =>
      by_cases calm : b.CancelsMaking
      · obtain ⟨f, made, cancelled⟩ := calm
        obtain ⟨raised, left⟩ := start_unmadeCancelled configuring empty info made cancelled
        exact .inr (leaves raised left)
      · exact .inl ⟨b, rfl, calm⟩

include configuring in
/-- A start is clean exactly if there is no window, or no new source is cancelled while it is opened, and
the interface is registered and its factory not cancelled or the filters and the flag are those that the
session has. Otherwise it leaves the filters and the flag behind: without a factory called when the
interface is missing, and with a new source when it is cancelled while it is opened. -/
theorem starts_cleanly_iff (filters : FilterSet) (blocking : Bool) :
    (s.recordedStart filters blocking).1 = s.start filters blocking ∧
    (s.StartsCleanly filters blocking ↔ s.Settled filters blocking) ∧
    (∀ f, filters.windows ≠ [] → s.registry.info s.backend = .error f →
      s.start filters blocking = ⟨.raised f, s.taken filters blocking, []⟩ ∧
        (s.recordedStart filters blocking).2 = []) ∧
    ∀ b source f, filters.windows ≠ [] → s.registry.info s.backend = .ok b →
      b.factory = .ok source →
      (Source.start source (s.config filters blocking)).result = .error f → f.kind = .cancelled →
      (s.start filters blocking).outcome = .raised f ∧
        (s.start filters blocking).session = s.configured filters blocking
          (.unopened (Source.start source (s.config filters blocking)).source) ∧
        s.created filters blocking = [b.id] := by
  refine ⟨recordedStart_start s filters blocking, ⟨settled_of_clean configuring,
    fun settled f raised => (start_fails configuring raised).clean configuring settled⟩,
    fun f windowed missing => ⟨start_unknown configuring windowed missing, ?_⟩,
    fun b source f windowed info made opened cancelled =>
      start_unopenedCancelled configuring windowed info made opened cancelled⟩
  rw [recordedStart_refused fun ⟨b, admits⟩ => nomatch missing.symm.trans admits.info]

/-- An interface whose source is never opened. -/
def door (failure : Failure) : Backend ScriptedSource :=
  ⟨1, "door", "", [], .ok { openFailure := some failure }⟩

def closedDoor : Registry ScriptedSource where
  backends := [door ⟨.runtime, "locked"⟩]

def revolvingDoor : Registry ScriptedSource where
  backends := [door .cancelled]

theorem starts_cleanly_iff_doors :
    let s : Session ScriptedSource := { registry := closedDoor, backend := 1 }
    let t : Session ScriptedSource := { registry := revolvingDoor, backend := 1 }
    s.state = .configuring ∧ s.StartsCleanly { windows := [⟨0, 9⟩] } true ∧
      (s.start { windows := [⟨0, 9⟩] } true).session.state = .error ∧
      (s.recordedStart { windows := [⟨0, 9⟩] } true).2 = [1] ∧
      t.state = .configuring ∧ ¬ t.StartsCleanly { windows := [⟨0, 9⟩] } true := by
  intro s t
  have found : s.registry.info s.backend = .ok (door ⟨.runtime, "locked"⟩) := rfl
  have calm : ¬ s.CancelsOpening { windows := [⟨0, 9⟩] } true := by
    rintro ⟨b, source, f, info, made, opened, cancelled⟩
    cases found.symm.trans info
    cases made
    cases opened
    cases cancelled
  have making : ¬ (door ⟨.runtime, "locked"⟩).CancelsMaking := fun ⟨f, made, _⟩ => nomatch made
  have clean := (starts_cleanly_iff (s := s) rfl { windows := [⟨0, 9⟩] } true).2.1.mpr
    (.inr ⟨calm, .inl ⟨_, found, making⟩⟩)
  refine ⟨rfl, clean, rfl, rfl, rfl, fun unclean => ?_⟩
  rcases (starts_cleanly_iff (s := t) rfl { windows := [⟨0, 9⟩] } true).2.1.mp unclean with
    empty | ⟨quiet, _⟩
  · cases empty
  · exact quiet ⟨door .cancelled, _, .cancelled, rfl, rfl, rfl, rfl⟩

/-- A session can be made for an interface that is not registered. It is not started, but it keeps the
filters and the flag. -/
theorem unregistered_start_leaves_filters :
    ∃ s : Session ScriptedSource, Session.new closedDoor (some 7) = .ok s ∧
      s.state = .configuring ∧ s.filters = none ∧ s.blocking = false ∧
      (s.start { windows := [⟨0, 9⟩] } true).outcome = .raised (.backendNotFound "7") ∧
      (s.start { windows := [⟨0, 9⟩] } true).session.state = .configuring ∧
      (s.start { windows := [⟨0, 9⟩] } true).session.filters = some { windows := [⟨0, 9⟩] } ∧
      (s.start { windows := [⟨0, 9⟩] } true).session.blocking = true :=
  ⟨_, rfl, rfl, rfl, rfl, rfl, rfl, rfl, rfl⟩

end Session
end RouteFeed
