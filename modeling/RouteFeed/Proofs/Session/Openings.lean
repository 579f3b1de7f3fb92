import RouteFeed.Proofs.Session.Morphism

/-! Sources that keep what they have been opened with. A session opens its source once; what it was
opened with is found with the session from then on, whatever becomes of the source. -/
namespace RouteFeed

variable {σ : Type}

/-- A source with the configurations it has been opened with, the first one first. -/
structure Opened (σ : Type) where
  source : σ
  openings : List StreamConfig := []

theorem Pull.map_map_cancel {τ : Type} {f : σ → τ} {g : τ → σ} (inside : ∀ source, g (f source) = source)
    (p : Pull σ) : (p.map f).map g = p := by
  induction p with
  | done answer source => exact congrArg (Pull.done answer) (inside source)
  | report entry next ih => exact congrArg (Pull.report entry) ih
  | notice n next ih => exact congrArg (Pull.notice n) ih
  | stall source interrupted ih => exact congr (congrArg Pull.stall (inside source)) ih
  | pause source arrived interrupted arrives ih =>
    exact congr (congr (congrArg Pull.pause (inside source)) arrives) ih

instance [Source σ] : Source (Opened σ) where
  start o config :=
    let r := Source.start o.source config
    { result := r.result, source := ⟨r.source, o.openings ++ [config]⟩, log := r.log }
  pull o := (Source.pull o.source).map (⟨·, o.openings⟩)
  close o :=
    let r := Source.close o.source
    (r.1, ⟨r.2, o.openings⟩)
  dump o record := Source.dump o.source record
  aftermath o := Source.aftermath o.source

theorem Opened.source_isImage [Source σ] : Source.IsImage (Opened.source : Opened σ → σ) where
  start _ _ := rfl
  close _ := rfl
  dump _ _ := rfl
  pull _ := (Pull.map_map_cancel (fun _ => rfl) _).symm

def Opened.made (source : σ) : Opened σ := ⟨source, []⟩

/-- The registry whose interfaces make sources that keep what they have been opened with. -/
def Registry.opened (r : Registry σ) : Registry (Opened σ) := r.map Opened.made

theorem Registry.opened_map (r : Registry σ) : r.opened.map Opened.source = r :=
  map_map_cancel (fun _ => rfl) r

def PullEnd.source : PullEnd σ → σ
  | answered _ source | calledOff _ source | abandoned source | stuck source => source

theorem Phase.made_of_live {phase : Phase σ} {source : σ} (live : phase.live? = some source) :
    phase.made? = some source := by
  cases phase with
  | stopped left => cases live
  | _ => exact live

namespace Session

def openings (s : Session (Opened σ)) : List StreamConfig :=
  match s.phase.made? with
  | some o => o.openings
  | none => []

/-- The session has the interface, and its source has been opened as told. -/
def HasOpened (id : BackendId) (configs : List StreamConfig) (s : Session (Opened σ)) : Prop :=
  s.backend = id ∧ s.openings = configs

/-- The source that a pull brings back is the source of the session from then on; nothing else changes. -/
theorem takeRun_source (s : Session σ) (r : PullRun σ) :
    ∃ phase, (s.takeRun r).session = { s with phase } ∧ phase.live? = some r.finish.source := by
  cases s.takeRun_taken r with
  | @returns _ source finish _ session =>
    rw [finish]
    exact ⟨.iterating source, session, rfl⟩
  | @cancels _ source finish _ _ session =>
    rw [finish]
    exact ⟨.iterating source, session, rfl⟩
  | @fails _ source finish _ _ session =>
    refine ⟨.failed (some source), session, ?_⟩
    rcases finish with finish | finish <;> rw [finish] <;> rfl
  | @drops _ source _ finish _ _ _ session =>
    rw [finish]
    exact ⟨.iterating source, session, rfl⟩
  | @loses _ source _ finish _ _ _ session =>
    rw [finish]
    exact ⟨.failed (some source), session, rfl⟩
  | @abandons source finish _ session =>
    rw [finish]
    exact ⟨.iterating source, session, rfl⟩
  | @waits source finish _ session =>
    rw [finish]
    exact ⟨.iterating source, session, rfl⟩

theorem live_of_next [Source σ] {s : Session σ} {tokens : Tokens} {token : Option String}
    {interruption : Option Interruption} {record : Record}
    (given : (s.next tokens token interruption).outcome = .returned (some record)) :
    ∃ source, (s.next tokens token interruption).session.phase.live? = some source := by
  have after (r : PullRun σ) : ∃ source, (s.takeRun r).session.phase.live? = some source := by
    obtain ⟨phase, same, live⟩ := s.takeRun_source r
    rw [same]
    exact ⟨_, live⟩
  have nexts := s.next_nexts tokens token interruption
  generalize s.next tokens token interruption = p at nexts given ⊢
  cases nexts with
  | refuses => cases given
  | skips => cases given
  | awaits | races => exact after _

theorem takeRun_hasOpened {s : Session (Opened σ)} {id : BackendId} (backend : s.backend = id)
    (configs : List StreamConfig) (r : PullRun σ) :
    (s.takeRun (r.map (⟨·, configs⟩))).session.HasOpened id configs := by
  obtain ⟨phase, same, live⟩ := s.takeRun_source (r.map (⟨·, configs⟩))
  rw [same]
  refine ⟨backend, ?_⟩
  rw [openings, Phase.made_of_live live]
  obtain ⟨finish, tokens, log⟩ := r
  cases finish <;> rfl

variable [Source σ] {id : BackendId} {configs : List StreamConfig} {s : Session (Opened σ)}

theorem HasOpened.next (h : s.HasOpened id configs) (tokens : Tokens) (token : Option String)
    (interruption : Option Interruption) :
    (s.next tokens token interruption).session.HasOpened id configs := by
  have opened {o : Opened σ} (reads : s.Reads o) : o.openings = configs := by
    rw [← h.2]
    rcases reads with phase | phase <;> simp [openings, phase, Phase.made?, Phase.live?]
  have nexts := s.next_nexts tokens token interruption
  generalize s.next tokens token interruption = p at nexts ⊢
  cases nexts with
  | refuses => exact h
  | skips reads => exact ⟨h.1, opened reads⟩
  | @awaits o reads =>
    change (s.takeRun
      (((Source.pull o.source).map (⟨·, o.openings⟩)).await _ _)).session.HasOpened _ _
    rw [Pull.await_map, opened reads]
    exact takeRun_hasOpened h.1 _ _
  | @races o name reads =>
    change (s.takeRun
      (((Source.pull o.source).map (⟨·, o.openings⟩)).race _ _ _)).session.HasOpened _ _
    rw [Pull.race_map, opened reads]
    exact takeRun_hasOpened h.1 _ _

theorem HasOpened.stop (h : s.HasOpened id configs) : s.stop.session.HasOpened id configs := by
  obtain ⟨backend, same⟩ := h
  cases s.stop_stops with
  | again before outcome session =>
    rw [session]
    exact ⟨backend, same⟩
  | alone before outcome session =>
    rw [session]
    refine ⟨backend, ?_⟩
    rw [← same]
    rcases before with phase | phase <;> simp [openings, phase, Phase.made?, Phase.live?]
  | @closes o live outcome session =>
    rw [session]
    refine ⟨backend, ?_⟩
    rw [← same, openings, openings, Phase.made_of_live live]
    rfl

theorem start_hasOpened {filters : FilterSet} {blocking : Bool} {b : Backend (Opened σ)}
    {o : Opened σ} (admits : s.Admits filters b) (made : b.factory = .ok o) :
    (s.start filters blocking).session.HasOpened s.backend
      (o.openings ++ [s.config filters blocking]) := by
  cases start_opens admits made blocking with
  | fails _ _ _ session | cancels _ _ _ session =>
    rw [session]
    exact ⟨rfl, rfl⟩
  | succeeds _ _ session =>
    rw [session]
    exact ⟨rfl, rfl⟩

end Session
end RouteFeed
