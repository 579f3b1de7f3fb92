import RouteFeed.Proofs.Session.Procedure
import RouteFeed.Proofs.Session.Steps
import RouteFeed.Proofs.Session.Traced

/-! Sessions do not look into their sources: what a session does over a source, it does over any
image of it. In particular, tracing changes nothing. -/
namespace RouteFeed

variable {σ τ : Type}

structure Source.IsImage [Source σ] [Source τ] (f : σ → τ) : Prop where
  start : ∀ s config, Source.start (f s) config =
    { result := (Source.start s config).result, source := f (Source.start s config).source
      log := (Source.start s config).log }
  pull : ∀ s, Source.pull (f s) = (Source.pull s).map f
  close : ∀ s, Source.close (f s) = ((Source.close s).1, f (Source.close s).2)
  dump : ∀ s record, Source.dump (f s) record = Source.dump s record

theorem Traced.source_isImage [Source σ] : Source.IsImage (Traced.source : Traced σ → σ) where
  start _ _ := rfl
  close _ := rfl
  dump _ _ := rfl
  pull t := by
    change Source.pull t.source = ((Source.pull t.source).traced (t.calls ++ [.pulled])).map source
    generalize t.calls ++ [SourceCall.pulled] = calls
    generalize Source.pull t.source = p
    induction p with
    | done answer source => rfl
    | report entry next ih => exact congrArg (Pull.report entry) ih
    | notice n next ih => exact congrArg (Pull.notice n) ih
    | stall source interrupted ih => exact congrArg (Pull.stall source) ih
    | pause source arrived interrupted arrives ih =>
      exact congr (congrArg (Pull.pause source) arrives) ih

def PullEnd.map (f : σ → τ) : PullEnd σ → PullEnd τ
  | answered answer source => .answered answer (f source)
  | calledOff answer source => .calledOff answer (f source)
  | abandoned source => .abandoned (f source)
  | stuck source => .stuck (f source)

def PullRun.map (f : σ → τ) (r : PullRun σ) : PullRun τ := ⟨r.finish.map f, r.tokens, r.log⟩

@[simp] theorem PullRun.after_map (f : σ → τ) (entry : LogEntry) (r : PullRun σ) :
    (r.after entry).map f = (r.map f).after entry := rfl

namespace Pull

theorem complete_map (f : σ → τ) (tokens : Tokens) (p : Pull σ) :
    (p.map f).complete tokens = (p.complete tokens).map f := by
  induction p generalizing tokens with
  | done answer source => rfl
  | report entry next ih => simp only [map, complete, ih, PullRun.after_map]
  | notice n next ih => exact ih (tokens.heed n)
  | stall source interrupted ih => rfl
  | pause source arrived interrupted arrives ih => exact arrives tokens

theorem await_map (f : σ → τ) (interruption : Option Interruption) (tokens : Tokens)
    (p : Pull σ) : (p.map f).await interruption tokens = (p.await interruption tokens).map f := by
  induction p generalizing tokens with
  | done answer source => rfl
  | report entry next ih => simp only [map, await, ih, PullRun.after_map]
  | notice n next ih => exact ih (tokens.heed n)
  | stall source interrupted ih =>
    simp only [map, await, complete_map]
    split <;> rfl
  | pause source arrived interrupted arrives ih =>
    simp only [map, await, complete_map, arrives]
    split <;> rfl

theorem callOff_map (f : σ → τ) (tokens : Tokens) (p : Pull σ) :
    callOff tokens (p.map f) = (callOff tokens p).map f := by
  unfold callOff
  rw [complete_map]
  generalize p.complete tokens = r
  obtain ⟨finish, tokens, log⟩ := r
  cases finish <;> rfl

theorem abandon_map (f : σ → τ) (tokens : Tokens) (p : Pull σ) :
    abandon tokens (p.map f) = (abandon tokens p).map f := by
  unfold abandon
  rw [complete_map]
  generalize p.complete tokens = r
  obtain ⟨finish, tokens, log⟩ := r
  cases finish <;> rfl

theorem interrupt?_map (f : σ → τ) (token : String) (interruption : Option Interruption)
    (tokens : Tokens) (p : Pull σ) :
    interrupt? token interruption tokens (p.map f) =
      (interrupt? token interruption tokens p).map (PullRun.map f) := by
  unfold interrupt?
  dsimp only
  generalize (if interruption = some .token then tokens.settle.fire token else tokens.settle) = now
  rw [callOff_map, abandon_map]
  by_cases fired : now.isFired token
  · simp only [fired, if_true, Option.map_some]
  · by_cases task : interruption = some .task
    · simp only [fired, task, Bool.false_eq_true, if_true, if_false, Option.map_some]
    · simp only [fired, task, Bool.false_eq_true, if_false, Option.map_none]

theorem race_map (f : σ → τ) (token : String) (interruption : Option Interruption)
    (tokens : Tokens) (p : Pull σ) :
    (p.map f).race token interruption tokens = (p.race token interruption tokens).map f := by
  induction p generalizing tokens with
  | done answer source => rfl
  | report entry next ih => simp only [map, race, ih, PullRun.after_map]
  | notice n next ih => exact ih (tokens.heed n)
  | stall source interrupted ih =>
    simp only [map, race, interrupt?_map]
    cases interrupt? token interruption tokens interrupted <;> rfl
  | pause source arrived interrupted arrives ih =>
    simp only [map, race, interrupt?_map, arrives]
    cases interrupt? token interruption tokens interrupted <;> rfl

end Pull

def Phase.map (f : σ → τ) : Phase σ → Phase τ
  | configuring => .configuring
  | unopened source => .unopened (f source)
  | started source => .started (f source)
  | iterating source => .iterating (f source)
  | failed source => .failed (source.map f)
  | stopped source => .stopped (source.map f)

namespace Session

/-- The same session over an image of its sources. -/
def map (f : σ → τ) (s : Session σ) : Session τ where
  registry := s.registry.map f
  backend := s.backend
  options := s.options
  filters := s.filters
  blocking := s.blocking
  phase := s.phase.map f

variable (f : σ → τ) (s : Session σ)

theorem info_map (r : Registry σ) (id : BackendId) :
    (r.map f).info id = (r.info id).map (Backend.map f) := by
  have found : (r.map f).find? id = (r.find? id).map (Backend.map f) := by
    unfold Registry.find? Registry.map
    simp only [List.find?_map]
    rfl
  unfold Registry.info
  rw [found]
  cases r.find? id <;> rfl

@[simp] theorem state_map : (s.map f).state = s.state := by
  unfold state map
  cases s.phase <;> rfl

@[simp] theorem backendName_map : (s.map f).backendName = s.backendName := by
  unfold backendName
  change ((s.registry.map f).info s.backend).map Backend.name = _
  rw [info_map]
  cases s.registry.info s.backend <;> rfl

@[simp] theorem live?_map (p : Phase σ) : (p.map f).live? = p.live?.map f := by
  cases p <;> rfl

end Session

def Pulled.map (f : σ → τ) (p : Session.Pulled σ) : Session.Pulled τ :=
  ⟨p.outcome, p.session.map f, p.tokens, p.log⟩

def Step.map {α : Type} (f : σ → τ) (r : Session.Step σ α) : Session.Step τ α :=
  ⟨r.outcome, r.session.map f, r.log⟩

def Move.map (f : σ → τ) (m : Move σ) : Move τ :=
  ⟨m.operation, m.before.map f, m.outcome, m.after.map f⟩

def Execution.map (f : σ → τ) (e : Execution σ) : Execution τ :=
  ⟨e.outcome, e.session.map f, e.moves.map (Move.map f)⟩

namespace Session

variable (f : σ → τ) (s : Session σ)

theorem pullFailure_map (g : Failure) : (s.map f).pullFailure g = s.pullFailure g := by
  unfold pullFailure
  rw [backendName_map]

theorem takeRun_map (r : PullRun σ) :
    (s.map f).takeRun (r.map f) = Pulled.map f (s.takeRun r) := by
  obtain ⟨finish, tokens, log⟩ := r
  cases finish with
  | answered answer source =>
    cases answer with
    | ok record => rfl
    | error g =>
      simp only [takeRun, PullRun.map, PullEnd.map, take, pullFailure_map]
      split <;> rfl
  | calledOff answer source =>
    simp only [takeRun, PullRun.map, PullEnd.map, takeCalledOff, pullFailure_map, backendName_map]
    cases answer with
    | ok record => cases s.backendName <;> rfl
    | error g =>
      dsimp only
      split
      · cases s.backendName <;> rfl
      · rfl
  | abandoned source => rfl
  | stuck source => rfl

theorem requireConfiguring_map (action : String) :
    (s.map f).requireConfiguring action = s.requireConfiguring action := by
  simp only [requireConfiguring, refusal, state_map]

theorem selectBackend_map (id : BackendId) :
    (s.map f).selectBackend id = (s.selectBackend id).map (map f) := by
  unfold selectBackend
  rw [requireConfiguring_map]
  cases s.requireConfiguring "select a backend" with
  | error g => rfl
  | ok _ =>
    simp only [map, info_map]
    cases s.registry.info id <;> rfl

theorem setBackendOption_map (handle : OptionHandle) (value : String) :
    (s.map f).setBackendOption handle value = (s.setBackendOption handle value).map (map f) := by
  unfold setBackendOption
  rw [requireConfiguring_map, backendName_map]
  cases s.requireConfiguring "set a backend option" with
  | error g => rfl
  | ok _ =>
    by_cases own : handle.backend = s.backend
    · simp only [map, own, if_true]
      rfl
    · simp only [map, own, if_false, info_map]
      cases s.registry.info handle.backend with
      | error g => rfl
      | ok owner => cases s.backendName <;> rfl

variable {f} [Source σ] [Source τ]

theorem next_map (image : Source.IsImage f) (tokens : Tokens) (token : Option String)
    (interruption : Option Interruption) :
    (s.map f).next tokens token interruption =
      Pulled.map f (s.next tokens token interruption) := by
  have pull (source : σ) : (s.map f).pullFrom (f source) tokens token interruption =
      Pulled.map f (s.pullFrom source tokens token interruption) := by
    unfold pullFrom
    cases token with
    | none =>
      simp only [image.pull, Pull.await_map]
      exact takeRun_map f s _
    | some name =>
      simp only [image.pull, Pull.race_map]
      split
      · rfl
      · exact takeRun_map f s _
  unfold next
  have phase : (s.map f).phase = s.phase.map f := rfl
  rw [phase]
  cases hp : s.phase with
  | started source => exact pull source
  | iterating source => exact pull source
  | _ =>
    simp only [Phase.map, refusal, state_map]
    rfl

omit [Source σ] [Source τ] in
theorem startFailed_map (name : String) (g : Failure) (source : Option σ) (log : Log) :
    (s.map f).startFailed name g (source.map f) log =
      Step.map f (s.startFailed name g source log) := by
  unfold startFailed
  split
  · cases source <;> rfl
  · rfl

theorem start_map (image : Source.IsImage f) (filters : FilterSet) (blocking : Bool) :
    (s.map f).start filters blocking = Step.map f (s.start filters blocking) := by
  unfold start
  rw [requireConfiguring_map]
  cases s.requireConfiguring "start" with
  | error g => rfl
  | ok _ =>
    dsimp only
    by_cases empty : filters.windows.isEmpty
    · simp only [empty, if_true]
      rfl
    · simp only [empty, Bool.false_eq_true, if_false, map, info_map]
      cases s.registry.info s.backend with
      | error g => rfl
      | ok b =>
        simp only [Except.map, Backend.map]
        -- the session that the factory is called for
        let t : Session σ := { s with filters := some filters.snapshot, blocking := blocking }
        cases b.factory with
        | error g =>
          simp only [live?_map]
          exact startFailed_map t b.name g t.phase.live? []
        | ok source =>
          simp only [image.start]
          generalize Source.start source _ = opening
          obtain ⟨result, source, log⟩ := opening
          cases result with
          | error g => exact startFailed_map t b.name g (some source) log
          | ok _ => rfl

theorem stop_map (image : Source.IsImage f) : (s.map f).stop = Step.map f s.stop := by
  have name (p : Phase τ) : ({ s.map f with phase := p } : Session τ).backendName =
      s.backendName := backendName_map f s
  have close {source : σ} (live : s.phase.live? = some source)
      (going : ∀ left, s.phase ≠ .stopped left) : (s.map f).stop = Step.map f s.stop := by
    have image_live : (s.map f).phase.live? = some (f source) := by
      change (s.phase.map f).live? = _
      rw [live?_map, live]
      rfl
    have image_going : ∀ left, (s.map f).phase ≠ .stopped left := by
      intro left
      change s.phase.map f ≠ _
      cases phase : s.phase with
      | stopped source => exact absurd phase (going source)
      | _ => exact nofun
    rw [stop_of_live live going, stop_of_live image_live image_going, image.close]
    generalize Source.close source = r
    obtain ⟨result, source⟩ := r
    cases result with
    | error g => rfl
    | ok _ =>
      simp only [backendName_map]
      cases s.backendName <;> rfl
  cases phase : s.phase with
  | stopped source =>
    have again : s.stop = ⟨.returned (), s, []⟩ := by simp [stop, phase]
    rw [again]
    simp [stop, map, phase, Phase.map, Step.map]
  | configuring => simp [stop, map, phase, Phase.map, Phase.live?, Step.map]
  | unopened source => exact close (by rw [phase]; rfl) (by simp [phase])
  | started source => exact close (by rw [phase]; rfl) (by simp [phase])
  | iterating source => exact close (by rw [phase]; rfl) (by simp [phase])
  | failed source =>
    cases source with
    | some source => exact close (by rw [phase]; rfl) (by simp [phase])
    | none => simp [stop, map, phase, Phase.map, Phase.live?, Step.map]

theorem dump_map (image : Source.IsImage f) (record : Record) :
    (s.map f).dump record = s.dump record := by
  unfold dump
  have phase : (s.map f).phase = s.phase.map f := rfl
  rw [phase, live?_map]
  cases s.phase.live? with
  | none => rfl
  | some source => exact image.dump source record

/-- Every operation does over the image what it does over the source. -/
theorem move_map (image : Source.IsImage f) (operation : Operation) :
    (s.map f).move operation = Move.map f (s.move operation) := by
  have configured (result : Except Failure (Session σ)) :
      Move.configured operation (s.map f) (result.map (map f)) =
        Move.map f (Move.configured operation s result) := by
    cases result <;> rfl
  cases operation with
  | select id =>
    simp only [move, selectBackend_map]
    exact configured _
  | setOption handle value =>
    simp only [move, setBackendOption_map]
    exact configured _
  | start filters blocking =>
    simp only [move, start_map s image]
    rfl
  | next tokens token interruption =>
    simp only [move, next_map s image]
    rfl
  | dump record =>
    simp only [move, dump_map s image]
    rfl
  | stop =>
    simp only [move, stop_map s image]
    rfl

end Session

namespace Execution

theorem andThen_map (f : σ → τ) (e : Execution σ) {rest : Session σ → Execution σ}
    {image : Session τ → Execution τ} (h : ∀ s, image (s.map f) = (rest s).map f) :
    (e.map f).andThen image = (e.andThen rest).map f := by
  obtain ⟨outcome, session, moves⟩ := e
  cases outcome with
  | returned _ =>
    simp only [andThen, map, h, after, List.map_append]
  | raised g => rfl
  | blocked => rfl

theorem always_map (f : σ → τ) (e : Execution σ) {rest : Session σ → Execution σ}
    {image : Session τ → Execution τ} (h : ∀ s, image (s.map f) = (rest s).map f) :
    (e.map f).always image = (e.always rest).map f := by
  obtain ⟨outcome, session, moves⟩ := e
  cases outcome with
  | blocked => rfl
  | _ => simp only [always, map, h, after, List.map_append]

theorem orElse_map (f : σ → τ) (e : Execution σ) (before : Outcome Unit) :
    (e.map f).orElse before = (e.orElse before).map f := by
  obtain ⟨outcome, session, moves⟩ := e
  cases outcome <;> rfl

end Execution

theorem Procedure.run_map [Source σ] [Source τ] {f : σ → τ} (image : Source.IsImage f)
    (procedure : Procedure) (s : Session σ) :
    procedure.run (s.map f) = (procedure.run s).map f := by
  induction procedure generalizing s with
  | done => rfl
  | raise g => rfl
  | act operation rest ih =>
    simp only [run, s.move_map image]
    exact Execution.andThen_map f (s.move operation).execution ih
  | attempt body rest first second =>
    simp only [run, first]
    exact Execution.always_map f _ second
  | block body rest first second =>
    have stop (before : Outcome Unit) (s : Session σ) :
        ((s.map f).move .stop).execution.orElse before =
          ((s.move .stop).execution.orElse before).map f := by
      rw [s.move_map image, ← Execution.orElse_map]
      rfl
    simp only [run, first]
    rw [Execution.always_map f _ (stop _)]
    exact Execution.andThen_map f _ second

theorem Registry.map_map_cancel {f : τ → σ} {g : σ → τ} (inside : ∀ source, f (g source) = source)
    (r : Registry σ) : (r.map g).map f = r := by
  obtain ⟨backends, preferred⟩ := r
  simp only [map, List.map_map]
  congr
  have same : Backend.map f ∘ Backend.map g = id := by
    funext b
    obtain ⟨id, name, description, options, factory⟩ := b
    cases factory with
    | error e => rfl
    | ok source => simp [Backend.map, Except.map, inside]
  rw [same, List.map_id]

/-- Tracing changes nothing: without its histories, a traced run is the plain one. -/
theorem Procedure.run_traced [Source σ] (procedure : Procedure) (s : Session (Traced σ)) :
    procedure.run (s.map Traced.source) = (procedure.run s).map Traced.source :=
  procedure.run_map Traced.source_isImage s

end RouteFeed
