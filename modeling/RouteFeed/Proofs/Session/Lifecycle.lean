import RouteFeed.Proofs.Session.Creating
import RouteFeed.Proofs.Session.Traced

/-! The invariant of a session, and what each operation does to its state and to its source. -/
namespace RouteFeed

variable {σ : Type}

/-- The history of a source that has been opened and not been closed. -/
def InUse (calls : List SourceCall) : Prop :=
  ∃ pulls, calls = .made :: .opened true :: pulls ∧ ∀ c ∈ pulls, c = .pulled ∨ c = .failed

def Unclosed (calls : List SourceCall) : Prop :=
  calls = [.made, .opened false] ∨ InUse calls

theorem InUse.append {calls : List SourceCall} (h : InUse calls) {more : List SourceCall}
    (hm : ∀ c ∈ more, c = .pulled ∨ c = .failed) : InUse (calls ++ more) := by
  obtain ⟨pulls, rfl, hp⟩ := h
  refine ⟨pulls ++ more, rfl, fun c hc => ?_⟩
  rcases List.mem_append.mp hc with hc | hc
  · exact hp c hc
  · exact hm c hc

theorem Unclosed.made_mem {calls : List SourceCall} (h : Unclosed calls) : .made ∈ calls := by
  rcases h with rfl | ⟨pulls, rfl, _⟩
  · simp
  · simp

def Phase.Sound : Phase (Traced σ) → Prop
  | configuring | failed none | stopped none => True
  | unopened t => t.calls = [.made, .opened false]
  | started t | iterating t => InUse t.calls
  | failed (some t) => Unclosed t.calls
  | stopped (some t) => ∃ calls, t.calls = calls ++ [.closed] ∧ Unclosed calls

/-- The invariant of a session: its interfaces make new sources, and the history of its own source is
that of its phase. -/
structure Session.Sound (s : Session (Traced σ)) : Prop where
  fresh : ∀ b ∈ s.registry.backends, ∀ t, b.factory = .ok t → t.calls = [.made]
  phase : s.phase.Sound

def Session.calls (s : Session (Traced σ)) : List SourceCall :=
  match s.phase.made? with
  | some t => t.calls
  | none => []

/-- A pull under a token whose task was cancelled, and which nobody waits for. -/
def Move.Abandons (m : Move σ) : Prop :=
  (∃ tokens token, m.operation = .next tokens (some token) (some .task)) ∧
    m.outcome = .raised .cancelled

/-- No factory is cancelled, and no opening of what a factory gives. -/
def Registry.Uncancelled [Source σ] (r : Registry σ) : Prop :=
  ∀ b ∈ r.backends,
    (∀ f, b.factory = .error f → f.kind ≠ .cancelled) ∧
    ∀ source, b.factory = .ok source → ∀ config f,
      (Source.start source config).result = .error f → f.kind ≠ .cancelled

theorem Registry.Uncancelled.traced [Source σ] {r : Registry σ} (h : r.Uncancelled) :
    r.traced.Uncancelled := by
  intro b hb
  obtain ⟨plain, member, rfl⟩ := List.mem_map.mp hb
  obtain ⟨factory, opening⟩ := h plain member
  cases made : plain.factory with
  | error f =>
    refine ⟨fun g failed => factory g ?_, fun source given => ?_⟩
    · simpa [Backend.map, made, Except.map] using failed
    · simp [Backend.map, made, Except.map] at given
  | ok inner =>
    refine ⟨fun g failed => ?_, fun source given config g failed => ?_⟩
    · simp [Backend.map, made, Except.map] at failed
    · simp only [Backend.map, made, Except.map, Except.ok.injEq] at given
      rw [← given] at failed
      exact opening inner made config g failed

/-- A start gives the session a new source, or leaves it what it had. -/
def Move.Renews [Source σ] (m : Move (Traced σ)) (succeeded : Bool) : Prop :=
  m.creations = [] ∧ m.after.calls = m.before.calls ∨
    ∃ id, m.creations = [id] ∧ m.after.calls = [.made, .opened succeeded]

inductive Move.Does [Source σ] (m : Move (Traced σ)) : Prop
  | rests (state : m.after.state = m.before.state) (calls : m.after.calls = m.before.calls)
    (creations : m.creations = [])
  | starts {filters blocking} (operation : m.operation = .start filters blocking)
    (before : m.before.state = .configuring)
    (state : m.after.state = .started ∨ m.after.state = .error)
    (calls : ∃ succeeded, m.Renews succeeded)
  /-- A start is cancelled, in its factory or while the source is opened. -/
  | breaksOff {filters blocking} (operation : m.operation = .start filters blocking)
    (before : m.before.state = .configuring) (registry : ¬ m.before.registry.Uncancelled)
    (state : m.after.state = .configuring) (calls : m.Renews false)
  /-- A token that was fired before keeps the source out of it. -/
  | skips {tokens token interruption} (operation : m.operation = .next tokens token interruption)
    (before : m.before.state = .started ∨ m.before.state = .iterating)
    (state : m.after.state = .iterating) (calls : m.after.calls = m.before.calls)
  | pulls {tokens token interruption} (operation : m.operation = .next tokens token interruption)
    (before : m.before.state = .started ∨ m.before.state = .iterating)
    (state : m.after.state = .iterating ∨ m.after.state = .error)
    (calls : m.after.calls = m.before.calls ++ [.pulled])
  | fails {tokens token interruption} (operation : m.operation = .next tokens token interruption)
    (before : m.before.state = .started ∨ m.before.state = .iterating)
    (state : m.after.state = .error ∨ m.after.state = .iterating ∧ m.Abandons)
    (calls : m.after.calls = m.before.calls ++ [.pulled, .failed])
  | stops (operation : m.operation = .stop) (before : m.before.state ≠ .stopped)
    (state : m.after.state = .stopped)
    (calls : m.before.calls = [] ∧ m.after.calls = [] ∨
      .made ∈ m.before.calls ∧ m.after.calls = m.before.calls ++ [.closed])

inductive Session.Takes (s : Session (Traced σ)) (calls : List SourceCall)
    (r : PullRun (Traced σ)) (p : Pulled (Traced σ)) : Prop
  | goesOn {t} (registry : p.session.registry = s.registry)
    (phase : p.session.phase = .iterating t) (history : t.calls = calls)
  | ends {t} (registry : p.session.registry = s.registry)
    (phase : p.session.phase = .failed (some t))
    (history : t.calls = calls ∨ t.calls = calls ++ [.failed])
  | hides {t} (registry : p.session.registry = s.registry)
    (phase : p.session.phase = .iterating t) (history : t.calls = calls ++ [.failed])
    (finish : r.finish = .abandoned t) (outcome : p.outcome = .raised .cancelled)

namespace Session

theorem sound_of_configuring {registry : Registry σ} {s : Session (Traced σ)}
    (traced : s.registry = registry.traced) (configuring : s.phase = .configuring) : s.Sound := by
  refine ⟨fun b hb t ht => ?_, ?_⟩
  · rw [traced] at hb
    obtain ⟨plain, _, rfl⟩ := List.mem_map.mp hb
    cases hf : plain.factory with
    | error f => simp [Backend.map, hf, Except.map] at ht
    | ok source =>
      simp only [Backend.map, hf, Except.map, Except.ok.injEq] at ht
      rw [← ht]
  · rw [configuring]
    trivial

theorem sound_of_new {registry : Registry σ} {backend : Option BackendId}
    {s : Session (Traced σ)} (h : new registry.traced backend = .ok s) :
    s.Sound ∧ s.phase = .configuring := by
  obtain ⟨id, rfl⟩ := eq_of_new h
  exact ⟨sound_of_configuring rfl rfl, rfl⟩

theorem Reads.calls {s : Session (Traced σ)} {t : Traced σ} (h : s.Reads t) :
    s.calls = t.calls := by
  rcases h with h | h <;> simp [Session.calls, h, Phase.made?, Phase.live?]

theorem Reads.inUse {s : Session (Traced σ)} {t : Traced σ} (h : s.Reads t) (sound : s.Sound) :
    InUse t.calls := by
  have hp := sound.phase
  rcases h with h | h
  · rw [h] at hp
    exact hp
  · rw [h] at hp
    exact hp

theorem calls_of_phase {s : Session (Traced σ)} {t : Traced σ}
    (h : s.phase = .iterating t ∨ s.phase = .failed (some t)) : s.calls = t.calls := by
  rcases h with h | h <;> simp [calls, h, Phase.made?, Phase.live?]

theorem unclosed_of_live {s : Session (Traced σ)} (h : s.Sound) {t : Traced σ}
    (live : s.phase.live? = some t) : Unclosed t.calls ∧ s.calls = t.calls ∧ s.state ≠ .stopped := by
  have hp := h.phase
  unfold state calls
  cases phase : s.phase with
  | configuring => simp [phase, Phase.live?] at live
  | unopened u =>
    rw [phase] at hp live
    cases live
    exact ⟨.inl hp, rfl, by simp [Phase.state]⟩
  | started u =>
    rw [phase] at hp live
    cases live
    exact ⟨.inr hp, rfl, by simp [Phase.state]⟩
  | iterating u =>
    rw [phase] at hp live
    cases live
    exact ⟨.inr hp, rfl, by simp [Phase.state]⟩
  | failed u =>
    rw [phase] at hp live
    cases live
    exact ⟨hp, rfl, by simp [Phase.state]⟩
  | stopped u => simp [phase, Phase.live?] at live

theorem takeRun_takes (s : Session (Traced σ)) {calls : List SourceCall}
    {r : PullRun (Traced σ)} (h : r.finish.Continues calls) : s.Takes calls r (s.takeRun r) := by
  cases s.takeRun_taken r with
  | returns finish _ session =>
    rw [finish] at h
    refine .goesOn (by rw [session]) (by rw [session]) ?_
    simpa [PullEnd.Continues, SourceCall.ofAnswer] using h
  | cancels finish cancelled _ session =>
    rw [finish] at h
    refine .goesOn (by rw [session]) (by rw [session]) ?_
    simpa [PullEnd.Continues, SourceCall.ofAnswer, cancelled] using h
  | fails finish own _ session =>
    refine .ends (by rw [session]) (by rw [session]) (.inr ?_)
    rcases finish with finish | finish
    · rw [finish] at h
      simpa [PullEnd.Continues, SourceCall.ofAnswer_of_own own] using h
    · rw [finish] at h
      simpa [PullEnd.Continues, SourceCall.ofAnswer_of_own own] using h
  | drops finish calm _ _ session =>
    rw [finish] at h
    refine .goesOn (by rw [session]) (by rw [session]) ?_
    simpa [PullEnd.Continues, SourceCall.ofAnswer_of_calm calm] using h
  | loses finish calm _ _ session =>
    rw [finish] at h
    refine .ends (by rw [session]) (by rw [session]) (.inl ?_)
    simpa [PullEnd.Continues, SourceCall.ofAnswer_of_calm calm] using h
  | abandons finish outcome session =>
    rw [finish] at h
    rcases h with same | more
    · exact .goesOn (by rw [session]) (by rw [session]) same
    · exact .hides (by rw [session]) (by rw [session]) more finish outcome
  | waits finish _ session =>
    rw [finish] at h
    exact .goesOn (by rw [session]) (by rw [session]) h

theorem Takes.does [Source σ] {s : Session (Traced σ)} (h : s.Sound) {t : Traced σ} (reads : s.Reads t)
    {tokens : Tokens} {token : Option String} {interruption : Option Interruption}
    {r : PullRun (Traced σ)} {p : Pulled (Traced σ)} (takes : s.Takes (t.calls ++ [.pulled]) r p)
    (abandoned : ∀ source, r.finish = .abandoned source →
      interruption = some .task ∧ ∃ name, token = some name) :
    Move.Does ⟨.next tokens token interruption, s, p.outcome.discard, p.session⟩ ∧
      p.session.Sound := by
  have pulled : InUse (t.calls ++ [.pulled]) := (reads.inUse h).append (by simp)
  have failed : InUse (t.calls ++ [.pulled] ++ [.failed]) := pulled.append (by simp)
  have joined : t.calls ++ [.pulled] ++ [.failed] = s.calls ++ [.pulled, .failed] := by
    simp [reads.calls]
  cases takes with
  | goesOn registry phase history =>
    have calls := (calls_of_phase (.inl phase)).trans history
    rw [← reads.calls] at calls
    refine ⟨.pulls rfl reads.state (.inl (congrArg Phase.state phase)) calls,
      registry ▸ h.fresh, ?_⟩
    rw [phase]
    rw [← history] at pulled
    exact pulled
  | ends registry phase history =>
    have ended : p.session.state = .error := congrArg Phase.state phase
    have calls := calls_of_phase (.inr phase)
    rcases history with history | history
    · rw [history, ← reads.calls] at calls
      refine ⟨.pulls rfl reads.state (.inr ended) calls, registry ▸ h.fresh, ?_⟩
      rw [phase]
      exact .inr (history ▸ pulled)
    · rw [history, joined] at calls
      refine ⟨.fails rfl reads.state (.inl ended) calls, registry ▸ h.fresh, ?_⟩
      rw [phase]
      exact .inr (history ▸ failed)
  | hides registry phase history finish outcome =>
    have calls := (calls_of_phase (.inl phase)).trans (history.trans joined)
    -- the failure of a pull that was left alone: the session goes on reading
    obtain ⟨rfl, name, rfl⟩ := abandoned _ finish
    refine ⟨.fails rfl reads.state (.inr ⟨congrArg Phase.state phase, ⟨tokens, name, rfl⟩, ?_⟩)
      calls, registry ▸ h.fresh, ?_⟩
    · simp [outcome, Outcome.discard]
    · rw [phase]
      rw [← history] at failed
      exact failed

variable [Source σ]

theorem configured_does {s : Session (Traced σ)} (h : s.Sound) {operation : Operation}
    {result : Except Failure (Session (Traced σ))}
    (ok : ∀ t, result = .ok t → t.phase = s.phase ∧ t.registry = s.registry)
    (creations : (Move.configured operation s result).creations = []) :
    (Move.configured operation s result).Does ∧
      (Move.configured operation s result).after.Sound := by
  cases result with
  | error f => exact ⟨.rests rfl rfl creations, h⟩
  | ok t =>
    obtain ⟨phase, registry⟩ := ok t rfl
    refine ⟨.rests (congrArg Phase.state phase) ?_ creations, registry ▸ h.fresh, phase ▸ h.phase⟩
    simp only [Move.configured, calls, phase]

/-- A pull concerns an open source only. -/
theorem next_does {s : Session (Traced σ)} (h : s.Sound) (tokens : Tokens)
    (token : Option String) (interruption : Option Interruption) :
    (s.move (.next tokens token interruption)).Does ∧
      (s.next tokens token interruption).session.Sound := by
  have hm : s.move (.next tokens token interruption) =
      ⟨.next tokens token interruption, s, (s.next tokens token interruption).outcome.discard,
        (s.next tokens token interruption).session⟩ := rfl
  rw [hm]
  have nexts := s.next_nexts tokens token interruption
  generalize s.next tokens token interruption = p at nexts ⊢
  cases nexts with
  | refuses => exact ⟨.rests rfl rfl rfl, h⟩
  | skips reads => exact ⟨.skips rfl reads.state rfl reads.calls.symm, h.fresh, reads.inUse h⟩
  | awaits reads =>
    refine (s.takeRun_takes (Pull.await_continues _ _ _ _)).does h reads fun source abandoned => ?_
    exact absurd abandoned (Pull.await_not_abandoned _ _ _ _)
  | races reads =>
    refine (s.takeRun_takes (Pull.race_continues _ _ _ _ _)).does h reads fun source abandoned => ?_
    exact ⟨Pull.race_abandoned abandoned, _, rfl⟩

omit [Source σ] in
theorem calls_of_live {s t : Session (Traced σ)} (live : s.phase.live? = t.phase.live?)
    (going : s.state ≠ .stopped ∧ t.state ≠ .stopped) : s.calls = t.calls := by
  have made (u : Session (Traced σ)) (going : u.state ≠ .stopped) :
      u.phase.made? = u.phase.live? := by
    unfold state at going
    cases phase : u.phase with
    | stopped left => simp [phase, Phase.state] at going
    | _ => rfl
  unfold calls
  rw [made s going.1, made t going.2, live]

section Start

variable {s t : Session (Traced σ)} {filters : FilterSet} {blocking : Bool}
  {b : Backend (Traced σ)}

/-- The history of a source that has just been opened begins with its making. -/
theorem calls_of_opening (h : s.Sound) (admits : s.Admits filters b) {source : Traced σ}
    (made : b.factory = .ok source) (blocking : Bool) :
    (Source.start source (s.config filters blocking)).source.calls =
      [.made, .opened (Source.start source (s.config filters blocking)).result.isOk] := by
  change source.calls ++ [.opened (Source.start source (s.config filters blocking)).result.isOk] = _
  rw [h.fresh b (Registry.id_of_info admits.info).1 source made]
  rfl

/-- Without a new source the session keeps the one of a start that was cancelled, if it has one. -/
theorem renews_of_unmade (admits : s.Admits filters b) {f : Failure} (made : b.factory = .error f)
    (session : (s.start filters blocking).session = t) (live : t.phase.live? = s.phase.live?)
    (going : t.state ≠ .stopped) (succeeded : Bool) :
    (s.move (.start filters blocking)).Renews succeeded := by
  have after : (s.move (.start filters blocking)).after = (s.start filters blocking).session := rfl
  refine .inl ⟨?_, ?_⟩
  · rw [creations_known admits, made]
    rfl
  · rw [after, session]
    exact calls_of_live live ⟨going, by simp [admits.configuring]⟩

theorem renews_of_made (admits : s.Admits filters b) {source : Traced σ}
    (made : b.factory = .ok source) {succeeded : Bool}
    (calls : (s.start filters blocking).session.calls = [.made, .opened succeeded]) :
    (s.move (.start filters blocking)).Renews succeeded := by
  refine .inr ⟨b.id, ?_, calls⟩
  rw [creations_known admits, made]
  rfl

end Start

theorem start_does {s : Session (Traced σ)} (h : s.Sound) (filters : FilterSet) (blocking : Bool) :
    (s.move (.start filters blocking)).Does ∧ (s.start filters blocking).session.Sound := by
  have operation : (s.move (.start filters blocking)).operation = .start filters blocking := rfl
  have after : (s.move (.start filters blocking)).after = (s.start filters blocking).session := rfl
  cases s.start_starts filters blocking with
  | refuses outcome phase choice reason =>
    refine ⟨.rests (congrArg Phase.state phase) ?_ (creations_refused reason blocking),
      choice.registry ▸ h.fresh, phase ▸ h.phase⟩
    simp only [after, calls, phase]
    rfl
  | makesNone admits made own outcome session =>
    refine ⟨.starts operation admits.configuring (.inr ?_)
      ⟨false, renews_of_unmade admits made session rfl nofun _⟩, ?_⟩
    · rw [after, session]
      rfl
    · rw [session]
      refine ⟨h.fresh, ?_⟩
      change (Phase.failed s.phase.live?).Sound
      cases live : s.phase.live? with
      | none => trivial
      | some t => exact (unclosed_of_live h live).1
  | cancelsMaking admits made cancelled outcome session =>
    have configuring : (s.configured filters blocking s.phase).state = .configuring :=
      admits.configuring
    have registry : ¬ s.registry.Uncancelled := fun calm =>
      (calm _ (Registry.id_of_info admits.info).1).1 _ made cancelled
    refine ⟨.breaksOff operation admits.configuring registry ?_
      (renews_of_unmade admits made session rfl (by simp [configuring]) _), ?_⟩
    · rw [after, session]
      exact configuring
    · rw [session]
      exact ⟨h.fresh, h.phase⟩
  | opensNone admits made opened own outcome session =>
    have history := calls_of_opening h admits made blocking
    rw [opened] at history
    refine ⟨.starts operation admits.configuring (.inr ?_)
      ⟨false, renews_of_made admits made ?_⟩, ?_⟩
    · rw [after, session]
      rfl
    · rw [session]
      exact history
    · rw [session]
      exact ⟨h.fresh, .inl history⟩
  | cancelsOpening admits made opened cancelled outcome session =>
    have history := calls_of_opening h admits made blocking
    rw [opened] at history
    have registry : ¬ s.registry.Uncancelled := fun calm =>
      (calm _ (Registry.id_of_info admits.info).1).2 _ made _ _ opened cancelled
    refine ⟨.breaksOff operation admits.configuring registry ?_ (renews_of_made admits made ?_), ?_⟩
    · rw [after, session]
      rfl
    · rw [session]
      exact history
    · rw [session]
      exact ⟨h.fresh, history⟩
  | opens admits made opened outcome session =>
    have history := calls_of_opening h admits made blocking
    rw [opened] at history
    refine ⟨.starts operation admits.configuring (.inl ?_) ⟨true, renews_of_made admits made ?_⟩, ?_⟩
    · rw [after, session]
      rfl
    · rw [session]
      exact history
    · rw [session]
      exact ⟨h.fresh, ⟨[], history, nofun⟩⟩

theorem stop_does {s : Session (Traced σ)} (h : s.Sound) :
    (s.move .stop).Does ∧ s.stop.session.Sound := by
  have after : (s.move .stop).after = s.stop.session := rfl
  cases s.stop_stops with
  | again before outcome session =>
    rw [session] at after ⊢
    exact ⟨.rests (congrArg state after) (congrArg calls after) rfl, h⟩
  | alone before outcome session =>
    rw [session] at after ⊢
    refine ⟨.stops rfl ?_ (by rw [after]; rfl) (.inl ⟨?_, by rw [after]; rfl⟩), h.fresh, trivial⟩
    · change s.state ≠ .stopped
      rcases before with before | before <;> simp [state, before, Phase.state]
    · change s.calls = []
      rcases before with before | before <;> simp [calls, before, Phase.made?, Phase.live?]
  | @closes t live outcome session =>
    obtain ⟨unclosed, history, going⟩ := unclosed_of_live h live
    rw [session] at after ⊢
    refine ⟨.stops rfl going (by rw [after]; rfl) (.inr ⟨?_, ?_⟩), h.fresh, t.calls, rfl, unclosed⟩
    · change .made ∈ s.calls
      rw [history]
      exact unclosed.made_mem
    · change (s.move .stop).after.calls = s.calls ++ [.closed]
      rw [after, history]
      rfl

theorem move_does {s : Session (Traced σ)} (h : s.Sound) (operation : Operation) :
    (s.move operation).Does ∧ (s.move operation).after.Sound := by
  cases operation with
  | select id =>
    refine configured_does h (fun t selected => ?_) (by simp [Move.creations])
    obtain ⟨-, rfl⟩ := selectBackend_ok selected
    exact ⟨rfl, rfl⟩
  | setOption handle value =>
    refine configured_does h (fun t set => ?_) (by simp [Move.creations])
    obtain ⟨-, rfl⟩ := setBackendOption_ok set
    exact ⟨rfl, rfl⟩
  | start filters blocking => exact start_does h filters blocking
  | next tokens token interruption => exact next_does h tokens token interruption
  | dump record => exact ⟨.rests rfl rfl rfl, h⟩
  | stop => exact stop_does h

end Session
end RouteFeed
