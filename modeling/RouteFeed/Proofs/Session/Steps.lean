import RouteFeed.Proofs.Computation
import RouteFeed.Session

/-! What the operations of a session can come to, one case for each way they go. -/
namespace RouteFeed

variable {σ : Type}

theorem Phase.going_of_live {phase : Phase σ} {source : σ} (live : phase.live? = some source) :
    phase.state ≠ .stopped := by
  cases phase with
  | stopped left => cases live
  | _ => exact nofun

namespace Session

theorem eq_of_new {registry : Registry σ} {backend : Option BackendId} {s : Session σ}
    (h : new registry backend = .ok s) : ∃ id, s = { registry, backend := id } := by
  cases backend with
  | some id =>
    cases h
    exact ⟨id, rfl⟩
  | none =>
    obtain ⟨id, _, made⟩ := map_ok h
    exact ⟨id, made.symm⟩

def Reads (s : Session σ) (source : σ) : Prop :=
  s.phase = .started source ∨ s.phase = .iterating source

theorem Reads.state {s : Session σ} {source : σ} (h : s.Reads source) :
    s.state = .started ∨ s.state = .iterating := by
  rcases h with h | h <;> simp [Session.state, h, Phase.state]

theorem requireConfiguring_ok {s : Session σ} {action : String}
    (h : s.requireConfiguring action = .ok ()) : s.state = .configuring := by
  unfold requireConfiguring at h
  split at h
  · assumption
  · cases h

theorem configuring_allows {s : Session σ} (configuring : s.state = .configuring)
    (action : String) : s.requireConfiguring action = .ok () := if_pos configuring

/-- A session is being configured before its first start, and after a start that was cancelled. -/
theorem state_eq_configuring_iff {s : Session σ} :
    s.state = .configuring ↔ s.phase = .configuring ∨ ∃ source, s.phase = .unopened source := by
  unfold state
  cases s.phase <;> simp [Phase.state]

theorem requireConfiguring_error {s : Session σ} {action : String} {f : Failure}
    (h : s.requireConfiguring action = .error f) :
    f.kind = .sessionState ∧ s.state ≠ .configuring := by
  unfold requireConfiguring at h
  split at h
  · cases h
  · rename_i state
    cases h
    exact ⟨rfl, state⟩

theorem selectBackend_ok {s t : Session σ} {id : BackendId} (h : s.selectBackend id = .ok t) :
    (∃ b, s.registry.info id = .ok b) ∧ t = { s with backend := id, options := [] } := by
  obtain ⟨_, _, h⟩ := bind_ok h
  obtain ⟨b, info, h⟩ := bind_ok h
  cases h
  exact ⟨⟨b, info⟩, rfl⟩

theorem setBackendOption_ok {s t : Session σ} {handle : OptionHandle} {value : String}
    (h : s.setBackendOption handle value = .ok t) :
    handle.backend = s.backend ∧
      t = { s with options := Named.put s.options handle.name value } := by
  obtain ⟨_, _, h⟩ := bind_ok h
  split at h
  · rename_i own
    cases h
    exact ⟨own, rfl⟩
  · obtain ⟨_, _, h⟩ := bind_ok h
    obtain ⟨_, _, h⟩ := bind_ok h
    cases h

def config (s : Session σ) (filters : FilterSet) (blocking : Bool) : StreamConfig :=
  { filters := filters.snapshot, options := s.options, blocking }

def configured (s : Session σ) (filters : FilterSet) (blocking : Bool) (phase : Phase σ) :
    Session σ :=
  { s with filters := some filters.snapshot, blocking, phase }

theorem backendName_configured {s : Session σ} {b : Backend σ}
    (info : s.registry.info s.backend = .ok b) (filters : FilterSet) (blocking : Bool)
    (phase : Phase σ) : (s.configured filters blocking phase).backendName = .ok b.name := by
  simp [backendName, configured, info, Except.map]

/-- The interfaces, the one that is chosen and its options are the same. -/
structure SameChoice (s t : Session σ) : Prop where
  registry : t.registry = s.registry
  backend : t.backend = s.backend
  options : t.options = s.options

theorem takeRun_tokens (s : Session σ) (r : PullRun σ) : (s.takeRun r).tokens = r.tokens := by
  unfold takeRun
  cases r.finish <;> rfl

inductive Taken (s : Session σ) (r : PullRun σ) (p : Pulled σ) : Prop
  | returns {record source} (finish : r.finish = .answered (.ok record) source)
    (outcome : p.outcome = .returned record)
    (session : p.session = { s with phase := .iterating source })
  | cancels {f source} (finish : r.finish = .answered (.error f) source)
    (cancelled : f.kind = .cancelled) (outcome : p.outcome = .raised f)
    (session : p.session = { s with phase := .iterating source })
  | fails {f source} (finish : r.finish = .answered (.error f) source ∨
      r.finish = .calledOff (.error f) source)
    (own : f.kind ≠ .cancelled) (outcome : p.outcome = .raised (s.pullFailure f))
    (session : p.session = { s with phase := .failed (some source) })
  /-- What was called off is dropped, a cancellation of its own too. -/
  | drops {answer source name} (finish : r.finish = .calledOff answer source)
    (calm : ∀ f, answer = .error f → f.kind = .cancelled) (named : s.backendName = .ok name)
    (outcome : p.outcome = .returned none)
    (session : p.session = { s with phase := .iterating source })
  /-- What was called off cannot be reported, as the interface is not registered. -/
  | loses {answer source g} (finish : r.finish = .calledOff answer source)
    (calm : ∀ f, answer = .error f → f.kind = .cancelled) (unnamed : s.backendName = .error g)
    (outcome : p.outcome = .raised g)
    (session : p.session = { s with phase := .failed (some source) })
  | abandons {source} (finish : r.finish = .abandoned source)
    (outcome : p.outcome = .raised .cancelled)
    (session : p.session = { s with phase := .iterating source })
  | waits {source} (finish : r.finish = .stuck source) (outcome : p.outcome = .blocked)
    (session : p.session = { s with phase := .iterating source })

theorem takeRun_taken (s : Session σ) (r : PullRun σ) : s.Taken r (s.takeRun r) := by
  unfold takeRun
  cases finish : r.finish with
  | answered answer source =>
    cases answer with
    | ok record => exact .returns finish rfl rfl
    | error f =>
      by_cases cancelled : f.kind = .cancelled
      · simp only [take, cancelled, if_true]
        exact .cancels finish cancelled rfl rfl
      · simp only [take, cancelled, if_false]
        exact .fails (.inl finish) cancelled rfl rfl
  | calledOff answer source =>
    by_cases own : ∃ f, answer = .error f ∧ f.kind ≠ .cancelled
    · obtain ⟨f, rfl, own⟩ := own
      simp only [takeCalledOff, own, if_false]
      exact .fails (.inr finish) own rfl rfl
    · have calm : ∀ f, answer = .error f → f.kind = .cancelled := fun f same =>
        Classical.byContradiction fun kind => own ⟨f, same, kind⟩
      have dropped : s.takeCalledOff answer source = s.takeCalledOff (.ok none) source := by
        cases answer with
        | ok record => rfl
        | error f => simp only [takeCalledOff, calm f rfl, if_true]
      simp only [dropped]
      simp only [takeCalledOff]
      cases named : s.backendName with
      | ok name => exact .drops finish calm named rfl rfl
      | error g => exact .loses finish calm named rfl rfl
  | abandoned source => exact .abandons finish rfl rfl
  | stuck source => exact .waits finish rfl rfl

theorem takeRun_sameChoice (s : Session σ) (r : PullRun σ) :
    s.SameChoice (s.takeRun r).session := by
  cases s.takeRun_taken r <;> rename_i session <;> rw [session] <;> exact ⟨rfl, rfl, rfl⟩

variable [Source σ]

theorem Reads.next {s : Session σ} {source : σ} (h : s.Reads source) (tokens : Tokens)
    (token : Option String) (interruption : Option Interruption) :
    s.next tokens token interruption = s.pullFrom source tokens token interruption := by
  rcases h with h | h <;> simp [Session.next, h]

theorem next_of_not_reads {s : Session σ} (h : ¬ ∃ source, s.Reads source) (tokens : Tokens)
    (token : Option String) (interruption : Option Interruption) :
    s.next tokens token interruption = ⟨.raised (s.refusal "pull records"), s, tokens, []⟩ := by
  unfold Session.next
  split
  · rename_i source phase
    exact absurd ⟨source, .inl phase⟩ h
  · rename_i source phase
    exact absurd ⟨source, .inr phase⟩ h
  · rfl

inductive Nexts (s : Session σ) (tokens : Tokens) (interruption : Option Interruption) :
    Option String → Pulled σ → Prop
  | refuses (token) (unread : ¬ ∃ source, s.Reads source) :
    Nexts s tokens interruption token ⟨.raised (s.refusal "pull records"), s, tokens, []⟩
  | skips {source name} (reads : s.Reads source) (fired : tokens.isFired name = true) :
    Nexts s tokens interruption (some name)
      ⟨.returned none, { s with phase := .iterating source }, tokens, []⟩
  | awaits {source} (reads : s.Reads source) :
    Nexts s tokens interruption none (s.takeRun ((Source.pull source).await interruption tokens))
  | races {source name} (reads : s.Reads source) (unfired : tokens.isFired name = false) :
    Nexts s tokens interruption (some name)
      (s.takeRun ((Source.pull source).race name interruption tokens.settle))

theorem next_nexts (s : Session σ) (tokens : Tokens) (token : Option String)
    (interruption : Option Interruption) :
    s.Nexts tokens interruption token (s.next tokens token interruption) := by
  by_cases reads : ∃ source, s.Reads source
  · obtain ⟨source, reads⟩ := reads
    rw [reads.next]
    cases token with
    | none => exact .awaits reads
    | some name =>
      rw [pullFrom]
      cases fired : tokens.isFired name with
      | true => exact .skips reads fired
      | false => exact .races reads fired
  · rw [next_of_not_reads reads]
    exact .refuses token reads

theorem next_sameChoice (s : Session σ) (tokens : Tokens) (token : Option String)
    (interruption : Option Interruption) :
    s.SameChoice (s.next tokens token interruption).session := by
  have nexts := s.next_nexts tokens token interruption
  generalize s.next tokens token interruption = p at nexts ⊢
  cases nexts with
  | refuses | skips => exact ⟨rfl, rfl, rfl⟩
  | awaits | races => exact s.takeRun_sameChoice _

omit [Source σ] in
/-- A start of the session comes to the factory of an interface. -/
structure Admits (s : Session σ) (filters : FilterSet) (b : Backend σ) : Prop where
  configuring : s.state = .configuring
  windowed : filters.windows ≠ []
  info : s.registry.info s.backend = .ok b

/-- What a start comes to. Only a start that is cancelled leaves the session configuring once its
factory has been called. -/
inductive Starts (s : Session σ) (filters : FilterSet) (blocking : Bool) (r : Step σ Unit) : Prop
  | refuses {f} (outcome : r.outcome = .raised f) (phase : r.session.phase = s.phase)
    (choice : s.SameChoice r.session) (reason : ¬ ∃ b, s.Admits filters b)
  | makesNone {b f} (admits : s.Admits filters b) (made : b.factory = .error f)
    (own : f.kind ≠ .cancelled) (outcome : r.outcome = .raised (initFailure b.name f))
    (session : r.session = s.configured filters blocking (.failed s.phase.live?))
  | cancelsMaking {b f} (admits : s.Admits filters b) (made : b.factory = .error f)
    (cancelled : f.kind = .cancelled) (outcome : r.outcome = .raised f)
    (session : r.session = s.configured filters blocking s.phase)
  | opensNone {b source f} (admits : s.Admits filters b) (made : b.factory = .ok source)
    (opened : (Source.start source (s.config filters blocking)).result = .error f)
    (own : f.kind ≠ .cancelled) (outcome : r.outcome = .raised (initFailure b.name f))
    (session : r.session = s.configured filters blocking
      (.failed (some (Source.start source (s.config filters blocking)).source)))
  | cancelsOpening {b source f} (admits : s.Admits filters b) (made : b.factory = .ok source)
    (opened : (Source.start source (s.config filters blocking)).result = .error f)
    (cancelled : f.kind = .cancelled) (outcome : r.outcome = .raised f)
    (session : r.session = s.configured filters blocking
      (.unopened (Source.start source (s.config filters blocking)).source))
  | opens {b source} (admits : s.Admits filters b) (made : b.factory = .ok source)
    (opened : (Source.start source (s.config filters blocking)).result = .ok ())
    (outcome : r.outcome = .returned ())
    (session : r.session = s.configured filters blocking
      (.started (Source.start source (s.config filters blocking)).source))

omit [Source σ] in
theorem elim_live {s : Session σ} (configuring : s.state = .configuring) :
    s.phase.live?.elim s.phase .unopened = s.phase := by
  rcases state_eq_configuring_iff.mp configuring with phase | ⟨source, phase⟩ <;> rw [phase] <;> rfl

theorem start_starts (s : Session σ) (filters : FilterSet) (blocking : Bool) :
    s.Starts filters blocking (s.start filters blocking) := by
  unfold start
  cases required : s.requireConfiguring "start" with
  | error f =>
    exact .refuses rfl rfl ⟨rfl, rfl, rfl⟩ fun ⟨b, admits⟩ =>
      (requireConfiguring_error required).2 admits.configuring
  | ok _ =>
    have configuring := requireConfiguring_ok required
    by_cases empty : filters.windows.isEmpty
    · simp only [empty, if_true]
      exact .refuses rfl rfl ⟨rfl, rfl, rfl⟩ fun ⟨b, admits⟩ => admits.windowed (List.isEmpty_iff.mp empty)
    · simp only [empty, Bool.false_eq_true, if_false]
      cases info : s.registry.info s.backend with
      | error f =>
        exact .refuses rfl rfl ⟨rfl, rfl, rfl⟩ fun ⟨b, admits⟩ => nomatch info.symm.trans admits.info
      | ok b =>
        have admits : s.Admits filters b := ⟨configuring, by simpa using empty, info⟩
        cases made : b.factory with
        | error f =>
          simp only [made, startFailed]
          by_cases cancelled : f.kind = .cancelled
          · rw [if_pos cancelled, elim_live configuring]
            exact .cancelsMaking admits made cancelled rfl rfl
          · rw [if_neg cancelled]
            exact .makesNone admits made cancelled rfl rfl
        | ok source =>
          have same : ({ filters := filters.snapshot, options := s.options, blocking } :
              StreamConfig) = s.config filters blocking := rfl
          simp only [made, same]
          cases opened : (Source.start source (s.config filters blocking)).result with
          | error f =>
            simp only [startFailed]
            by_cases cancelled : f.kind = .cancelled
            · rw [if_pos cancelled]
              exact .cancelsOpening admits made opened cancelled rfl rfl
            · rw [if_neg cancelled]
              exact .opensNone admits made opened cancelled rfl rfl
          | ok _ => exact .opens admits made opened rfl rfl

omit [Source σ] in
theorem Admits.unique {s : Session σ} {filters : FilterSet} {b b' : Backend σ}
    (admits : s.Admits filters b) (admits' : s.Admits filters b') : b' = b :=
  Except.ok.inj (admits'.info.symm.trans admits.info)

/-- What a start comes to once the factory has given the source. -/
inductive Opens (s : Session σ) (filters : FilterSet) (blocking : Bool) (name : String) (source : σ)
    (r : Step σ Unit) : Prop
  | fails {f} (opened : (Source.start source (s.config filters blocking)).result = .error f)
    (own : f.kind ≠ .cancelled) (outcome : r.outcome = .raised (initFailure name f))
    (session : r.session = s.configured filters blocking
      (.failed (some (Source.start source (s.config filters blocking)).source)))
  | cancels {f} (opened : (Source.start source (s.config filters blocking)).result = .error f)
    (cancelled : f.kind = .cancelled) (outcome : r.outcome = .raised f)
    (session : r.session = s.configured filters blocking
      (.unopened (Source.start source (s.config filters blocking)).source))
  | succeeds (opened : (Source.start source (s.config filters blocking)).result = .ok ())
    (outcome : r.outcome = .returned ())
    (session : r.session = s.configured filters blocking
      (.started (Source.start source (s.config filters blocking)).source))

theorem start_opens {s : Session σ} {filters : FilterSet} {b : Backend σ} {source : σ}
    (admits : s.Admits filters b) (made : b.factory = .ok source) (blocking : Bool) :
    s.Opens filters blocking b.name source (s.start filters blocking) := by
  cases s.start_starts filters blocking with
  | refuses _ _ _ reason => exact absurd ⟨b, admits⟩ reason
  | makesNone found failed | cancelsMaking found failed =>
    obtain rfl := admits.unique found
    cases made.symm.trans failed
  | opensNone found given opened own outcome session =>
    obtain rfl := admits.unique found
    cases made.symm.trans given
    exact .fails opened own outcome session
  | cancelsOpening found given opened cancelled outcome session =>
    obtain rfl := admits.unique found
    cases made.symm.trans given
    exact .cancels opened cancelled outcome session
  | opens found given opened outcome session =>
    obtain rfl := admits.unique found
    cases made.symm.trans given
    exact .succeeds opened outcome session

theorem start_sameChoice (s : Session σ) (filters : FilterSet) (blocking : Bool) :
    s.SameChoice (s.start filters blocking).session := by
  cases s.start_starts filters blocking with
  | refuses _ _ choice => exact choice
  | makesNone _ _ _ _ session | cancelsMaking _ _ _ _ session =>
    rw [session]
    exact ⟨rfl, rfl, rfl⟩
  | opensNone _ _ _ _ _ session | cancelsOpening _ _ _ _ _ session =>
    rw [session]
    exact ⟨rfl, rfl, rfl⟩
  | opens _ _ _ _ session =>
    rw [session]
    exact ⟨rfl, rfl, rfl⟩

inductive Stops (s : Session σ) (r : Step σ Unit) : Prop
  | again {source} (before : s.phase = .stopped source) (outcome : r.outcome = .returned ())
    (session : r.session = s)
  | alone (before : s.phase = .configuring ∨ s.phase = .failed none)
    (outcome : r.outcome = .returned ()) (session : r.session = { s with phase := .stopped none })
  | closes {source} (live : s.phase.live? = some source)
    (outcome : r.outcome = match (Source.close source).1 with
      | .error f => .raised f
      | .ok () => .ofExcept (s.backendName.map fun _ => ()))
    (session : r.session = { s with phase := .stopped (some (Source.close source).2) })

theorem stop_of_live {s : Session σ} {source : σ} (live : s.phase.live? = some source)
    (going : ∀ left, s.phase ≠ .stopped left) :
    s.stop = match (Source.close source).1 with
      | .error f => ⟨.raised f, { s with phase := .stopped (some (Source.close source).2) }, []⟩
      | .ok () =>
        match s.backendName with
        | .ok name =>
          ⟨.returned (), { s with phase := .stopped (some (Source.close source).2) },
            [.info "Session stopped" [("backend", .text name)]]⟩
        | .error f =>
          ⟨.raised f, { s with phase := .stopped (some (Source.close source).2) }, []⟩ := by
  unfold stop
  split
  · rename_i left phase
    exact absurd phase (going left)
  · simp only [live]
    rfl

theorem stop_stops (s : Session σ) : s.Stops s.stop := by
  have closes {source : σ} (live : s.phase.live? = some source)
      (going : ∀ left, s.phase ≠ .stopped left) : s.Stops s.stop := by
    rw [stop_of_live live going]
    cases result : (Source.close source).1 with
    | error f => exact .closes live (by simp [result]) rfl
    | ok _ =>
      cases named : s.backendName with
      | ok name => exact .closes live (by rw [result, named]; rfl) rfl
      | error f => exact .closes live (by rw [result, named]; rfl) rfl
  cases phase : s.phase with
  | stopped source =>
    have hs : s.stop = ⟨.returned (), s, []⟩ := by simp [stop, phase]
    rw [hs]
    exact .again phase rfl rfl
  | configuring =>
    have hs : s.stop = ⟨.returned (), { s with phase := .stopped none }, []⟩ := by
      simp [stop, phase, Phase.live?]
    rw [hs]
    exact .alone (.inl phase) rfl rfl
  | unopened source => exact closes (by rw [phase]; rfl) (by simp [phase])
  | started source => exact closes (by rw [phase]; rfl) (by simp [phase])
  | iterating source => exact closes (by rw [phase]; rfl) (by simp [phase])
  | failed source =>
    cases source with
    | some source => exact closes (by rw [phase]; rfl) (by simp [phase])
    | none =>
      have hs : s.stop = ⟨.returned (), { s with phase := .stopped none }, []⟩ := by
        simp [stop, phase, Phase.live?]
      rw [hs]
      exact .alone (.inr phase) rfl rfl

theorem stop_sameChoice (s : Session σ) : s.SameChoice s.stop.session := by
  cases s.stop_stops with
  | again _ _ session | alone _ _ session | closes _ _ session =>
    rw [session]
    exact ⟨rfl, rfl, rfl⟩

theorem stop_of_released {s : Session σ} {name : String} (going : s.state ≠ .stopped)
    (released : ∀ source, s.phase.live? = some source → (Source.close source).1 = .ok ())
    (named : s.backendName = .ok name) :
    s.stop.outcome = .returned () ∧
      s.stop.session =
        { s with phase := .stopped (s.phase.live?.map fun source => (Source.close source).2) } := by
  cases s.stop_stops with
  | again before => exact absurd (congrArg Phase.state before) going
  | alone before outcome session =>
    refine ⟨outcome, session.trans ?_⟩
    rcases before with before | before <;> rw [before] <;> rfl
  | closes live outcome session =>
    rw [released _ live, named] at outcome
    exact ⟨outcome, session.trans (by rw [live]; rfl)⟩

end Session
end RouteFeed
