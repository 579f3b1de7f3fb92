import RouteFeed.Proofs.Session.Lifecycle
import RouteFeed.Source.Scripted

/-! The history of a session under every procedure: which states it goes through, which operations it
refuses, and which calls its source gets, in which order and how often. -/
namespace RouteFeed

variable {σ : Type}

namespace Move

/-- The state goes on as the lifecycle allows. -/
def Allowed (m : Move σ) : Prop :=
  m.after.state = m.before.state ∨
    match m.operation with
    | .start _ _ =>
      m.before.state = .configuring ∧ (m.after.state = .started ∨ m.after.state = .error)
    | .next _ _ _ =>
      (m.before.state = .started ∨ m.before.state = .iterating) ∧
        (m.after.state = .iterating ∨ m.after.state = .error)
    | .stop => m.after.state = .stopped
    | _ => False

/-- The operation does not belong to the state of the session. -/
def OutOfPlace (m : Move σ) : Prop :=
  match m.operation with
  | .select _ | .setOption _ _ | .start _ _ => m.before.state ≠ .configuring
  | .next _ _ _ => m.before.state ≠ .started ∧ m.before.state ≠ .iterating
  | _ => False

/-- The operation fails because of the state, and nothing has changed. -/
def Refused (m : Move σ) : Prop :=
  (∃ f, m.outcome = .raised f ∧ f.kind = .sessionState) ∧ m.after = m.before

/-- A pull whose source fails, and whose failure nobody sees. -/
def Hides (m : Move (Traced σ)) : Prop :=
  m.Abandons ∧ m.after.calls = m.before.calls ++ [.pulled, .failed]

def Pulls (m : Move (Traced σ)) : Prop :=
  ∃ rest, m.after.calls = m.before.calls ++ .pulled :: rest

variable [Source σ]

theorem Does.allowed {m : Move (Traced σ)} (h : m.Does) : m.Allowed := by
  unfold Allowed
  cases h with
  | rests state => exact .inl state
  | starts operation before state =>
    rw [operation]
    exact .inr ⟨before, state⟩
  | breaksOff operation before _ state => exact .inl (state.trans before.symm)
  | skips operation before state =>
    rw [operation]
    exact .inr ⟨before, .inl state⟩
  | pulls operation before state =>
    rw [operation]
    exact .inr ⟨before, state⟩
  | fails operation before state =>
    rw [operation]
    exact .inr ⟨before, state.symm.imp_left And.left⟩
  | stops operation before state =>
    rw [operation]
    exact .inr state

theorem Does.stopped {m : Move (Traced σ)} (h : m.Does) (stopped : m.before.state = .stopped) :
    m.after.state = .stopped := by
  cases h with
  | rests state => exact state.trans stopped
  | starts _ before | breaksOff _ before =>
    rw [stopped] at before
    cases before
  | stops operation before state => exact state
  | skips _ before | pulls _ before | fails _ before =>
    rw [stopped] at before
    rcases before with before | before <;> cases before

/-- The history of the one source that a session may have grows by a move, by its creation too. -/
structure Extends (m : Move (Traced σ)) : Prop where
  grows : m.before.calls <+: m.after.calls
  made : m.after.calls.count .made = m.before.calls.count .made + m.creations.length

theorem Renews.extends {m : Move (Traced σ)} {succeeded : Bool} (h : m.Renews succeeded)
    (fresh : m.before.calls = []) : m.Extends := by
  rcases h with ⟨creations, calls⟩ | ⟨id, creations, calls⟩
  · exact ⟨calls ▸ List.prefix_rfl, by simp [creations, calls]⟩
  · exact ⟨fresh ▸ List.nil_prefix, by simp [creations, calls, fresh]⟩

/-- A session that is being configured has no source, unless the start of one was cancelled. -/
theorem Does.extends {m : Move (Traced σ)} (h : m.Does)
    (fresh : m.before.state = .configuring → m.before.calls = []) : m.Extends := by
  cases h with
  | rests _ calls creations => exact ⟨calls ▸ List.prefix_rfl, by simp [calls, creations]⟩
  | starts _ before _ calls =>
    obtain ⟨succeeded, renews⟩ := calls
    exact renews.extends (fresh before)
  | breaksOff _ before _ _ calls => exact calls.extends (fresh before)
  | skips operation _ _ calls =>
    exact ⟨calls ▸ List.prefix_rfl, by simp [calls, creations, operation]⟩
  | pulls operation _ _ calls | fails operation _ _ calls =>
    exact ⟨calls ▸ List.prefix_append _ _, by simp [calls, creations, operation]⟩
  | stops operation _ _ calls =>
    rcases calls with ⟨before, after⟩ | ⟨_, calls⟩
    · exact ⟨before ▸ List.nil_prefix, by simp [before, after, creations, operation]⟩
    · exact ⟨calls ▸ List.prefix_append _ _, by simp [calls, creations, operation]⟩

/-- Only a cancelled start leaves a session configuring with a source. -/
theorem Does.fresh {m : Move (Traced σ)} (h : m.Does) (calm : m.before.registry.Uncancelled)
    (fresh : m.before.state = .configuring → m.before.calls = [])
    (configuring : m.after.state = .configuring) : m.after.calls = [] := by
  cases h with
  | rests state calls => exact calls.trans (fresh (state ▸ configuring))
  | breaksOff _ _ registry => exact absurd calm registry
  | starts _ _ state | pulls _ _ state | fails _ _ state => simp [configuring] at state
  | skips _ _ state | stops _ _ state => simp [configuring] at state

end Move

/-- What does not belong to its state is refused, and no factory is called for it. -/
theorem Session.move_refused [Source σ] (s : Session σ) (operation : Operation)
    (h : (s.move operation).OutOfPlace) :
    (s.move operation).Refused ∧ (s.move operation).creations = [] := by
  unfold Move.OutOfPlace at h
  rw [move_operation, move_before] at h
  have required {action : String} (state : s.state ≠ .configuring) :
      s.requireConfiguring action = .error (s.refusal action) := by
    simp [requireConfiguring, state]
  cases operation with
  | select id =>
    have refused : s.selectBackend id = .error (s.refusal "select a backend") := by
      rw [selectBackend, required h]
      rfl
    rw [move, refused]
    exact ⟨⟨⟨_, rfl, rfl⟩, rfl⟩, rfl⟩
  | setOption handle value =>
    have refused : s.setBackendOption handle value =
        .error (s.refusal "set a backend option") := by
      rw [setBackendOption, required h]
      rfl
    rw [move, refused]
    exact ⟨⟨⟨_, rfl, rfl⟩, rfl⟩, rfl⟩
  | start filters blocking =>
    have refused : s.start filters blocking = ⟨.raised (s.refusal "start"), s, []⟩ := by
      rw [start, required h]
    constructor
    · rw [move, refused]
      exact ⟨⟨_, rfl, rfl⟩, rfl⟩
    · refine creations_refused ?_ blocking
      rintro ⟨b, admits⟩
      exact h admits.configuring
  | next tokens token interruption =>
    have refused : s.next tokens token interruption =
        ⟨.raised (s.refusal "pull records"), s, tokens, []⟩ := by
      unfold next
      unfold state at h
      split
      · rename_i source phase
        exact absurd (congrArg Phase.state phase) h.1
      · rename_i source phase
        exact absurd (congrArg Phase.state phase) h.2
      · rfl
    rw [move, refused]
    exact ⟨⟨⟨_, rfl, rfl⟩, rfl⟩, rfl⟩
  | dump record => exact h.elim
  | stop => exact h.elim

theorem Session.move_registry [Source σ] (s : Session σ) (operation : Operation) :
    (s.move operation).after.registry = s.registry := by
  have configured {operation : Operation} {result : Except Failure (Session σ)}
      (ok : ∀ t, result = .ok t → t.registry = s.registry) :
      (Move.configured operation s result).after.registry = s.registry := by
    cases result with
    | error f => rfl
    | ok t => exact ok t rfl
  cases operation with
  | select id => exact configured fun t selected => (selectBackend_ok selected).2 ▸ rfl
  | setOption handle value => exact configured fun t set => (setBackendOption_ok set).2 ▸ rfl
  | start filters blocking => exact (s.start_sameChoice filters blocking).registry
  | next tokens token interruption => exact (s.next_sameChoice tokens token interruption).registry
  | dump record => rfl
  | stop => exact s.stop_sameChoice.registry

/-- The calls of a source in a good order: it is made once at most, and opened once at most; it is
pulled only after it was opened, never after it was closed, and it is closed exactly once if the
session has been stopped, and not before. -/
structure Session.Orderly (s : Session (Traced σ)) : Prop where
  made : s.calls.count .made ≤ 1
  opened : s.calls.count (.opened true) + s.calls.count (.opened false) ≤ 1
  pulled : .pulled ∈ s.calls → [.made, .opened true] <+: s.calls
  last : ∀ before after, s.calls = before ++ .closed :: after → after = []
  closed : s.calls.count .closed = if s.state = .stopped ∧ .made ∈ s.calls then 1 else 0

theorem Unclosed.counts {calls : List SourceCall} (h : Unclosed calls) :
    calls.count .made = 1 ∧ calls.count (.opened true) + calls.count (.opened false) = 1 ∧
      calls.count .closed = 0 := by
  rcases h with rfl | ⟨pulls, rfl, only⟩
  · decide
  · have none (c : SourceCall) (pulled : c ≠ .pulled) (failed : c ≠ .failed) :
        pulls.count c = 0 := by
      refine List.count_eq_zero.mpr fun hc => ?_
      rcases only c hc with rfl | rfl
      · exact pulled rfl
      · exact failed rfl
    simp [none]

theorem Unclosed.pulled {calls : List SourceCall} (h : Unclosed calls)
    (pulled : .pulled ∈ calls) : [.made, .opened true] <+: calls := by
  rcases h with rfl | ⟨pulls, rfl, only⟩
  · simp at pulled
  · exact ⟨pulls, rfl⟩

theorem last_of_append {calls before after : List SourceCall} (h : calls.count .closed = 0)
    (split : calls ++ [.closed] = before ++ .closed :: after) : after = [] := by
  cases after with
  | nil => rfl
  | cons c cs =>
    have inner := congrArg List.dropLast split
    rw [List.dropLast_concat, List.dropLast_append_of_ne_nil (by simp)] at inner
    rw [inner, List.dropLast_cons_of_ne_nil (by simp), List.count_append, List.count_cons_self] at h
    omega

namespace Session

theorem orderly_of_unclosed {s : Session (Traced σ)} (h : Unclosed s.calls)
    (going : s.state ≠ .stopped) : s.Orderly := by
  obtain ⟨made, opened, closed⟩ := h.counts
  refine ⟨by omega, by omega, h.pulled, fun before after split => ?_, by simp [going, closed]⟩
  rw [split, List.count_append, List.count_cons_self] at closed
  omega

theorem orderly_of_closed {s : Session (Traced σ)} {calls : List SourceCall} (h : Unclosed calls)
    (split : s.calls = calls ++ [.closed]) (stopped : s.state = .stopped) : s.Orderly := by
  obtain ⟨made, opened, closed⟩ := h.counts
  have member := h.made_mem
  constructor
  · simp [split, made]
  · simp [split]
    omega
  · intro pulled
    rw [split] at pulled ⊢
    have inside : .pulled ∈ calls := by simpa using pulled
    exact (h.pulled inside).trans (List.prefix_append _ _)
  · intro before after h
    exact last_of_append closed (split ▸ h)
  · simp [split, closed, stopped, member]

theorem orderly_of_empty {s : Session (Traced σ)} (h : s.calls = []) : s.Orderly := by
  constructor <;> simp [h]

theorem Sound.orderly {s : Session (Traced σ)} (h : s.Sound) : s.Orderly := by
  have hp := h.phase
  cases phase : s.phase with
  | configuring => exact orderly_of_empty (by simp [calls, phase, Phase.made?, Phase.live?])
  | unopened t =>
    obtain ⟨unclosed, history, going⟩ := unclosed_of_live h (by rw [phase]; rfl)
    exact orderly_of_unclosed (history ▸ unclosed) going
  | started t =>
    obtain ⟨unclosed, history, going⟩ := unclosed_of_live h (by rw [phase]; rfl)
    exact orderly_of_unclosed (history ▸ unclosed) going
  | iterating t =>
    obtain ⟨unclosed, history, going⟩ := unclosed_of_live h (by rw [phase]; rfl)
    exact orderly_of_unclosed (history ▸ unclosed) going
  | failed source =>
    cases source with
    | none => exact orderly_of_empty (by simp [calls, phase, Phase.made?, Phase.live?])
    | some t =>
      obtain ⟨unclosed, history, going⟩ := unclosed_of_live h (by rw [phase]; rfl)
      exact orderly_of_unclosed (history ▸ unclosed) going
  | stopped source =>
    cases source with
    | none => exact orderly_of_empty (by simp [calls, phase, Phase.made?])
    | some t =>
      rw [phase] at hp
      obtain ⟨inner, split, unclosed⟩ := hp
      refine orderly_of_closed unclosed ?_ (congrArg Phase.state phase)
      simp [calls, phase, Phase.made?, split]

theorem Sound.count_closed {s : Session (Traced σ)} (h : s.Sound) {source : Option (Traced σ)}
    (stopped : s.phase = .stopped source) :
    s.calls.count .closed = if source.isSome then 1 else 0 := by
  cases source with
  | none => simp [calls, stopped, Phase.made?]
  | some t =>
    have sound := h.phase
    rw [stopped] at sound
    obtain ⟨inner, split, unclosed⟩ := sound
    have split : s.calls = inner ++ [.closed] := by simp [calls, stopped, Phase.made?, split]
    have made : .made ∈ s.calls := split ▸ List.mem_append_left _ unclosed.made_mem
    rw [h.orderly.closed, if_pos ⟨congrArg Phase.state stopped, made⟩]
    rfl

theorem Sound.inUse {s : Session (Traced σ)} (h : s.Sound)
    (reads : s.state = .started ∨ s.state = .iterating) : InUse s.calls := by
  unfold state at reads
  cases phase : s.phase with
  | started t =>
    have hr : s.Reads t := .inl phase
    exact hr.calls ▸ hr.inUse h
  | iterating t =>
    have hr : s.Reads t := .inr phase
    exact hr.calls ▸ hr.inUse h
  | _ => simp [phase, Phase.state] at reads

end Session

def HasFailed (calls : List SourceCall) : Prop := .failed ∈ calls ∨ .opened false ∈ calls

def PulledAfterFailure (calls : List SourceCall) : Prop :=
  ∃ before after, calls = before ++ after ∧ HasFailed before ∧ .pulled ∈ after

/-- A failure is hidden, and the source is pulled later. -/
def Overlooks (moves : List (Move (Traced σ))) : Prop :=
  ∃ earlier m later, moves = earlier ++ m :: later ∧ m.Hides ∧ ∃ pull ∈ later, pull.Pulls

theorem HasFailed.append {calls : List SourceCall} (h : HasFailed calls)
    (more : List SourceCall) : HasFailed (calls ++ more) :=
  h.imp (List.mem_append_left more) (List.mem_append_left more)

theorem pulledAfterFailure_concat (calls : List SourceCall) (c : SourceCall) :
    PulledAfterFailure (calls ++ [c]) ↔
      PulledAfterFailure calls ∨ c = .pulled ∧ HasFailed calls := by
  constructor
  · rintro ⟨before, after, split, failed, pulled⟩
    rcases List.eq_nil_or_concat after with rfl | ⟨rest, d, rfl⟩
    · simp at pulled
    · rw [List.concat_eq_append] at split pulled
      rw [← List.append_assoc] at split
      obtain ⟨rfl, same⟩ := List.append_inj' split rfl
      cases same
      rcases List.mem_append.mp pulled with pulled | pulled
      · exact .inl ⟨before, rest, rfl, failed, pulled⟩
      · exact .inr ⟨(List.mem_singleton.mp pulled).symm, failed.append rest⟩
  · rintro (⟨before, after, rfl, failed, pulled⟩ | ⟨rfl, failed⟩)
    · exact ⟨before, after ++ [c], by simp, failed, List.mem_append_left _ pulled⟩
    · exact ⟨calls, [.pulled], rfl, failed, by simp⟩

theorem pulledAfterFailure_append {more : List SourceCall} (calls : List SourceCall)
    (h : .pulled ∉ more) : PulledAfterFailure (calls ++ more) ↔ PulledAfterFailure calls := by
  induction more generalizing calls with
  | nil => rw [List.append_nil]
  | cons c more ih =>
    have other : c ≠ .pulled := fun same => h (by simp [same])
    have split : calls ++ c :: more = (calls ++ [c]) ++ more := by simp
    rw [split, ih _ fun hm => h (List.mem_cons_of_mem c hm), pulledAfterFailure_concat]
    simp [other]

theorem overlooks_concat (moves : List (Move (Traced σ))) (m : Move (Traced σ)) :
    Overlooks (moves ++ [m]) ↔
      Overlooks moves ∨ (∃ hider ∈ moves, hider.Hides) ∧ m.Pulls := by
  constructor
  · rintro ⟨earlier, hider, later, split, hides, pull, member, pulls⟩
    rcases List.eq_nil_or_concat later with rfl | ⟨rest, last, rfl⟩
    · simp at member
    · rw [List.concat_eq_append] at split member
      rw [← List.cons_append, ← List.append_assoc] at split
      obtain ⟨rfl, same⟩ := List.append_inj' split rfl
      cases same
      rcases List.mem_append.mp member with member | member
      · exact .inl ⟨earlier, hider, rest, rfl, hides, pull, member, pulls⟩
      · cases List.mem_singleton.mp member
        exact .inr ⟨⟨hider, by simp, hides⟩, pulls⟩
  · rintro (⟨earlier, hider, later, rfl, hides, pull, member, pulls⟩ | ⟨⟨hider, member, hides⟩, pulls⟩)
    · exact ⟨earlier, hider, later ++ [m], by simp, hides, pull, List.mem_append_left _ member, pulls⟩
    · obtain ⟨earlier, later, rfl⟩ := List.append_of_mem member
      exact ⟨earlier, hider, later ++ [m], by simp, hides, m, by simp, pulls⟩

theorem pulled_of_pulledAfterFailure {calls : List SourceCall} (h : PulledAfterFailure calls) :
    .pulled ∈ calls := by
  obtain ⟨before, after, rfl, _, pulled⟩ := h
  exact List.mem_append_right before pulled

/-- What has been created along a trail without cancelled starts is what the session has got, and
nothing has been before the session is started. -/
structure Accounted [Source σ] (moves : List (Move (Traced σ))) (s : Session (Traced σ)) : Prop where
  uncancelled : s.registry.Uncancelled
  fresh : s.state = .configuring → s.calls = []
  made : s.calls.count .made = (moves.flatMap Move.creations).length

theorem Accounted.step [Source σ] {moves : List (Move (Traced σ))} {s : Session (Traced σ)}
    (h : Accounted moves s) {operation : Operation} (does : (s.move operation).Does) :
    Accounted (moves ++ [s.move operation]) (s.move operation).after := by
  have fresh : (s.move operation).before.state = .configuring →
      (s.move operation).before.calls = [] := by simpa using h.fresh
  have calm : (s.move operation).before.registry.Uncancelled := by simpa using h.uncancelled
  refine ⟨?_, does.fresh calm fresh, ?_⟩
  · rw [s.move_registry operation]
    exact h.uncancelled
  · rw [(does.extends fresh).made, s.move_before operation, h.made]
    simp

/-- What holds along a trail: the session is sound; while it pulls records, it has seen every failure
of its source but the hidden ones; and the source is pulled after a failure only because of them. -/
structure Watched (moves : List (Move (Traced σ))) (s : Session (Traced σ)) : Prop where
  sound : s.Sound
  hidden : .failed ∈ s.calls → (s.state = .started ∨ s.state = .iterating) →
    ∃ m ∈ moves, m.Hides
  shown : (∃ m ∈ moves, m.Hides) → .failed ∈ s.calls
  exact : PulledAfterFailure s.calls ↔ Overlooks moves

namespace Watched

variable {moves : List (Move (Traced σ))} {m : Move (Traced σ)}

theorem start {s : Session (Traced σ)} (sound : s.Sound) (h : s.phase = .configuring) :
    Watched [] s := by
  have none : s.calls = [] := by simp [Session.calls, h, Phase.made?, Phase.live?]
  refine ⟨sound, by simp [none], by simp, fun late => ?_, ?_⟩
  · have pulled := pulled_of_pulledAfterFailure late
    simp [none] at pulled
  · rintro ⟨earlier, m, later, split, _⟩
    simp at split

theorem quiet (h : Watched moves m.before) (sound : m.after.Sound) (more : List SourceCall)
    (calls : m.after.calls = m.before.calls ++ more) (pull : .pulled ∉ more)
    (fail : .failed ∉ more)
    (reads : .failed ∈ m.before.calls → (m.after.state = .started ∨ m.after.state = .iterating) →
      (m.before.state = .started ∨ m.before.state = .iterating)) :
    Watched (moves ++ [m]) m.after := by
  have silent : ¬ m.Hides := by
    rintro ⟨_, hides⟩
    rw [calls] at hides
    rw [List.append_cancel_left hides] at pull
    simp at pull
  have still : ¬ m.Pulls := by
    rintro ⟨rest, pulls⟩
    rw [calls] at pulls
    rw [List.append_cancel_left pulls] at pull
    simp at pull
  have failed : .failed ∈ m.after.calls ↔ .failed ∈ m.before.calls := by simp [calls, fail]
  have late : PulledAfterFailure m.after.calls ↔ PulledAfterFailure m.before.calls := by
    rw [calls, pulledAfterFailure_append _ pull]
  refine ⟨sound, fun hf ho => ?_, ?_, ?_⟩
  · obtain ⟨hider, member, hides⟩ := h.hidden (failed.mp hf) (reads (failed.mp hf) ho)
    exact ⟨hider, List.mem_append_left _ member, hides⟩
  · rintro ⟨hider, member, hides⟩
    rcases List.mem_append.mp member with member | member
    · exact failed.mpr (h.shown ⟨hider, member, hides⟩)
    · cases List.mem_singleton.mp member
      exact absurd hides silent
  · rw [late, h.exact, overlooks_concat]
    simp [still]

theorem pulling (h : Watched moves m.before)
    (reads : m.before.state = .started ∨ m.before.state = .iterating) (pulls : m.Pulls) :
    PulledAfterFailure (m.before.calls ++ [.pulled]) ↔ Overlooks (moves ++ [m]) := by
  have failed : HasFailed m.before.calls ↔ ∃ hider ∈ moves, hider.Hides := by
    constructor
    · rintro (failed | opened)
      · exact h.hidden failed reads
      · obtain ⟨pulls, history, only⟩ := h.sound.inUse reads
        rw [history] at opened
        have inner : .opened false ∈ pulls := by simpa using opened
        rcases only _ inner with same | same <;> cases same
    · exact fun hides => .inl (h.shown hides)
  rw [pulledAfterFailure_concat, overlooks_concat, h.exact, failed]
  simp [pulls]

theorem starting [Source σ] (h : Watched moves m.before) (sound : m.after.Sound)
    {succeeded : Bool} (calls : m.Renews succeeded) (none : m.before.calls = []) :
    Watched (moves ++ [m]) m.after := by
  rcases calls with ⟨_, calls⟩ | ⟨id, _, calls⟩
  · exact h.quiet sound [] (calls.trans (List.append_nil _).symm) (by simp) (by simp) (by simp [none])
  · exact h.quiet sound [.made, .opened succeeded] (by rw [calls, none]; rfl)
      (by simp) (by simp) (by simp [none])

theorem step [Source σ] (h : Watched moves m.before) (does : m.Does) (sound : m.after.Sound)
    (fresh : m.before.state = .configuring → m.before.calls = []) :
    Watched (moves ++ [m]) m.after := by
  cases does with
  | rests state calls =>
    exact h.quiet sound [] (calls.trans (List.append_nil _).symm) (by simp) (by simp)
      fun _ reads => state ▸ reads
  | starts _ before _ calls =>
    obtain ⟨succeeded, renews⟩ := calls
    exact h.starting sound renews (fresh before)
  | breaksOff _ before _ _ calls => exact h.starting sound calls (fresh before)
  | skips operation before state calls =>
    exact h.quiet sound [] (calls.trans (List.append_nil _).symm) (by simp) (by simp)
      fun _ _ => before
  | pulls operation before state calls =>
    -- one more pull, which neither fails nor hides a failure
    have silent : ¬ m.Hides := by
      rintro ⟨_, hides⟩
      rw [calls] at hides
      simp at hides
    refine ⟨sound, fun hf _ => ?_, ?_, ?_⟩
    · rw [calls] at hf
      have earlier : .failed ∈ m.before.calls := by simpa using hf
      obtain ⟨hider, member, hides⟩ := h.hidden earlier before
      exact ⟨hider, List.mem_append_left _ member, hides⟩
    · rintro ⟨hider, member, hides⟩
      rcases List.mem_append.mp member with member | member
      · rw [calls]
        exact List.mem_append_left _ (h.shown ⟨hider, member, hides⟩)
      · cases List.mem_singleton.mp member
        exact absurd hides silent
    · rw [calls]
      exact h.pulling before ⟨[], calls⟩
  | fails operation before state calls =>
    refine ⟨sound, fun _ reads => ?_, fun _ => by simp [calls], ?_⟩
    · rcases state with state | ⟨_, abandons⟩
      · rw [state] at reads
        rcases reads with reads | reads <;> cases reads
      · exact ⟨m, by simp, abandons, calls⟩
    · have split : m.before.calls ++ [.pulled, .failed] =
          (m.before.calls ++ [.pulled]) ++ [.failed] := by simp
      rw [calls, split, pulledAfterFailure_concat, h.pulling before ⟨[.failed], calls⟩]
      simp
  | stops operation before state calls =>
    have ended : ¬ (m.after.state = .started ∨ m.after.state = .iterating) := by simp [state]
    rcases calls with ⟨none, calls⟩ | ⟨_, calls⟩
    · exact h.quiet sound [] (by rw [calls, none]; rfl) (by simp) (by simp)
        fun _ reads => absurd reads ended
    · exact h.quiet sound [.closed] calls (by simp) (by simp) fun _ reads => absurd reads ended

theorem trail [Source σ] {s t : Session (Traced σ)} (sound : s.Sound)
    (uncancelled : s.registry.Uncancelled) (h : s.phase = .configuring) (trail : Trail s moves t) :
    Watched moves t ∧ Accounted moves t ∧
      ∀ m ∈ moves, m.Does ∧ m.after.Sound ∧ m.Extends ∧
        (m.OutOfPlace → m.Refused ∧ m.creations = []) := by
  induction trail with
  | start =>
    have none : s.calls = [] := by simp [Session.calls, h, Phase.made?, Phase.live?]
    exact ⟨.start sound h, ⟨uncancelled, fun _ => none, by simp [none]⟩,
      fun m hm => absurd hm List.not_mem_nil⟩
  | @move moves t trail operation ih =>
    obtain ⟨watched, accounted, did⟩ := ih
    obtain ⟨does, after⟩ := t.move_does watched.sound operation
    have refused := t.move_refused operation
    have before : Watched moves (t.move operation).before := by simpa using watched
    have fresh : (t.move operation).before.state = .configuring →
        (t.move operation).before.calls = [] := by simpa using accounted.fresh
    refine ⟨before.step does after fresh, accounted.step does, fun m hm => ?_⟩
    rcases List.mem_append.mp hm with hm | hm
    · exact did m hm
    · rw [List.mem_singleton.mp hm]
      exact ⟨does, after, does.extends fresh, refused⟩

end Watched

/-- The lifecycle of a session over any registry of any sources whose making and opening are not
cancelled, under any procedure. Its states go on as they may, and nothing leaves the stopped one; an
operation that does not belong to its state is refused, without the call of a factory; the calls of its
source only grow, and are in a good order at every moment. All that its factories give is this one
source, which is closed by the stop of the session, once. It is pulled after it has failed exactly if a
pull was abandoned whose failure nobody saw. -/
theorem Procedure.lifecycle [Source σ] {registry : Registry σ} (uncancelled : registry.Uncancelled)
    {backend : Option BackendId} {s : Session (Traced σ)}
    (new : Session.new registry.traced backend = .ok s) (procedure : Procedure) :
    let run := procedure.run s
    let created := run.moves.flatMap Move.creations
    Trail s run.moves run.session ∧
    (∀ m ∈ run.moves, m.Allowed ∧ (m.before.state = .stopped → m.after.state = .stopped) ∧
      (m.OutOfPlace → m.Refused ∧ m.creations = []) ∧ m.before.calls <+: m.after.calls ∧
      m.after.calls.count .made = m.before.calls.count .made + m.creations.length ∧
      m.after.Orderly) ∧
    run.session.Orderly ∧
    created.length ≤ 1 ∧ run.session.calls.count .made = created.length ∧
    run.session.calls.count .closed =
      (if run.session.state = .stopped then created.length else 0) ∧
    (PulledAfterFailure run.session.calls ↔ Overlooks run.moves) := by
  intro run created
  obtain ⟨sound, configuring⟩ := Session.sound_of_new new
  obtain ⟨id, rfl⟩ := Session.eq_of_new new
  have trail := procedure.run_trail { registry := registry.traced, backend := id }
  obtain ⟨watched, accounted, did⟩ := Watched.trail sound uncancelled.traced configuring trail
  have orderly : run.session.Orderly := watched.sound.orderly
  have made : run.session.calls.count .made = created.length := accounted.made
  have one : created.length ≤ 1 := made ▸ orderly.made
  refine ⟨trail, fun m hm => ?_, orderly, one, made, ?_, watched.exact⟩
  · obtain ⟨does, after, more, refused⟩ := did m hm
    exact ⟨does.allowed, does.stopped, refused, more.grows, more.made, after.orderly⟩
  · rw [orderly.closed]
    have member : .made ∈ run.session.calls ↔ 0 < created.length := by
      rw [← made, List.count_pos_iff]
    -- one source is made at most, so that one release is enough for all
    by_cases stopped : run.session.state = .stopped
    · simp only [stopped, true_and, if_true, member]
      split <;> omega
    · rw [if_neg stopped, if_neg fun both => stopped both.1]

/-- A source that waits, fails when it is cancelled, and has a record after that. -/
def stubborn : ScriptedSource where
  events := [{ waits := true, reaction := .fails (.badValue "late") }, { record := none }]

def stubbornRegistry : Registry ScriptedSource :=
  Registry.add {} "stubborn" "" (.ok stubborn)

theorem stubbornRegistry_uncancelled : stubbornRegistry.Uncancelled := by
  intro b hb
  cases List.mem_singleton.mp hb
  refine ⟨nofun, fun source made config f failed => ?_⟩
  cases made
  cases failed

/-- A session that pulls under a token, is cancelled while it waits, and pulls again. -/
def persistent : Procedure :=
  .act (.start { windows := [⟨0, 9⟩] } false) <|
    .attempt (.act (.next {} (some "t") (some .task)) .done) <|
      .block (.act (.next {} none none) (.raise (.badValue "body"))) .done

def persistentSession : Session (Traced ScriptedSource) :=
  { registry := stubbornRegistry.traced, backend := 1 }

theorem lifecycle_stubborn :
    let run := persistent.run persistentSession
    stubbornRegistry.Uncancelled ∧
      Session.new stubbornRegistry.traced none = .ok persistentSession ∧
      run.session.calls.count .closed = 1 ∧ Overlooks run.moves := by
  have new : Session.new stubbornRegistry.traced none = .ok persistentSession := by rfl
  obtain ⟨_, _, _, _, _, closed, late⟩ :=
    Procedure.lifecycle stubbornRegistry_uncancelled new persistent
  refine ⟨stubbornRegistry_uncancelled, new, closed.trans ?_,
    late.mp ⟨[.made, .opened true, .pulled, .failed], [.pulled, .closed], ?_, ?_⟩⟩
  · decide +kernel
  · decide +kernel
  · exact ⟨.inl (by simp), by simp⟩

/-- A source is pulled after it has failed. -/
theorem stubborn_pulled_after_failure :
    Session.new stubbornRegistry.traced none = .ok persistentSession ∧
      PulledAfterFailure (persistent.run persistentSession).session.calls := by
  refine ⟨by rfl, [.made, .opened true, .pulled, .failed], [.pulled, .closed], ?_, ?_⟩
  · decide +kernel
  · exact ⟨.inl (by simp), by simp⟩

end RouteFeed
