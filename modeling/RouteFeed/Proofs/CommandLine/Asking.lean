import RouteFeed.CommandLine.Request
import RouteFeed.Proofs.Session.Steps

/-! What a command line asks for: a session that has not been started, and filters. Erased values
pass the reading of the arguments, but there are no filters with an erased window or period. -/
namespace RouteFeed.CommandLine

variable {σ : Type} {registry : Registry σ} {s t : Session σ}

theorem openSession_ok {interface : Option (Given String)}
    (h : openSession registry interface = .ok s) :
    s.phase = .configuring ∧ s.registry = registry := by
  obtain ⟨fresh, made, h⟩ := bind_ok h
  obtain ⟨id, _, rfl⟩ := map_ok made
  cases interface with
  | none =>
    cases h
    exact ⟨rfl, rfl⟩
  | some name =>
    cases name with
    | value name =>
      obtain ⟨id, _, h⟩ := bind_ok h
      obtain ⟨-, rfl⟩ := Session.selectBackend_ok h
      exact ⟨rfl, rfl⟩
    | erased => cases h

theorem applyOption_ok {option : Given String} (h : applyOption s option = .ok t) :
    ∃ options, t = { s with options } := by
  cases option with
  | erased => cases h
  | value raw =>
    unfold applyOption at h
    dsimp only at h
    split at h
    · cases h
    · obtain ⟨handle, _, h⟩ := bind_ok h
      exact ⟨_, (Session.setBackendOption_ok h).2⟩

theorem applyOptions_ok {options : List (Given String)} (h : applyOptions s options = .ok t) :
    ∃ assigned, t = { s with options := assigned } := by
  induction options generalizing s with
  | nil =>
    cases h
    exact ⟨_, rfl⟩
  | cons option options ih =>
    rw [applyOptions] at h
    cases first : applyOption s option with
    | error f => simp [first] at h
    | ok next =>
      rw [first] at h
      obtain ⟨assigned, after⟩ := ih h
      obtain ⟨_, rfl⟩ := applyOption_ok first
      exact ⟨assigned, after⟩

theorem opened_of_request {settings : Settings} {argv : List String} {a : Arguments}
    (h : request settings registry argv = .ok (.retrieval s a)) :
    ∃ fresh, openSession registry a.interface = .ok fresh ∧
      applyOptions fresh a.options = .ok s := by
  obtain ⟨parsed, _, h⟩ := bind_ok h
  unfold Arguments.request at h
  split at h
  · cases h
  · obtain ⟨_, _, h⟩ := bind_ok h
    obtain ⟨fresh, opened, h⟩ := bind_ok h
    obtain ⟨asks, _, h⟩ := bind_ok h
    split at h
    · obtain ⟨_, _, h⟩ := bind_ok h
      cases h
    · obtain ⟨configured, applied, h⟩ := bind_ok h
      cases h
      exact ⟨fresh, opened, applied⟩

theorem request_retrieval {settings : Settings} {argv : List String} {a : Arguments}
    (h : request settings registry argv = .ok (.retrieval s a)) :
    s.phase = .configuring ∧ s.registry = registry := by
  obtain ⟨fresh, opened, applied⟩ := opened_of_request h
  have clean := openSession_ok opened
  obtain ⟨_, rfl⟩ := applyOptions_ok applied
  exact clean

theorem addWindows_ok (filters : FilterSet) {windows : List (Given TimeWindow)}
    (h : .erased ∉ windows) :
    ∃ more, addWindows filters windows = .ok more ∧
      more.windows.length = filters.windows.length + windows.length := by
  induction windows generalizing filters with
  | nil => exact ⟨filters, rfl, rfl⟩
  | cons window windows ih =>
    cases window with
    | erased => simp at h
    | value w =>
      obtain ⟨more, added, length⟩ := ih (filters.addWindow w) fun he => h (List.mem_cons_of_mem _ he)
      refine ⟨more, added, length.trans ?_⟩
      simp only [FilterSet.addWindow, List.length_append, List.length_cons, List.length_nil]
      omega

theorem addWindows_erased (filters : FilterSet) {windows : List (Given TimeWindow)}
    (h : .erased ∈ windows) :
    addWindows filters windows = .error (.lacksOperation (.list []) "start") := by
  induction windows generalizing filters with
  | nil => cases h
  | cons window windows ih =>
    cases window with
    | erased => rfl
    | value w => exact ih _ (by simpa using h)

/-- No value has been erased from which a filter is made. -/
def Arguments.Intact (a : Arguments) : Prop := .erased ∉ a.windows ∧ a.period ≠ .erased

instance : DecidablePred Arguments.Intact :=
  fun a => inferInstanceAs (Decidable (.erased ∉ a.windows ∧ a.period ≠ .erased))

theorem Arguments.Intact.filters {a : Arguments} (h : a.Intact) :
    ∃ filters, a.filters = .ok filters ∧ a.windows.length ≤ filters.windows.length := by
  obtain ⟨windows, period⟩ := h
  unfold Arguments.filters
  dsimp only
  generalize a.types.foldl _ _ = kinds
  obtain ⟨filters, added, length⟩ := addWindows_ok kinds windows
  rw [added]
  cases hp : a.period with
  | erased => exact absurd hp period
  | value seconds =>
    refine ⟨filters.addReplayPeriod seconds, rfl, ?_⟩
    unfold FilterSet.addReplayPeriod
    split <;> exact length ▸ Nat.le_add_left _ _

theorem Arguments.filters_error {a : Arguments} (h : ¬ a.Intact) :
    ∃ f, a.filters = .error f ∧ (f.kind = .noOperation ∨ f.kind = .wrongShape) := by
  unfold Arguments.filters
  dsimp only
  generalize a.types.foldl _ _ = kinds
  by_cases windows : .erased ∈ a.windows
  · rw [addWindows_erased kinds windows]
    exact ⟨_, rfl, .inl rfl⟩
  · have period : a.period = .erased := Classical.byContradiction fun period => h ⟨windows, period⟩
    obtain ⟨filters, added, _⟩ := addWindows_ok kinds windows
    rw [added, period]
    exact ⟨_, rfl, .inr rfl⟩

end RouteFeed.CommandLine
