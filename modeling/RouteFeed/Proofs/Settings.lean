import RouteFeed.Settings.Reading

/-! What holds of settings that are accepted, field by field: the value of a field is its preset, or has
passed the check of the field. -/
namespace RouteFeed.Settings

theorem take_run {α : Type} {P : α → Prop} (o : Origins) (f : Field) {fallback : α}
    {read : Value → Except Problem α} (preset : P fallback) (checked : ∀ v a, read v = .ok a → P a)
    (refusals : List Refusal) : P ((take o f fallback read).run refusals).1 := by
  unfold take
  cases o.value? f with
  | none => exact preset
  | some given =>
    dsimp only
    cases result : read given with
    | error problem => exact preset
    | ok a => exact checked given a result

theorem readAtLeast_ok {minimum n : Int} {v : Value} (h : readAtLeast minimum v = .ok n) :
    minimum ≤ n := by
  unfold readAtLeast at h
  cases read : readInteger v with
  | error problem =>
    rw [read] at h
    cases h
  | ok m =>
    rw [read] at h
    by_cases low : m < minimum
    · simp [low, bind, Except.bind, throw, throwThe, MonadExceptOf.throw] at h
    · obtain rfl : m = n := by simpa [low, bind, Except.bind, pure, Except.pure] using h
      omega

theorem load_eq {o : Origins} {s : Settings} (accepted : load o = .ok s) :
    s = ((takeAll o).run []).1 := by
  unfold load at accepted
  split at accepted
  next settings refusals taken =>
    split at accepted
    · cases accepted
      rw [taken]
    · cases accepted

theorem load_limits {o : Origins} {s : Settings} (accepted : load o = .ok s) :
    ∀ limit ∈ [s.maxProjects, s.maxCollectors, s.maxRecordTypes, s.maxWindows, s.maxOptions],
      1 ≤ limit := by
  have least (f : Field) {preset n : Int} (enough : 1 ≤ preset)
      (taken : ∃ refusals, n = ((take o f preset (readAtLeast 1)).run refusals).1) : 1 ≤ n := by
    obtain ⟨refusals, rfl⟩ := taken
    exact take_run (P := fun n => 1 ≤ n) o f enough (fun v n => readAtLeast_ok) refusals
  rw [load_eq accepted]
  simp only [List.forall_mem_cons]
  exact ⟨least .maxProjects (by decide : (1 : Int) ≤ 10) ⟨_, rfl⟩,
    least .maxCollectors (by decide : (1 : Int) ≤ 100) ⟨_, rfl⟩,
    least .maxRecordTypes (by decide : (1 : Int) ≤ 10) ⟨_, rfl⟩,
    least .maxWindows (by decide : (1 : Int) ≤ 1024) ⟨_, rfl⟩,
    least .maxOptions (by decide : (1 : Int) ≤ 1024) ⟨_, rfl⟩, by simp⟩

end RouteFeed.Settings
