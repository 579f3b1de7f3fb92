import RouteFeed.Proofs.Session.Steps
import RouteFeed.Proofs.Session.Traced

/-! What a pull under a token raises in a session, whatever the source. A pull that has been called off
because of its token does not raise its own cancellation. -/
namespace RouteFeed

variable {σ : Type}

/-- A pull ends with a failure of the source, which leaves a source behind. -/
inductive PullEnd.Raises : PullEnd σ → Failure → σ → Prop
  | answered (f left) : Raises (.answered (.error f) left) f left
  | calledOff {f} (own : f.kind ≠ .cancelled) (left) : Raises (.calledOff (.error f) left) f left

namespace Session

/-- What is made of a failure of a source while it is pulled: a cancelled task is passed on, and so is a
failure of the data interface. -/
def passedOn (name : String) (f : Failure) : Failure :=
  if f.kind = .cancelled ∨ f.kind = .backend then f
  else .backend s!"Data interface '{name}' failed: {f.message}"

theorem passedOn_of_cancelled (name : String) {f : Failure} (h : f.kind = .cancelled) :
    passedOn name f = f := if_pos (.inl h)

theorem pullFailure_eq {s : Session σ} {name : String} (named : s.backendName = .ok name)
    {f : Failure} (own : f.kind ≠ .cancelled) : s.pullFailure f = passedOn name f := by
  unfold pullFailure passedOn
  rw [named]
  by_cases backend : f.kind = .backend
  · rw [if_pos backend, if_pos (.inr backend)]
  · rw [if_neg backend, if_neg (not_or.mpr ⟨own, backend⟩)]

theorem passedOn_kind (name : String) {f : Failure} (own : f.kind ≠ .cancelled) :
    (passedOn name f).kind = .backend := by
  unfold passedOn
  split
  · rename_i kind
    exact kind.resolve_left own
  · rfl

theorem pullFailure_kind {s : Session σ} {name : String} (named : s.backendName = .ok name)
    {f : Failure} (own : f.kind ≠ .cancelled) : (s.pullFailure f).kind = .backend := by
  rw [pullFailure_eq named own]
  exact passedOn_kind name own

/-- What a pull under a token comes to. -/
inductive Yields (s : Session σ) (name : String) (r : PullRun σ) (p : Pulled σ) : Prop
  | returns {answer left} (outcome : p.outcome = .returned answer)
    (session : p.session = { s with phase := .iterating left })
  | raises {f left} (finish : r.finish.Raises f left) (outcome : p.outcome = .raised (passedOn name f))
    (session : ∃ phase, p.session = { s with phase } ∧ phase.live? = some left)
  | waits {left} (finish : r.finish = .stuck left) (outcome : p.outcome = .blocked)

theorem takeRun_of_raises {s : Session σ} {name : String} (named : s.backendName = .ok name)
    {r : PullRun σ} {f : Failure} {left : σ} (h : r.finish.Raises f left) :
    (s.takeRun r).outcome = .raised (passedOn name f) ∧
      ∃ phase, (s.takeRun r).session = { s with phase } ∧ phase.live? = some left := by
  cases s.takeRun_taken r with
  | returns finish =>
    rw [finish] at h
    cases h
  | cancels finish cancelled outcome session =>
    rw [finish] at h
    cases h
    exact ⟨by rw [outcome, passedOn_of_cancelled name cancelled], _, session, rfl⟩
  | fails finish own outcome session =>
    rw [pullFailure_eq named own] at outcome
    rcases finish with finish | finish
    · rw [finish] at h
      cases h
      exact ⟨outcome, _, session, rfl⟩
    · rw [finish] at h
      cases h
      exact ⟨outcome, _, session, rfl⟩
  | drops finish calm =>
    rw [finish] at h
    cases h with
    | calledOff own => exact absurd (calm _ rfl) own
  | loses _ _ unnamed => cases named.symm.trans unnamed
  | abandons finish =>
    rw [finish] at h
    cases h
  | waits finish =>
    rw [finish] at h
    cases h

theorem takeRun_yields {s : Session σ} {name : String} (named : s.backendName = .ok name)
    {r : PullRun σ} (kept : ∀ left, r.finish ≠ .abandoned left) :
    s.Yields name r (s.takeRun r) := by
  have raises {f : Failure} {left : σ} (h : r.finish.Raises f left) :
      s.Yields name r (s.takeRun r) :=
    .raises h (takeRun_of_raises named h).1 (takeRun_of_raises named h).2
  cases s.takeRun_taken r with
  | returns _ outcome session => exact .returns outcome session
  | cancels finish => exact raises (by rw [finish]; exact .answered _ _)
  | fails finish own =>
    rcases finish with finish | finish
    · exact raises (by rw [finish]; exact .answered _ _)
    · exact raises (by rw [finish]; exact .calledOff own _)
  | drops _ _ _ outcome session => exact .returns outcome session
  | loses _ _ unnamed => cases named.symm.trans unnamed
  | abandons finish => exact absurd finish (kept _)
  | waits finish outcome => exact .waits finish outcome

variable [Source σ]

/-- The end of a pull under a token that has not been fired before. -/
def raceOf (source : σ) (tokens : Tokens) (token : String) : PullRun σ :=
  (Source.pull source).race token none tokens.settle

theorem Reads.next_of_unfired {s : Session σ} {source : σ} (reads : s.Reads source)
    {tokens : Tokens} {token : String} (unfired : tokens.isFired token = false) :
    s.next tokens (some token) none = s.takeRun (raceOf source tokens token) := by
  rw [reads.next, pullFrom]
  simp only [unfired, Bool.false_eq_true, if_false]
  rfl

/-- What the next record under a token comes to: the token has been fired, or the source is pulled. -/
theorem Reads.yields {s : Session σ} {source : σ} {name : String} (reads : s.Reads source)
    (named : s.backendName = .ok name) (tokens : Tokens) (token : String) :
    (s.next tokens (some token) none).outcome = .returned none ∧
        (s.next tokens (some token) none).session = { s with phase := .iterating source } ∨
      tokens.isFired token = false ∧
        s.Yields name (raceOf source tokens token) (s.next tokens (some token) none) := by
  cases fired : tokens.isFired token with
  | true =>
    rw [reads.next, pullFrom]
    simp only [fired, if_true]
    exact .inl ⟨trivial, trivial⟩
  | false =>
    rw [reads.next_of_unfired fired]
    refine .inr ⟨rfl, takeRun_yields named fun left abandoned => ?_⟩
    cases Pull.race_abandoned abandoned

end Session
end RouteFeed
