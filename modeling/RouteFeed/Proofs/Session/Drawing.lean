import RouteFeed.Proofs.Retrieval.Whole
import RouteFeed.Proofs.Session.Handover
import RouteFeed.Proofs.Session.Lifecycle
import RouteFeed.Proofs.Session.Raising

/-! What a session draws from an obliging source under a token. An obliging source can be released at
any time, ends when a wait of it is interrupted, and gives records that can be rendered as a whole. -/
namespace RouteFeed

variable {σ : Type}

/-- The source has failed by itself: it could not be opened, or a pull failed other than by being
cancelled. -/
def SourceCall.isFault : SourceCall → Bool
  | opened succeeded => !succeeded
  | failed => true
  | made | pulled | closed => false

/-- The records that have been handed over, each with the source behind it. -/
def Handover.produced (given : List (Handover σ)) : List (Record × σ) :=
  given.filterMap fun h => h.record?.map (·, h.left)

namespace Handover

end Handover

namespace Source

variable [Source σ]

/-- An answer of an obliging source. A pull that has not been interrupted is not cancelled, and a record
of it can be rendered as a whole. -/
structure Gives (good : σ → Prop) (modes : OutputModes) (size : Int) (late : Bool)
    (answer : PullAnswer) (left : σ) : Prop where
  good : good left
  own : late = false → ∀ f, answer = .error f → f.kind ≠ .cancelled
  whole : late = false → ∀ record, answer = .ok (some record) →
    ∃ lines, Source.rendering left modes size record = .ok lines

/-- Sources that are good, and stay it whatever becomes of them. Only their waits are cancelled. -/
structure Obliging (good : σ → Prop) (modes : OutputModes) (size : Int) : Prop where
  start : ∀ s config, good s → good (Source.start s config).source
  opening : ∀ s config, good s → ∀ f, (Source.start s config).result = .error f →
    f.kind ≠ .cancelled
  pull : ∀ s, good s → (Source.pull s).Every good (Gives good modes size) false
  interruptible : ∀ s, good s → (Source.pull s).Interruptible
  close : ∀ s, good s → (Source.close s).1 = .ok ()

end Source

namespace Session

/-- The source of a session behind a call, which has got some more calls and handed over something. -/
structure Moves (good : σ → Prop) (t left : Traced (Recorded σ)) (calls : List SourceCall)
    (given : List (Handover σ)) : Prop where
  good : good left.source.source
  calls : left.calls = t.calls ++ calls
  given : left.source.given = t.source.given ++ given

theorem Moves.trans {good : σ → Prop} {t next left : Traced (Recorded σ)} {calls more : List SourceCall}
    {given rest : List (Handover σ)} (h : Moves good t next calls given)
    (h' : Moves good next left more rest) : Moves good t left (calls ++ more) (given ++ rest) := by
  refine ⟨h'.good, ?_, ?_⟩
  · rw [h'.calls, h.calls, List.append_assoc]
  · rw [h'.given, h.given, List.append_assoc]

variable [Source σ] {good : σ → Prop} {modes : OutputModes} {size : Int}

/-- What a call under a token draws from a source. -/
inductive Draws (good : σ → Prop) (modes : OutputModes) (size : Int)
    (s : Session (Traced (Recorded σ))) (t : Traced (Recorded σ))
    (p : Pulled (Traced (Recorded σ))) : Prop
  /-- A record that can be rendered as a whole. -/
  | record {record lines left} (outcome : p.outcome = .returned (some record))
    (session : p.session = { s with phase := .iterating left })
    (moves : Moves good t left [.pulled] [⟨.ok (some record), left.source.source, false⟩])
    (whole : Source.rendering left.source.source modes size record = .ok lines)
  /-- The end of the data, or nothing because the token has been fired. -/
  | nothing {left calls given} (outcome : p.outcome = .returned none)
    (session : p.session = { s with phase := .iterating left })
    (moves : Moves good t left calls given) (calm : calls.any SourceCall.isFault = false)
    (few : given.length ≤ 1)
  | failure {f left h} (outcome : p.outcome = .raised f) (kind : f.kind = .backend)
    (session : p.session = { s with phase := .failed (some left) })
    (moves : Moves good t left [.pulled, .failed] [h])
  | waits (outcome : p.outcome = .blocked)

theorem takeRun_draws {s : Session (Traced (Recorded σ))} {t : Traced (Recorded σ)} {name : String}
    (named : s.backendName = .ok name) {r : PullRun (Traced (Recorded σ))}
    (among : r.finish.Among
      (fun _ => True)
      (fun late answer left =>
        Moves good t left (.pulled :: SourceCall.ofAnswer answer)
          [⟨answer, left.source.source, late⟩] ∧
        Source.Gives good modes size late answer left.source.source))
    (kept : ∀ left, r.finish ≠ .abandoned left) :
    Draws good modes size s t (s.takeRun r) := by
  cases s.takeRun_taken r with
  | @returns record left finish outcome session =>
    rw [finish] at among
    obtain ⟨moves, gives⟩ := among
    cases record with
    | none => exact .nothing outcome session moves rfl (Nat.le_refl 1)
    | some record =>
      obtain ⟨lines, whole⟩ := gives.whole rfl record rfl
      exact .record outcome session moves whole
  | cancels finish cancelled =>
    rw [finish] at among
    -- an obliging source raises no cancellation of its own
    exact absurd cancelled (among.2.own rfl _ rfl)
  | @fails f left finish own outcome session =>
    have kind : (s.pullFailure f).kind = .backend := pullFailure_kind named own
    rcases finish with finish | finish
    · rw [finish] at among
      have moves := among.1
      rw [SourceCall.ofAnswer_of_own own] at moves
      exact .failure outcome kind session moves
    · rw [finish] at among
      have moves := among.1
      rw [SourceCall.ofAnswer_of_own own] at moves
      exact .failure outcome kind session moves
  | drops finish calm _ outcome session =>
    rw [finish] at among
    have moves := among.1
    rw [SourceCall.ofAnswer_of_calm calm] at moves
    exact .nothing outcome session moves rfl (Nat.le_refl 1)
  | loses _ _ unnamed => cases named.symm.trans unnamed
  | abandons finish => exact absurd finish (kept _)
  | waits _ outcome => exact .waits outcome

theorem pull_every (obliging : Source.Obliging good modes size) {t : Traced (Recorded σ)}
    (h : good t.source.source) :
    (Source.pull t).Every (fun _ => True)
      (fun late answer left =>
        Moves good t left (.pulled :: SourceCall.ofAnswer answer)
          [⟨answer, left.source.source, late⟩] ∧
        Source.Gives good modes size late answer left.source.source) false := by
  refine (Pull.every_traced _ _ _).mpr ((Pull.every_recorded _ _ _).mpr ?_)
  refine (obliging.pull _ h).imp (fun _ _ => trivial) fun late answer left gives => ⟨?_, gives⟩
  exact ⟨gives.good, List.append_assoc _ _ _, rfl⟩

theorem next_draws (obliging : Source.Obliging good modes size)
    {s : Session (Traced (Recorded σ))} {t : Traced (Recorded σ)} {name : String}
    (reads : s.Reads t) (named : s.backendName = .ok name) (h : good t.source.source)
    (tokens : Tokens) (token : String) :
    Draws good modes size s t (s.next tokens (some token) none) := by
  rw [reads.next, pullFrom]
  by_cases fired : tokens.isFired token
  · simp only [fired, if_true]
    exact .nothing rfl rfl ⟨h, (List.append_nil _).symm, (List.append_nil _).symm⟩ rfl
      (Nat.zero_le 1)
  · simp only [fired, Bool.false_eq_true, if_false]
    refine takeRun_draws named (Pull.race_among (pull_every obliging h) token none _) fun left ha => ?_
    cases Pull.race_abandoned ha

end Session
end RouteFeed
