import RouteFeed.Proofs.Session.Steps
import RouteFeed.Proofs.Session.Traced

/-! Sources that deliver records one pull after another, until the data is exhausted or a pull
fails, while nothing interrupts them. -/
namespace RouteFeed

variable {σ : Type} {token : String}

/-- The token has not been fired, and no signal is about to fire it. -/
structure Tokens.Quiet (token : String) (t : Tokens) : Prop where
  unfired : t.isFired token = false
  unsignalled : t.signalled = false

namespace Tokens.Quiet

variable {t : Tokens}

theorem settle (h : t.Quiet token) : t.settle = t := by
  unfold Tokens.settle
  rw [h.unsignalled]
  split <;> rfl

theorem fire {name : String} (h : t.Quiet token) (other : name ≠ token) :
    (t.fire name).Quiet token := by
  refine ⟨?_, h.unsignalled⟩
  have unfired := h.unfired
  simp only [isFired, Tokens.fire, List.contains_eq_mem] at unfired ⊢
  simpa [other.symm] using unfired

theorem not_interrupted (h : t.Quiet token) (interrupted : Pull σ) :
    Pull.interrupt? token none t interrupted = none := by
  simp [Pull.interrupt?, h.settle, h.unfired]

end Tokens.Quiet

/-- Left to itself, the pull ends with the answer. Meanwhile the token is not fired, and no signal
comes. -/
inductive Pull.Answers (token : String) : Pull σ → PullAnswer → σ → Prop
  | done (answer source) : Answers token (.done answer source) answer source
  | report {entry next answer source} (rest : Answers token next answer source) :
    Answers token (.report entry next) answer source
  | fires {name next answer source} (other : name ≠ token)
    (rest : Answers token next answer source) :
    Answers token (.notice (.token name) next) answer source
  | pause {left arrived interrupted answer source} (rest : Answers token arrived answer source) :
    Answers token (.pause left arrived interrupted) answer source

namespace Pull.Answers

variable {p : Pull σ} {answer : PullAnswer} {source : σ}

theorem race (h : p.Answers token answer source) {tokens : Tokens} (quiet : tokens.Quiet token) :
    ∃ after log, after.Quiet token ∧
      p.race token none tokens = ⟨.answered answer source, after, log⟩ := by
  induction h generalizing tokens with
  | done answer source => exact ⟨tokens, [], quiet, rfl⟩
  | @report entry next answer source rest ih =>
    obtain ⟨after, log, still, run⟩ := ih quiet
    exact ⟨after, entry :: log, still, by rw [Pull.race, run]; rfl⟩
  | @fires name next answer source other rest ih => exact ih (quiet.fire other)
  | @pause left arrived interrupted answer source rest ih =>
    obtain ⟨after, log, still, run⟩ := ih quiet
    exact ⟨after, log, still, by rw [Pull.race, quiet.not_interrupted]; exact run⟩

theorem traced (h : p.Answers token answer source) (calls : List SourceCall) :
    (p.traced calls).Answers token answer ⟨source, calls ++ SourceCall.ofAnswer answer⟩ := by
  induction h with
  | done answer source => exact .done answer _
  | report rest ih => exact .report ih
  | fires other rest ih => exact .fires other ih
  | pause rest ih => exact .pause ih

end Pull.Answers

/-- How the pulls of a source go on behind some records. -/
inductive Supply where
  | exhausted
  | fails
  /-- In a way that is left open. -/
  | goesOn
  deriving DecidableEq

namespace Source

variable [Source σ]

/-- A source that can be released and has the usual dump. -/
structure Mannered (s : σ) : Prop where
  close : (Source.close s).1 = .ok ()
  dump : ∀ record, Source.dump s record = record.dump

inductive Delivers (token : String) : σ → List Record → Supply → Prop
  | gives {s left record records supply}
    (pull : (Source.pull s).Answers token (.ok (some record)) left) (mannered : Mannered left)
    (rest : Delivers token left records supply) : Delivers token s (record :: records) supply
  | ends {s left} (pull : (Source.pull s).Answers token (.ok none) left)
    (mannered : Mannered left) : Delivers token s [] .exhausted
  | fails {s left failure} (pull : (Source.pull s).Answers token (.error failure) left)
    (own : failure.kind ≠ .cancelled) (mannered : Mannered left) : Delivers token s [] .fails
  | goesOn (s) : Delivers token s [] .goesOn

theorem Mannered.traced {s : σ} (h : Mannered s) (calls : List SourceCall) :
    Mannered (⟨s, calls⟩ : Traced σ) :=
  ⟨h.close, h.dump⟩

theorem Delivers.traced {s : σ} {records : List Record} {supply : Supply}
    (h : Delivers token s records supply) (calls : List SourceCall) :
    Delivers token (⟨s, calls⟩ : Traced σ) records supply := by
  induction h generalizing calls with
  | gives pull mannered rest ih =>
    exact .gives (pull.traced (calls ++ [.pulled])) (mannered.traced _) (ih _)
  | ends pull mannered => exact .ends (pull.traced (calls ++ [.pulled])) (mannered.traced _)
  | fails pull own mannered =>
    exact .fails (pull.traced (calls ++ [.pulled])) own (mannered.traced _)
  | goesOn s => exact .goesOn _

end Source

namespace Session

variable [Source σ]

theorem next_of_answers {s : Session σ} {source left : σ} {answer : PullAnswer} {tokens : Tokens}
    (reads : s.Reads source) (pull : (Source.pull source).Answers token answer left)
    (quiet : tokens.Quiet token) :
    ∃ after log, after.Quiet token ∧ s.next tokens (some token) none =
      ⟨(s.take answer left).1, (s.take answer left).2, after, log⟩ := by
  obtain ⟨after, log, still, run⟩ := pull.race quiet
  refine ⟨after, log, still, ?_⟩
  rw [reads.next, pullFrom, quiet.settle]
  simp only [quiet.unfired, Bool.false_eq_true, if_false, run]
  rfl

end Session
end RouteFeed
