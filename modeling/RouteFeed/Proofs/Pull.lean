import RouteFeed.Source.Wait

/-! Pulls that are left to themselves, and what a source answers to one pull after another. -/
namespace RouteFeed

namespace Pull

variable {σ : Type}

/-- How a pull ends that nothing interrupts. -/
def finish (p : Pull σ) : PullEnd σ := (p.complete {}).finish

theorem complete_finish (tokens : Tokens) (p : Pull σ) :
    (p.complete tokens).finish = p.finish := by
  unfold finish
  generalize ({} : Tokens) = other
  induction p generalizing tokens other with
  | done answer source => rfl
  | report entry next ih => exact ih tokens other
  | notice n next ih => exact ih (tokens.heed n) (other.heed n)
  | stall source interrupted ih => rfl
  | pause source arrived interrupted ih => exact ih tokens other

@[simp] theorem finish_done (answer : PullAnswer) (source : σ) :
    (done answer source).finish = .answered answer source := rfl

@[simp] theorem finish_notice (n : Notice) (next : Pull σ) :
    (notice n next).finish = next.finish := complete_finish _ next

@[simp] theorem finish_pause (source : σ) (arrived interrupted : Pull σ) :
    (pause source arrived interrupted).finish = arrived.finish := rfl

end Pull

/-- What a source has still to give: some answers, and then either the end of the data for every
further pull, or a wait without end. -/
structure Course where
  answers : List PullAnswer := []
  waits : Bool := false

namespace Course

def first (c : Course) (n : Nat) : List PullAnswer :=
  if c.waits then c.answers.take n
  else (c.answers ++ List.replicate n (Except.ok none)).take n

def after (answer : PullAnswer) (c : Course) : Course := { c with answers := answer :: c.answers }

@[simp] theorem first_zero (c : Course) : c.first 0 = [] := by simp [first]

@[simp] theorem first_after (answer : PullAnswer) (c : Course) (n : Nat) :
    (c.after answer).first (n + 1) = answer :: c.first n := by
  cases h : c.waits
  · simp only [first, after, h, List.cons_append, List.take_succ_cons, Bool.false_eq_true, if_false,
      List.replicate_succ']
    rw [← List.append_assoc, List.take_append_of_le_length (by simp)]
  · simp [first, after, h]

@[simp] theorem first_end (n : Nat) : first {} (n + 1) = .ok none :: first {} n := by
  simp [first, List.replicate_succ]

@[simp] theorem first_wait (n : Nat) : first { waits := true } n = [] := by simp [first]

end Course

namespace Source

variable {σ : Type}

/-- The answers to the first pulls, each left to itself, up to one that waits without end. -/
def answers [Source σ] : Nat → σ → List PullAnswer
  | 0, _ => []
  | n + 1, s =>
    match (Source.pull s).finish with
    | .answered answer s => answer :: answers n s
    | _ => []

/-- A pull does what comes first in a course, and leaves a source for the rest of it. -/
inductive Takes (R : σ → Course → Prop) : Pull σ → Course → Prop
  | gives {p answer s c} (h : p.finish = .answered answer s) (rest : R s c) :
    Takes R p (c.after answer)
  | ends {p s} (h : p.finish = .answered (.ok none) s) (rest : R s {}) : Takes R p {}
  | waits {p s} (h : p.finish = .stuck s) : Takes R p { waits := true }

theorem Takes.of_finish {R : σ → Course → Prop} {p q : Pull σ} {c : Course}
    (same : p.finish = q.finish) (h : Takes R q c) : Takes R p c := by
  cases h with
  | gives h rest => exact .gives (same.trans h) rest
  | ends h rest => exact .ends (same.trans h) rest
  | waits h => exact .waits (same.trans h)

theorem answers_eq_first [Source σ] {R : σ → Course → Prop}
    (step : ∀ s c, R s c → Takes R (Source.pull s) c) (n : Nat) {s : σ} {c : Course}
    (h : R s c) : answers n s = c.first n := by
  induction n generalizing s c with
  | zero => simp [answers]
  | succ n ih =>
    cases step s c h with
    | gives hp rest => simp [answers, hp, ih rest]
    | ends hp rest => simp [answers, hp, ih rest]
    | waits hp => simp [answers, hp]

end Source
end RouteFeed
