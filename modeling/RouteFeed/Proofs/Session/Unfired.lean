import RouteFeed.Proofs.Interruption
import RouteFeed.Proofs.Pull
import RouteFeed.Proofs.Session.Lifecycle
import RouteFeed.Source.Scripted

/-! Pulls under tokens that are never fired. They come to what they come to without a token: the same
outcomes, the same sessions and the same calls of the source, also if the pulling task is cancelled
while the source waits, as long as the source lets that through. -/
namespace RouteFeed

variable {σ : Type}

/-- The end of a pull under a token stands for that of a pull without one: it is the same, or the source
was left behind and has ended as cancelled. -/
inductive PullEnd.Matches : PullEnd σ → PullEnd σ → Prop
  | same (finish) : Matches finish finish
  | left (source) : Matches (.abandoned source) (.answered (.error .cancelled) source)

namespace Pull

/-- The pull behind some of its waits, which have ended by themselves. -/
def past : Nat → Pull σ → Pull σ
  | 0, p => p
  | n + 1, report entry next => .report entry (next.past (n + 1))
  | n + 1, notice e next => .notice e (next.past (n + 1))
  | n + 1, pause _ arrived _ => arrived.past n
  | _ + 1, p => p

/-- Interrupted at its first wait, the pull ends as cancelled. -/
def LetsThrough : Pull σ → Prop
  | done _ _ => True
  | report _ next | notice _ next => next.LetsThrough
  | stall _ interrupted | pause _ _ interrupted =>
    ∃ source, interrupted.finish = .answered (.error .cancelled) source

theorem complete_log (tokens other : Tokens) (p : Pull σ) :
    (p.complete tokens).log = (p.complete other).log := by
  induction p generalizing tokens other with
  | done answer source => rfl
  | report entry next ih => exact congrArg (entry :: ·) (ih tokens other)
  | notice n next ih => exact ih _ _
  | stall source interrupted ih => rfl
  | pause source arrived interrupted arrives ih => exact arrives tokens other

theorem abandon_matches {p : Pull σ} {source : σ}
    (lets : p.finish = .answered (.error .cancelled) source) (tokens other : Tokens) :
    (abandon tokens p).finish.Matches (p.complete other).finish ∧
      (abandon tokens p).log = (p.complete other).log := by
  have finish (t : Tokens) : (p.complete t).finish = .answered (.error .cancelled) source :=
    (complete_finish t p).trans lets
  unfold abandon
  simp only [finish]
  exact ⟨.left source, complete_log tokens other p⟩

variable {token : String} {interruption : Option Interruption} {tokens : Tokens} {p : Pull σ}

/-- If the token is not fired until the end, only a cancelled task interrupts a wait. -/
theorem interrupt?_unfired {r : PullRun σ} (h : interrupt? token interruption tokens p = some r)
    (unfired : r.tokens.settle.isFired token = false) :
    interruption = some .task ∧ r = abandon tokens.settle p := by
  have early {now : Tokens} (fired : now.isFired token = true) (calledOff : r = callOff now p) :
      False := by
    have late : r.tokens.isFired token = true := by
      rw [calledOff, callOff_tokens]
      exact complete_fired fired p
    exact Bool.false_ne_true (unfired.symm.trans (Tokens.isFired_settle late))
  unfold interrupt? at h
  by_cases fires : interruption = some .token
  · have fired : (tokens.settle.fire token).isFired token = true :=
      (Tokens.isFired_fire _ token).mpr (.inl rfl)
    simp only [fires, if_true, fired, Option.some.injEq] at h
    exact (early fired h.symm).elim
  · simp only [fires, if_false] at h
    split at h
    · next fired => exact (early fired (Option.some.inj h).symm).elim
    · split at h
      · next task => exact ⟨task, (Option.some.inj h).symm⟩
      · cases h

theorem interrupt?_eq_none (h : interrupt? token interruption tokens p = none) :
    interruption ≠ some .task := by
  rintro rfl
  unfold interrupt? at h
  simp only [reduceCtorEq, Option.some.injEq, if_false, if_true] at h
  split at h <;> cases h

theorem race_matches
    (unfired : (p.race token interruption tokens).tokens.settle.isFired token = false)
    (lets : interruption = some .task → p.LetsThrough) (other : Tokens) :
    (p.race token interruption tokens).finish.Matches (p.await interruption other).finish ∧
      (p.race token interruption tokens).log = (p.await interruption other).log := by
  induction p generalizing tokens other with
  | done answer source => exact ⟨.same _, rfl⟩
  | report entry next ih =>
    obtain ⟨finish, log⟩ := ih unfired lets other
    exact ⟨finish, congrArg (entry :: ·) log⟩
  | notice n next ih => exact ih unfired lets (other.heed n)
  | stall source interrupted ih =>
    rw [race, await] at *
    cases hi : interrupt? token interruption tokens interrupted with
    | none =>
      rw [if_neg (interrupt?_eq_none hi)]
      exact ⟨.same _, rfl⟩
    | some r =>
      rw [hi] at unfired
      obtain ⟨rfl, rfl⟩ := interrupt?_unfired hi unfired
      obtain ⟨left, through⟩ := lets rfl
      rw [if_pos rfl]
      exact abandon_matches through _ other
  | pause source arrived interrupted arrives ih =>
    rw [race, await] at *
    cases hi : interrupt? token interruption tokens interrupted with
    | none =>
      have kept := interrupt?_eq_none hi
      rw [hi] at unfired
      rw [if_neg kept]
      exact arrives unfired (fun task => absurd task kept) other
    | some r =>
      rw [hi] at unfired
      obtain ⟨rfl, rfl⟩ := interrupt?_unfired hi unfired
      obtain ⟨left, through⟩ := lets rfl
      rw [if_pos rfl]
      exact abandon_matches through _ other

end Pull

namespace Session

def Pulled.seen (p : Pulled σ) : Outcome (Option Record) × Session σ × Log :=
  (p.outcome, p.session, p.log)

theorem takeRun_matches (s : Session σ) {r r' : PullRun σ} (finish : r.finish.Matches r'.finish)
    (log : r.log = r'.log) : (s.takeRun r).seen = (s.takeRun r').seen := by
  obtain ⟨finish₁, tokens, log₁⟩ := r
  obtain ⟨finish₂, tokens', log₂⟩ := r'
  cases log
  cases finish with
  | same => cases finish₁ <;> rfl
  | left source => rfl

variable [Source σ]

/-- A call whose token is not fired, neither before it nor until its end, comes to what it comes to
without the token. -/
theorem next_unfired (s : Session σ) (tokens : Tokens) (token : String)
    (interruption : Option Interruption)
    (unfired : (s.next tokens (some token) interruption).tokens.settle.isFired token = false)
    (lets : interruption = some .task → ∀ source, s.Reads source →
      (Source.pull source).LetsThrough) :
    (s.next tokens none interruption).seen = (s.next tokens (some token) interruption).seen := by
  by_cases reads : ∃ source, s.Reads source
  · obtain ⟨source, reads⟩ := reads
    simp only [reads.next, pullFrom] at unfired ⊢
    by_cases fired : tokens.isFired token
    · rw [if_pos fired] at unfired
      -- a token that is fired stays so
      exact absurd (Tokens.isFired_settle fired) (Bool.eq_false_iff.mp unfired)
    · rw [if_neg fired, takeRun_tokens] at unfired
      rw [if_neg fired]
      obtain ⟨finish, log⟩ := Pull.race_matches unfired (fun task => lets task source reads) tokens
      exact (s.takeRun_matches finish log).symm
  · rw [next_of_not_reads reads, next_of_not_reads reads]

end Session

/-- The source with the first waits of each pull behind it. -/
@[reducible]
def Source.past (n : Nat) [Source σ] : Source σ where
  start := Source.start
  pull s := (Source.pull s).past n
  close := Source.close
  dump := Source.dump
  aftermath := Source.aftermath

/-- One call for the next record. The tokens are those at the moment of the call. -/
structure Turn where
  tokens : Tokens := {}
  token : Option String := none
  /-- What happens while the pull waits, -/
  interruption : Option Interruption := none
  /-- when as many of its waits have ended by themselves. -/
  waits : Nat := 0

def Turn.plain (t : Turn) : Turn := { t with token := none }

namespace Session

variable [Source σ]

def turn (s : Session σ) (t : Turn) : Pulled σ :=
  @Session.next σ (Source.past t.waits) s t.tokens t.token t.interruption

/-- What some calls come to, one after another. -/
def turns (s : Session σ) : List Turn → List (Pulled σ)
  | [] => []
  | t :: ts => s.turn t :: (s.turn t).session.turns ts

/-- The token of the call is not fired, neither before the call nor until its end; and if the task is
cancelled while the source waits, the source lets that through. -/
structure Unfired (s : Session σ) (t : Turn) : Prop where
  token : ∀ name, t.token = some name → (s.turn t).tokens.settle.isFired name = false
  lets : t.interruption = some .task → ∀ source, s.Reads source →
    ((Source.pull source).past t.waits).LetsThrough

theorem Unfired.plain {s : Session σ} {t : Turn} (h : s.Unfired t) :
    (s.turn t.plain).seen = (s.turn t).seen := by
  obtain ⟨tokens, token, interruption, waits⟩ := t
  cases token with
  | none => rfl
  | some name =>
    exact @next_unfired σ (Source.past waits) s tokens name interruption (h.token name rfl) h.lets

end Session
end RouteFeed
