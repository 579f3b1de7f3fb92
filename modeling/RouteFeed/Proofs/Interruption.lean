import RouteFeed.Proofs.Pull
import RouteFeed.Proofs.Session.Traced

/-! What a pull comes to, whenever it is interrupted. What holds of everything that a pull can give
holds of what it gives in the end; and a pull that ends wherever it is interrupted does not outlast
its token. -/
namespace RouteFeed

variable {σ : Type}

namespace Tokens

variable {token : String} {t : Tokens}

theorem isFired_fire (t : Tokens) (name : String) :
    (t.fire name).isFired token = true ↔ token = name ∨ t.isFired token = true := by
  simp [isFired, fire]

theorem isFired_settle (h : t.isFired token = true) : t.settle.isFired token = true := by
  unfold settle
  split
  · split
    · exact (isFired_fire t _).mpr (.inr h)
    · exact h
  · exact h

theorem isFired_heed (n : Notice) (h : t.isFired token = true) :
    (t.heed n).isFired token = true := by
  cases n with
  | token name => exact (isFired_fire t name).mpr (.inr h)
  | signal => exact h

end Tokens

namespace Pull

/-- Everything that a pull can come to: `waits` holds of the source at every wait, and `gives` of every
answer and the source behind it. The flag tells whether the pull has been interrupted before. -/
def Every (waits : σ → Prop) (gives : Bool → PullAnswer → σ → Prop) : Bool → Pull σ → Prop
  | late, done answer source => gives late answer source
  | late, report _ next => Every waits gives late next
  | late, notice _ next => Every waits gives late next
  | _, stall source interrupted => waits source ∧ Every waits gives true interrupted
  | late, pause source arrived interrupted =>
    waits source ∧ Every waits gives late arrived ∧ Every waits gives true interrupted

/-- An answer and a source that the pull comes to on some way through its waits; the flag tells whether
it is interrupted on that way. -/
inductive Comes : Pull σ → Bool → PullAnswer → σ → Prop
  | done {answer source} : Comes (.done answer source) false answer source
  | report {entry next late answer source} (rest : Comes next late answer source) :
    Comes (.report entry next) late answer source
  | notice {n next late answer source} (rest : Comes next late answer source) :
    Comes (.notice n next) late answer source
  | stalled {before interrupted late answer source} (rest : Comes interrupted late answer source) :
    Comes (.stall before interrupted) true answer source
  | arrived {before arrived interrupted late answer source} (rest : Comes arrived late answer source) :
    Comes (.pause before arrived interrupted) late answer source
  | interrupted {before arrived interrupted late answer source}
    (rest : Comes interrupted late answer source) :
    Comes (.pause before arrived interrupted) true answer source

/-- Left to itself, the pull comes to an end. -/
def Ends : Pull σ → Prop
  | done _ _ => True
  | report _ next | notice _ next => next.Ends
  | stall _ _ => False
  | pause _ arrived _ => arrived.Ends

/-- Wherever it waits, the pull comes to an end if it is interrupted there. -/
def Interruptible : Pull σ → Prop
  | done _ _ => True
  | report _ next | notice _ next => next.Interruptible
  | stall _ interrupted => interrupted.Ends
  | pause _ arrived interrupted => arrived.Interruptible ∧ interrupted.Ends

variable {waits : σ → Prop} {gives : Bool → PullAnswer → σ → Prop}

theorem Every.imp {waits' : σ → Prop} {gives' : Bool → PullAnswer → σ → Prop}
    (hw : ∀ source, waits source → waits' source)
    (hg : ∀ late answer source, gives late answer source → gives' late answer source)
    {late : Bool} {p : Pull σ} (h : Every waits gives late p) : Every waits' gives' late p := by
  induction p generalizing late with
  | done answer source => exact hg late answer source h
  | report entry next ih => exact ih h
  | notice n next ih => exact ih h
  | stall source interrupted ih => exact ⟨hw source h.1, ih h.2⟩
  | pause source arrived interrupted arrives ih =>
    exact ⟨hw source h.1, arrives h.2.1, ih h.2.2⟩

theorem every_of_forall (hw : ∀ source, waits source)
    (hg : ∀ late answer source, gives late answer source) (late : Bool) (p : Pull σ) :
    Every waits gives late p := by
  induction p generalizing late with
  | done answer source => exact hg late answer source
  | report entry next ih => exact ih late
  | notice n next ih => exact ih late
  | stall source interrupted ih => exact ⟨hw source, ih true⟩
  | pause source arrived interrupted arrives ih => exact ⟨hw source, arrives late, ih true⟩

theorem Every.comes {p : Pull σ} {late cut : Bool} {answer : PullAnswer} {source : σ}
    (h : Every waits gives late p) (way : p.Comes cut answer source) :
    gives (late || cut) answer source := by
  induction way generalizing late with
  | done =>
    rw [Bool.or_false]
    exact h
  | report rest ih | notice rest ih => exact ih h
  | stalled rest ih =>
    have interrupted := ih h.2
    simpa using interrupted
  | arrived rest ih => exact ih h.2.1
  | interrupted rest ih =>
    have interrupted := ih h.2.2
    simpa using interrupted

/-- A pull comes to what it ends with if nothing interrupts it, and without an interruption to nothing
else. -/
theorem comes_iff_finish {p : Pull σ} {answer : PullAnswer} {source : σ} :
    p.Comes false answer source ↔ p.finish = .answered answer source := by
  constructor
  · intro way
    generalize uncut : false = cut at way
    induction way with
    | done => rfl
    | report rest ih | arrived rest ih => exact ih uncut
    | notice rest ih => exact (finish_notice _ _).trans (ih uncut)
    | stalled | interrupted => cases uncut
  · intro finish
    induction p with
    | done =>
      cases finish
      exact .done
    | report entry next ih => exact .report (ih finish)
    | notice n next ih => exact .notice (ih ((finish_notice n next).symm.trans finish))
    | stall => cases finish
    | pause before arrived interrupted arrives ih => exact .arrived (arrives finish)

end Pull

/-- The end of a pull is among the ends it can come to. -/
def PullEnd.Among (waits : σ → Prop) (gives : Bool → PullAnswer → σ → Prop) : PullEnd σ → Prop
  | answered answer source => gives false answer source
  | calledOff answer source => gives true answer source
  | abandoned source => waits source ∨ ∃ answer, gives true answer source
  | stuck source => waits source

namespace Pull

variable {waits : σ → Prop} {gives : Bool → PullAnswer → σ → Prop} {late : Bool} {p : Pull σ}

theorem complete_every (h : Every waits gives late p) (tokens : Tokens) :
    (∃ answer source, (p.complete tokens).finish = .answered answer source ∧
      gives late answer source) ∨
    ∃ source, (p.complete tokens).finish = .stuck source ∧ waits source := by
  induction p generalizing late tokens with
  | done answer source => exact .inl ⟨answer, source, rfl, h⟩
  | report entry next ih => exact ih h tokens
  | notice n next ih => exact ih h (tokens.heed n)
  | stall source interrupted ih => exact .inr ⟨source, rfl, h.1⟩
  | pause source arrived interrupted arrives ih => exact arrives h.2.1 tokens

theorem callOff_among (h : Every waits gives true p) (tokens : Tokens) :
    (callOff tokens p).finish.Among waits gives := by
  unfold callOff
  rcases complete_every h tokens with ⟨answer, source, finish, given⟩ | ⟨source, finish, waiting⟩
  · simp only [finish]
    exact given
  · simp only [finish]
    exact waiting

theorem abandon_among (h : Every waits gives true p) (tokens : Tokens) :
    (abandon tokens p).finish.Among waits gives := by
  unfold abandon
  rcases complete_every h tokens with ⟨answer, source, finish, given⟩ | ⟨source, finish, waiting⟩
  · simp only [finish]
    exact .inr ⟨answer, given⟩
  · simp only [finish]
    exact .inl waiting

theorem interrupt?_among (h : Every waits gives true p) {token : String}
    {interruption : Option Interruption} {tokens : Tokens} {r : PullRun σ}
    (interrupted : interrupt? token interruption tokens p = some r) :
    r.finish.Among waits gives := by
  rcases interrupt?_cases interrupted with ⟨now, rfl⟩ | ⟨_, now, rfl⟩
  · exact callOff_among h now
  · exact abandon_among h now

theorem race_among (h : Every waits gives false p) (token : String)
    (interruption : Option Interruption) (tokens : Tokens) :
    (p.race token interruption tokens).finish.Among waits gives := by
  induction p generalizing tokens with
  | done answer source => exact h
  | report entry next ih => exact ih h tokens
  | notice n next ih => exact ih h (tokens.heed n)
  | stall source interrupted ih =>
    rw [race]
    cases hi : interrupt? token interruption tokens interrupted with
    | none => exact h.1
    | some r => exact interrupt?_among h.2 hi
  | pause source arrived interrupted arrives ih =>
    rw [race]
    cases hi : interrupt? token interruption tokens interrupted with
    | none => exact arrives h.2.1 tokens
    | some r => exact interrupt?_among h.2.2 hi

theorem await_among (h : Every waits gives false p) {interruption : Option Interruption}
    (kept : interruption ≠ some .task) (tokens : Tokens) :
    (p.await interruption tokens).finish.Among waits gives := by
  induction p generalizing tokens with
  | done answer source => exact h
  | report entry next ih => exact ih h tokens
  | notice n next ih => exact ih h (tokens.heed n)
  | stall source interrupted ih =>
    rw [await, if_neg kept]
    exact h.1
  | pause source arrived interrupted arrives ih =>
    rw [await, if_neg kept]
    exact arrives h.2.1 tokens

theorem Ends.complete (h : p.Ends) (tokens : Tokens) :
    ∃ answer source, (p.complete tokens).finish = .answered answer source := by
  induction p generalizing tokens with
  | done answer source => exact ⟨answer, source, rfl⟩
  | report entry next ih => exact ih h tokens
  | notice n next ih => exact ih h (tokens.heed n)
  | stall source interrupted ih => exact h.elim
  | pause source arrived interrupted arrives ih => exact arrives h tokens

variable {token : String} {tokens : Tokens}

theorem complete_fired (fired : tokens.isFired token = true) (p : Pull σ) :
    (p.complete tokens).tokens.isFired token = true := by
  induction p generalizing tokens with
  | done answer source => exact fired
  | report entry next ih => exact ih fired
  | notice n next ih => exact ih (Tokens.isFired_heed n fired)
  | stall source interrupted ih => exact fired
  | pause source arrived interrupted arrives ih => exact arrives fired

theorem callOff_tokens (tokens : Tokens) (p : Pull σ) :
    (callOff tokens p).tokens = (p.complete tokens).tokens := by
  unfold callOff
  dsimp only
  split <;> rfl

theorem every_traced {waits : Traced σ → Prop} {gives : Bool → PullAnswer → Traced σ → Prop}
    (calls : List SourceCall) (late : Bool) (p : Pull σ) :
    Every waits gives late (p.traced calls) ↔
      Every (fun source => waits ⟨source, calls⟩)
        (fun late answer source => gives late answer ⟨source, calls ++ SourceCall.ofAnswer answer⟩)
        late p := by
  induction p generalizing late with
  | done answer source => rfl
  | report entry next ih => exact ih late
  | notice n next ih => exact ih late
  | stall source interrupted ih => exact and_congr_right fun _ => ih true
  | pause source arrived interrupted arrives ih =>
    exact and_congr_right fun _ => and_congr (arrives late) (ih true)

theorem Ends.traced {p : Pull σ} (h : p.Ends) (calls : List SourceCall) :
    (p.traced calls).Ends := by
  induction p with
  | done answer source => trivial
  | report entry next ih => exact ih h
  | notice n next ih => exact ih h
  | stall source interrupted ih => exact h
  | pause source arrived interrupted arrives ih => exact arrives h

theorem Interruptible.traced {p : Pull σ} (h : p.Interruptible) (calls : List SourceCall) :
    (p.traced calls).Interruptible := by
  induction p with
  | done answer source => trivial
  | report entry next ih => exact ih h
  | notice n next ih => exact ih h
  | stall source interrupted ih => exact Ends.traced h calls
  | pause source arrived interrupted arrives ih => exact ⟨arrives h.1, Ends.traced h.2 calls⟩

end Pull
end RouteFeed
