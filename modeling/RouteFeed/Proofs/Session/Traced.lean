import RouteFeed.Session

/-! Sources that keep a history of what is done to them. A traced source does what the source inside
it does; its history shows to which calls a session has come. -/
namespace RouteFeed

inductive SourceCall where
  | made
  | opened (succeeded : Bool)
  | pulled
  /-- A pull has failed, other than by being cancelled. -/
  | failed
  | closed
  deriving DecidableEq

/-- A source with its history, the first call first. -/
structure Traced (σ : Type) where
  source : σ
  calls : List SourceCall

def SourceCall.ofAnswer : PullAnswer → List SourceCall
  | .ok _ => []
  | .error f => if f.kind = .cancelled then [] else [.failed]

theorem SourceCall.ofAnswer_of_calm {answer : PullAnswer}
    (calm : ∀ f, answer = .error f → f.kind = .cancelled) : ofAnswer answer = [] := by
  cases answer with
  | ok record => rfl
  | error f => exact if_pos (calm f rfl)

theorem SourceCall.ofAnswer_of_own {f : Failure} (own : f.kind ≠ .cancelled) :
    ofAnswer (.error f) = [.failed] := if_neg own

namespace Pull

variable {σ : Type}

def traced (calls : List SourceCall) : Pull σ → Pull (Traced σ)
  | done answer source => .done answer ⟨source, calls ++ SourceCall.ofAnswer answer⟩
  | report entry next => .report entry (next.traced calls)
  | notice n next => .notice n (next.traced calls)
  | stall source interrupted => .stall ⟨source, calls⟩ (interrupted.traced calls)
  | pause source arrived interrupted =>
    .pause ⟨source, calls⟩ (arrived.traced calls) (interrupted.traced calls)

end Pull

instance {σ : Type} [Source σ] : Source (Traced σ) where
  start t config :=
    let r := Source.start t.source config
    { result := r.result, source := ⟨r.source, t.calls ++ [.opened r.result.isOk]⟩, log := r.log }
  pull t := (Source.pull t.source).traced (t.calls ++ [.pulled])
  close t :=
    let r := Source.close t.source
    (r.1, ⟨r.2, t.calls ++ [.closed]⟩)
  dump t record := Source.dump t.source record
  aftermath t := Source.aftermath t.source

/-- The same interface with another kind of source. -/
def Backend.map {σ τ : Type} (f : σ → τ) (b : Backend σ) : Backend τ where
  id := b.id
  name := b.name
  description := b.description
  options := b.options
  factory := b.factory.map f

/-- The same registry with another kind of source. -/
def Registry.map {σ τ : Type} (f : σ → τ) (r : Registry σ) : Registry τ where
  backends := r.backends.map (Backend.map f)
  preferred := r.preferred

/-- The registry whose interfaces make traced sources. -/
def Registry.traced {σ : Type} (r : Registry σ) : Registry (Traced σ) :=
  r.map fun source => ⟨source, [.made]⟩

/-- How the history of a pull goes on to its end. -/
def PullEnd.Continues {σ : Type} (calls : List SourceCall) : PullEnd (Traced σ) → Prop
  | answered answer t => t.calls = calls ++ SourceCall.ofAnswer answer
  | calledOff answer t => t.calls = calls ++ SourceCall.ofAnswer answer
  | abandoned t => t.calls = calls ∨ t.calls = calls ++ [.failed]
  | stuck t => t.calls = calls

namespace Pull

variable {σ : Type}

theorem complete_traced (calls : List SourceCall) (tokens : Tokens) (p : Pull σ) :
    (∃ answer t, ((p.traced calls).complete tokens).finish = .answered answer t ∧
      t.calls = calls ++ SourceCall.ofAnswer answer) ∨
    ∃ t, ((p.traced calls).complete tokens).finish = .stuck t ∧ t.calls = calls := by
  induction p generalizing tokens with
  | done answer source => exact .inl ⟨answer, _, rfl, rfl⟩
  | report entry next ih => exact ih tokens
  | notice n next ih => exact ih (tokens.heed n)
  | stall source interrupted ih => exact .inr ⟨_, rfl, rfl⟩
  | pause source arrived interrupted arrives ih => exact arrives tokens

theorem complete_continues (calls : List SourceCall) (tokens : Tokens) (p : Pull σ) :
    ((p.traced calls).complete tokens).finish.Continues calls := by
  rcases complete_traced calls tokens p with ⟨answer, t, finish, history⟩ | ⟨t, finish, history⟩
  · rw [finish]
    exact history
  · rw [finish]
    exact history

theorem callOff_continues (calls : List SourceCall) (tokens : Tokens) (p : Pull σ) :
    (callOff tokens (p.traced calls)).finish.Continues calls := by
  unfold callOff
  rcases complete_traced calls tokens p with ⟨answer, t, finish, history⟩ | ⟨t, finish, history⟩
  · simp only [finish]
    exact history
  · simp only [finish]
    exact history

theorem abandon_continues (calls : List SourceCall) (tokens : Tokens) (p : Pull σ) :
    (abandon tokens (p.traced calls)).finish.Continues calls := by
  unfold abandon
  rcases complete_traced calls tokens p with ⟨answer, t, finish, history⟩ | ⟨t, finish, history⟩
  · simp only [finish, PullEnd.Continues]
    rw [history]
    unfold SourceCall.ofAnswer
    split
    · exact .inl (List.append_nil calls)
    · split
      · exact .inl (List.append_nil calls)
      · exact .inr rfl
  · simp only [finish]
    exact .inl history

theorem await_continues (calls : List SourceCall) (interruption : Option Interruption)
    (tokens : Tokens) (p : Pull σ) :
    ((p.traced calls).await interruption tokens).finish.Continues calls := by
  induction p generalizing tokens with
  | done answer source => exact rfl
  | report entry next ih => exact ih tokens
  | notice n next ih => exact ih (tokens.heed n)
  | stall source interrupted ih =>
    rw [traced, await]
    split
    · exact complete_continues calls tokens interrupted
    · exact rfl
  | pause source arrived interrupted arrives ih =>
    rw [traced, await]
    split
    · exact complete_continues calls tokens interrupted
    · exact arrives tokens

theorem interrupt?_cases {token : String} {interruption : Option Interruption} {tokens : Tokens}
    {p : Pull σ} {r : PullRun σ} (h : interrupt? token interruption tokens p = some r) :
    (∃ tokens, r = callOff tokens p) ∨
      (interruption = some .task ∧ ∃ tokens, r = abandon tokens p) := by
  unfold interrupt? at h
  dsimp only at h
  generalize (if interruption = some .token then tokens.settle.fire token else tokens.settle) = now
    at h
  by_cases fired : now.isFired token
  · rw [if_pos fired] at h
    cases h
    exact .inl ⟨now, rfl⟩
  · rw [if_neg fired] at h
    by_cases task : interruption = some .task
    · rw [if_pos task] at h
      cases h
      exact .inr ⟨task, now, rfl⟩
    · rw [if_neg task] at h
      cases h

theorem interrupt?_continues {calls : List SourceCall} {token : String}
    {interruption : Option Interruption} {tokens : Tokens} {p : Pull σ}
    {r : PullRun (Traced σ)} (h : interrupt? token interruption tokens (p.traced calls) = some r) :
    r.finish.Continues calls := by
  rcases interrupt?_cases h with ⟨now, rfl⟩ | ⟨_, now, rfl⟩
  · exact callOff_continues calls now p
  · exact abandon_continues calls now p

theorem race_continues (calls : List SourceCall) (token : String)
    (interruption : Option Interruption) (tokens : Tokens) (p : Pull σ) :
    ((p.traced calls).race token interruption tokens).finish.Continues calls := by
  induction p generalizing tokens with
  | done answer source => exact rfl
  | report entry next ih => exact ih tokens
  | notice n next ih => exact ih (tokens.heed n)
  | stall source interrupted ih =>
    rw [traced, race]
    cases hi : interrupt? token interruption tokens (interrupted.traced calls) with
    | none => exact rfl
    | some r => exact interrupt?_continues hi
  | pause source arrived interrupted arrives ih =>
    rw [traced, race]
    cases hi : interrupt? token interruption tokens (interrupted.traced calls) with
    | none => exact arrives tokens
    | some r => exact interrupt?_continues hi

theorem complete_not_abandoned (tokens : Tokens) (p : Pull σ) (source : σ) :
    (p.complete tokens).finish ≠ .abandoned source := by
  induction p generalizing tokens with
  | done answer source => exact nofun
  | report entry next ih => exact ih tokens
  | notice n next ih => exact ih (tokens.heed n)
  | stall source interrupted ih => exact nofun
  | pause source arrived interrupted arrives ih => exact arrives tokens

theorem await_not_abandoned (interruption : Option Interruption) (tokens : Tokens) (p : Pull σ)
    (source : σ) : (p.await interruption tokens).finish ≠ .abandoned source := by
  induction p generalizing tokens with
  | done answer source => exact nofun
  | report entry next ih => exact ih tokens
  | notice n next ih => exact ih (tokens.heed n)
  | stall source interrupted ih =>
    rw [await]
    split
    · exact complete_not_abandoned tokens interrupted _
    · exact nofun
  | pause source arrived interrupted arrives ih =>
    rw [await]
    split
    · exact complete_not_abandoned tokens interrupted _
    · exact arrives tokens

theorem callOff_not_abandoned (tokens : Tokens) (p : Pull σ) (source : σ) :
    (callOff tokens p).finish ≠ .abandoned source := by
  unfold callOff
  cases finish : (p.complete tokens).finish with
  | abandoned left => exact absurd finish (complete_not_abandoned tokens p left)
  | answered answer left =>
    simp only [finish]
    exact nofun
  | calledOff answer left =>
    simp only [finish]
    exact nofun
  | stuck left =>
    simp only [finish]
    exact nofun

theorem race_abandoned {token : String} {interruption : Option Interruption} {tokens : Tokens}
    {p : Pull σ} {source : σ}
    (h : (p.race token interruption tokens).finish = .abandoned source) :
    interruption = some .task := by
  -- a token waits for the end of the pull; only a cancelled task leaves it alone
  have interrupted {q : Pull σ} {tokens : Tokens} {r : PullRun σ}
      (hi : interrupt? token interruption tokens q = some r)
      (hr : r.finish = .abandoned source) : interruption = some .task := by
    rcases interrupt?_cases hi with ⟨now, rfl⟩ | ⟨task, _⟩
    · exact absurd hr (callOff_not_abandoned now q source)
    · exact task
  induction p generalizing tokens with
  | done answer left => cases h
  | report entry next ih => exact ih h
  | notice n next ih => exact ih h
  | stall left q ih =>
    rw [race] at h
    cases hi : interrupt? token interruption tokens q with
    | none => simp [hi] at h
    | some r =>
      rw [hi] at h
      exact interrupted hi h
  | pause left arrived q arrives ih =>
    rw [race] at h
    cases hi : interrupt? token interruption tokens q with
    | none =>
      rw [hi] at h
      exact arrives h
    | some r =>
      rw [hi] at h
      exact interrupted hi h

end Pull
end RouteFeed
