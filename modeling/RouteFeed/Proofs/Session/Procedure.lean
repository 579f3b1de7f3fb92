import RouteFeed.Session

/-! Procedures over a session: operations one after another, whose failures end what contains them
unless they are caught, and blocks that stop the session however they end. -/
namespace RouteFeed

/-- One operation on a session. The tokens are those at the moment of a pull. -/
inductive Operation where
  | select (id : BackendId)
  | setOption (handle : OptionHandle) (value : String)
  | start (filters : FilterSet) (blocking : Bool)
  | next (tokens : Tokens) (token : Option String) (interruption : Option Interruption)
  | dump (record : Record)
  | stop

def Outcome.discard {α : Type} : Outcome α → Outcome Unit
  | returned _ => .returned ()
  | raised f => .raised f
  | blocked => .blocked

structure Move (σ : Type) where
  operation : Operation
  before : Session σ
  outcome : Outcome Unit
  after : Session σ

def Move.configured {σ : Type} (operation : Operation) (s : Session σ) :
    Except Failure (Session σ) → Move σ
  | .ok after => ⟨operation, s, .returned (), after⟩
  | .error f => ⟨operation, s, .raised f, s⟩

def Session.move {σ : Type} [Source σ] (s : Session σ) (operation : Operation) : Move σ :=
  match operation with
  | .select id => .configured operation s (s.selectBackend id)
  | .setOption handle value => .configured operation s (s.setBackendOption handle value)
  | .start filters blocking =>
    let r := s.start filters blocking
    ⟨operation, s, r.outcome, r.session⟩
  | .next tokens token interruption =>
    let r := s.next tokens token interruption
    ⟨operation, s, r.outcome.discard, r.session⟩
  | .dump record => ⟨operation, s, (Outcome.ofExcept (s.dump record).1).discard, s⟩
  | .stop =>
    let r := s.stop
    ⟨operation, s, r.outcome, r.session⟩

@[simp] theorem Move.configured_operation {σ : Type} (operation : Operation) (s : Session σ)
    (result : Except Failure (Session σ)) :
    (configured operation s result).operation = operation := by
  cases result <;> rfl

@[simp] theorem Move.configured_before {σ : Type} (operation : Operation) (s : Session σ)
    (result : Except Failure (Session σ)) : (configured operation s result).before = s := by
  cases result <;> rfl

@[simp] theorem Session.move_operation {σ : Type} [Source σ] (s : Session σ)
    (operation : Operation) : (s.move operation).operation = operation := by
  cases operation <;> simp [move]

@[simp] theorem Session.move_before {σ : Type} [Source σ] (s : Session σ)
    (operation : Operation) : (s.move operation).before = s := by
  cases operation <;> simp [move]

inductive Procedure where
  | done
  | raise (f : Failure)
  | act (operation : Operation) (rest : Procedure)
  /-- A procedure whose failure is caught, and what follows. -/
  | attempt (body rest : Procedure)
  /-- A procedure at whose end, whatever it is, the session is stopped, and what follows if neither
  failed. -/
  | block (body rest : Procedure)

/-- The end of a procedure, with all that it has carried out. -/
structure Execution (σ : Type) where
  outcome : Outcome Unit
  session : Session σ
  moves : List (Move σ) := []

/-- Put some moves before those of an execution. -/
def Execution.after {σ : Type} (moves : List (Move σ)) (e : Execution σ) : Execution σ :=
  { e with moves := moves ++ e.moves }

namespace Execution

variable {σ : Type}

def andThen (e : Execution σ) (rest : Session σ → Execution σ) : Execution σ :=
  match e.outcome with
  | .returned _ => (rest e.session).after e.moves
  | _ => e

def always (e : Execution σ) (rest : Session σ → Execution σ) : Execution σ :=
  match e.outcome with
  | .blocked => e
  | _ => (rest e.session).after e.moves

/-- A failure that was under way goes on if nothing else has failed. -/
def orElse (e : Execution σ) (before : Outcome Unit) : Execution σ :=
  match e.outcome with
  | .returned _ => { e with outcome := before }
  | _ => e

end Execution

def Move.execution {σ : Type} (m : Move σ) : Execution σ := ⟨m.outcome, m.after, [m]⟩

def Procedure.run {σ : Type} [Source σ] : Procedure → Session σ → Execution σ
  | done, s => ⟨.returned (), s, []⟩
  | raise f, s => ⟨.raised f, s, []⟩
  | act operation rest, s => (s.move operation).execution.andThen rest.run
  | attempt body rest, s => (body.run s).always rest.run
  | block body rest, s =>
    let e := body.run s
    (e.always fun s => (s.move .stop).execution.orElse e.outcome).andThen rest.run

inductive Trail {σ : Type} [Source σ] (s : Session σ) : List (Move σ) → Session σ → Prop
  | start : Trail s [] s
  | move {moves t} (trail : Trail s moves t) (operation : Operation) :
    Trail s (moves ++ [t.move operation]) (t.move operation).after

def Execution.Extends {σ : Type} [Source σ] (e : Execution σ) (t : Session σ) : Prop :=
  ∀ s moves, Trail s moves t → Trail s (moves ++ e.moves) e.session

namespace Execution.Extends

variable {σ : Type} [Source σ]

theorem nothing (t : Session σ) (outcome : Outcome Unit) : Extends ⟨outcome, t, []⟩ t := by
  intro s moves trail
  simpa using trail

theorem move (t : Session σ) (operation : Operation) :
    Extends (t.move operation).execution t :=
  fun _ _ trail => trail.move operation

theorem after {e : Execution σ} {rest : Execution σ} {t : Session σ} (he : Extends e t)
    (hr : Extends rest e.session) : Extends (rest.after e.moves) t := by
  intro s moves trail
  have h := hr s (moves ++ e.moves) (he s moves trail)
  rw [List.append_assoc] at h
  exact h

theorem andThen {e : Execution σ} {rest : Session σ → Execution σ} {t : Session σ}
    (he : Extends e t) (hr : ∀ s, Extends (rest s) s) : Extends (e.andThen rest) t := by
  unfold Execution.andThen
  split
  · exact he.after (hr _)
  · exact he

theorem always {e : Execution σ} {rest : Session σ → Execution σ} {t : Session σ}
    (he : Extends e t) (hr : ∀ s, Extends (rest s) s) : Extends (e.always rest) t := by
  unfold Execution.always
  split
  · exact he
  · exact he.after (hr _)

theorem orElse {e : Execution σ} {t : Session σ} (he : Extends e t) (before : Outcome Unit) :
    Extends (e.orElse before) t := by
  unfold Execution.orElse
  split
  · exact he
  · exact he

end Execution.Extends

theorem Procedure.run_extends {σ : Type} [Source σ] (p : Procedure) (t : Session σ) :
    (p.run t).Extends t := by
  induction p generalizing t with
  | done => exact .nothing t _
  | raise f => exact .nothing t _
  | act operation rest ih => exact (Execution.Extends.move t operation).andThen ih
  | attempt body rest first second => exact (first t).always second
  | block body rest first second =>
    refine ((first t).always fun s => ?_).andThen second
    exact (Execution.Extends.move s .stop).orElse _

theorem Procedure.run_trail {σ : Type} [Source σ] (p : Procedure) (s : Session σ) :
    Trail s (p.run s).moves (p.run s).session := by
  simpa using p.run_extends s s [] .start

end RouteFeed
