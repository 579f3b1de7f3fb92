import RouteFeed.Source

/-! Cancellation tokens, and what becomes of a pull that waits.

A token fires once and stays fired. A signal fires the token that listens for it, but not before
the next moment at which a pull waits or begins. A pull that has been interrupted decides itself
how it ends: it may still give a record. -/
namespace RouteFeed

/-- The tokens that have been fired, and a signal that has not been passed on yet. -/
structure Tokens where
  fired : List String := []
  listener : Option String := none
  signalled : Bool := false

namespace Tokens

def isFired (t : Tokens) (token : String) : Bool := t.fired.contains token

def fire (t : Tokens) (token : String) : Tokens := { t with fired := token :: t.fired }

/-- A new token under a name has not been fired. -/
def renew (t : Tokens) (token : String) : Tokens :=
  { t with fired := t.fired.filter fun name => name != token }

/-- Take note of what becomes known. -/
def heed (t : Tokens) : Notice → Tokens
  | .token name => t.fire name
  | .signal => { t with signalled := t.signalled || t.listener.isSome }

/-- Pass a signal on to its token. -/
def settle (t : Tokens) : Tokens :=
  match t.listener with
  | some name => if t.signalled then { t.fire name with signalled := false } else t
  | none => t

end Tokens

/-- What happens while a pull waits. -/
inductive Interruption where
  | token
  | task
  deriving DecidableEq

inductive PullEnd (σ : Type) where
  | answered (answer : PullAnswer) (source : σ)
  /-- It was interrupted by its token, and then gave an answer. -/
  | calledOff (answer : PullAnswer) (source : σ)
  /-- Its task was cancelled; it went on by itself. -/
  | abandoned (source : σ)
  | stuck (source : σ)

/-- The end of a pull, with the tokens and the log at that moment. -/
structure PullRun (σ : Type) where
  finish : PullEnd σ
  tokens : Tokens
  log : Log := []

def PullRun.after {σ : Type} (entry : LogEntry) (r : PullRun σ) : PullRun σ :=
  { r with log := entry :: r.log }

namespace Pull

variable {σ : Type}

/-- Go on to the end without any interruption. -/
def complete (tokens : Tokens) : Pull σ → PullRun σ
  | done answer source => ⟨.answered answer source, tokens, []⟩
  | report entry next => (complete tokens next).after entry
  | notice n next => complete (tokens.heed n) next
  | stall source _ => ⟨.stuck source, tokens, []⟩
  | pause _ arrived _ => complete tokens arrived

/-- Wait for the end without a token. A cancelled task interrupts the pull at its first wait. -/
def await (interruption : Option Interruption) (tokens : Tokens) : Pull σ → PullRun σ
  | done answer source => ⟨.answered answer source, tokens, []⟩
  | report entry next => (await interruption tokens next).after entry
  | notice n next => await interruption (tokens.heed n) next
  | stall source interrupted =>
    if interruption = some .task then complete tokens interrupted
    else ⟨.stuck source, tokens, []⟩
  | pause _ arrived interrupted =>
    if interruption = some .task then complete tokens interrupted
    else await interruption tokens arrived

/-- Interrupt a pull because of its token, and wait for its end. -/
def callOff (tokens : Tokens) (interrupted : Pull σ) : PullRun σ :=
  let r := complete tokens interrupted
  match r.finish with
  | .answered answer source => { r with finish := .calledOff answer source }
  | _ => r

/-- Interrupt a pull because its task is cancelled, and leave it alone. -/
def abandon (tokens : Tokens) (interrupted : Pull σ) : PullRun σ :=
  let r := complete tokens interrupted
  match r.finish with
  | .answered _ source | .stuck source => { r with finish := .abandoned source }
  | _ => r

/-- What a wait comes to under a token: fired now or before, or the task cancelled, or neither. -/
def interrupt? (token : String) (interruption : Option Interruption) (tokens : Tokens)
    (interrupted : Pull σ) : Option (PullRun σ) :=
  -- a signal reaches its token here, and decides the same wait
  let tokens := tokens.settle
  let tokens := if interruption = some .token then tokens.fire token else tokens
  if tokens.isFired token then some (callOff tokens interrupted)
  else if interruption = some .task then some (abandon tokens interrupted)
  else none

/-- Wait for the end or for a token, whichever comes first. A pull that ends without a wait gives
its answer even if the token is fired meanwhile. -/
def race (token : String) (interruption : Option Interruption) (tokens : Tokens) :
    Pull σ → PullRun σ
  | done answer source => ⟨.answered answer source, tokens, []⟩
  | report entry next => (race token interruption tokens next).after entry
  | notice n next => race token interruption (tokens.heed n) next
  | stall source interrupted =>
    (interrupt? token interruption tokens interrupted).getD ⟨.stuck source, tokens, []⟩
  | pause _ arrived interrupted =>
    match interrupt? token interruption tokens interrupted with
    | some r => r
    | none => race token interruption tokens arrived

end Pull
end RouteFeed
