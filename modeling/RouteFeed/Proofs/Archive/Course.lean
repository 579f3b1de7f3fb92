import Mathlib.Data.List.Range
import RouteFeed.Archive.Worker

/-! Courses of a worker: what its callers, the worker itself and the loop that delivers its results do,
in any order, and what can be seen of it. -/
namespace RouteFeed.Archive

variable {ι α : Type}

inductive Action (ι α : Type) where
  | call (request : ι)
  /-- The caller of a call stops waiting. -/
  | cancel (id : Nat)
  | shutdown
  /-- The worker takes the next job. -/
  | begin
  /-- The call in progress returns its result, or raises it. -/
  | finish (result : α)
  /-- The loop delivers the result that was posted first. -/
  | deliver

structure Done (ι α : Type) where
  id : Nat
  request : ι
  result : α

/-- What can be seen of a worker. -/
inductive Event (ι α : Type) where
  | began (id : Nat) (request : ι)
  | ended (d : Done ι α)
  /-- A result is delivered; the flag tells whether its caller still waits. -/
  | delivered (id : Nat) (result : α) (heard : Bool)

namespace Job

def isCall : Job ι → Bool
  | call _ _ => true
  | stop => false

def id? : Job ι → Option Nat
  | call id _ => some id
  | stop => none

end Job

namespace Done

def job (d : Done ι α) : Job ι := .call d.id d.request

def answer (d : Done ι α) : Nat × α := (d.id, d.result)

/-- All that is seen while the call runs. -/
def events (d : Done ι α) : List (Event ι α) := [.began d.id d.request, .ended d]

end Done

namespace Event

def isRun : Event ι α → Bool
  | began _ _ | ended _ => true
  | delivered _ _ _ => false

def done? : Event ι α → Option (Done ι α)
  | ended d => some d
  | _ => none

def sent? : Event ι α → Option (Nat × α)
  | delivered id result _ => some (id, result)
  | _ => none

end Event

namespace Action

def isCancel : Action ι α → Bool
  | cancel _ => true
  | _ => false

/-- What has been queued behind an action. A call is numbered by those before it. -/
def queue (jobs : List (Job ι)) : Action ι α → List (Job ι)
  | call request => jobs ++ [.call (jobs.countP Job.isCall) request]
  | shutdown => jobs ++ [.stop]
  | _ => jobs

end Action

/-- All that has ever been queued in a course of actions, in order. -/
def queued (actions : List (Action ι α)) : List (Job ι) := actions.foldl Action.queue []

@[simp] theorem queued_nil : queued ([] : List (Action ι α)) = [] := rfl

@[simp] theorem queued_concat (actions : List (Action ι α)) (a : Action ι α) :
    queued (actions ++ [a]) = a.queue (queued actions) := by
  simp [queued, List.foldl_append]

theorem ids_queued (actions : List (Action ι α)) :
    (queued actions).filterMap Job.id? = List.range ((queued actions).countP Job.isCall) := by
  induction actions using List.reverseRecOn with
  | nil => rfl
  | append_singleton actions a ih =>
    rw [queued_concat]
    cases a with
    | call request =>
      simp only [Action.queue, List.filterMap_append, ih, List.countP_append]
      exact List.range_succ.symm
    | shutdown => simpa [Action.queue, List.filterMap_cons, Job.id?, Job.isCall] using ih
    | _ => exact ih

namespace Worker

def act (w : Worker ι α) : Action ι α → Worker ι α
  | .call request => (w.call request).2
  | .cancel id => w.cancel id
  | .shutdown => w.shutdown
  | .begin => w.begin
  | .finish result => w.finish result
  | .deliver => w.deliver

/-- The caller of a call still waits. -/
def awaits (w : Worker ι α) (id : Nat) : Bool :=
  match w.promise? id with
  | some .pending => true
  | _ => false

def seen (w : Worker ι α) : Action ι α → List (Event ι α)
  | .begin =>
    match w.running, w.begin.running with
    | none, some (id, request) => [.began id request]
    | _, _ => []
  | .finish result =>
    match w.running with
    | some (id, request) => [.ended ⟨id, request, result⟩]
    | none => []
  | .deliver =>
    match w.posted with
    | (id, result) :: _ => [.delivered id result (w.awaits id)]
    | [] => []
  | _ => []

def current (w : Worker ι α) : List (Job ι) := w.running.toList.map fun r => .call r.1 r.2

end Worker

/-- A worker with all that has been seen of it, the first event first. -/
structure Course (ι α : Type) where
  worker : Worker ι α := {}
  events : List (Event ι α) := []

namespace Course

def step (c : Course ι α) (a : Action ι α) : Course ι α :=
  ⟨c.worker.act a, c.events ++ c.worker.seen a⟩

/-- The course that some actions make, one after another. -/
def of (actions : List (Action ι α)) : Course ι α := actions.foldl step {}

@[simp] theorem of_nil : of ([] : List (Action ι α)) = {} := rfl

@[simp] theorem of_concat (actions : List (Action ι α)) (a : Action ι α) :
    of (actions ++ [a]) = (of actions).step a := by
  simp [of, List.foldl_append]

/-- The calls that have been run to their ends, in order. -/
def done (c : Course ι α) : List (Done ι α) := c.events.filterMap Event.done?

def sent (c : Course ι α) : List (Nat × α) := c.events.filterMap Event.sent?

def runs (c : Course ι α) : List (Event ι α) := c.events.filter Event.isRun

end Course
end RouteFeed.Archive
