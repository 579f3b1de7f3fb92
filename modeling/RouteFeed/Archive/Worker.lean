/-! A worker that runs blocking calls one at a time.

Callers put calls into a queue and wait for their results. The worker takes the calls in order; a
result is posted and then delivered to its caller, unless the caller has stopped waiting. The
worker ends at a stop mark, which is queued like a call.

The step by which a result can no longer be posted, as the loop of the callers has closed, is left out:
nobody waits for it, and its log entry is among those that the source leaves (`ArchiveSource.aftermath`). -/
namespace RouteFeed.Archive

inductive Job (ι : Type) where
  | call (id : Nat) (request : ι)
  | stop

/-- What a caller waits for. It is settled or given up at most once. -/
inductive Promise (α : Type) where
  | pending
  | settled (result : α)
  | cancelled

/-- A worker for requests of type `ι` with results of type `α`. -/
structure Worker (ι α : Type) where
  queue : List (Job ι) := []
  running : Option (Nat × ι) := none
  posted : List (Nat × α) := []
  promises : List (Promise α) := []
  exited : Bool := false

namespace Worker

variable {ι α : Type}

/-- Queue a call; its number stands for it from now on. -/
def call (w : Worker ι α) (request : ι) : Nat × Worker ι α :=
  let id := w.promises.length
  (id, { w with
    queue := w.queue ++ [.call id request]
    promises := w.promises ++ [.pending] })

def shutdown (w : Worker ι α) : Worker ι α := { w with queue := w.queue ++ [.stop] }

def promise? (w : Worker ι α) (id : Nat) : Option (Promise α) := w.promises[id]?

def cancel (w : Worker ι α) (id : Nat) : Worker ι α :=
  match w.promise? id with
  | some .pending => { w with promises := w.promises.set id .cancelled }
  | _ => w

/-- The worker takes the next job, if it is free. -/
def begin (w : Worker ι α) : Worker ι α :=
  if w.exited || w.running.isSome then w
  else
    match w.queue with
    | [] => w
    | .stop :: queue => { w with queue, exited := true }
    | .call id request :: queue => { w with queue, running := some (id, request) }

def finish (w : Worker ι α) (result : α) : Worker ι α :=
  match w.running with
  | none => w
  | some (id, _) => { w with running := none, posted := w.posted ++ [(id, result)] }

def settle (w : Worker ι α) (id : Nat) (result : α) : Worker ι α :=
  match w.promise? id with
  | some .pending => { w with promises := w.promises.set id (.settled result) }
  | _ => w

/-- Deliver the result that was posted first. -/
def deliver (w : Worker ι α) : Worker ι α :=
  match w.posted with
  | [] => w
  | (id, result) :: posted => ({ w with posted }).settle id result

/-- The calls that are still to be run: the one in progress and those before the stop mark. -/
def outstanding (w : Worker ι α) : Nat :=
  let queued := w.queue.takeWhile fun
    | .call _ _ => true
    | .stop => false
  (if w.running.isSome then 1 else 0) + queued.length

end Worker
end RouteFeed.Archive
