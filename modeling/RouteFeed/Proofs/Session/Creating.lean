import RouteFeed.Proofs.Session.Procedure
import RouteFeed.Proofs.Session.Steps

/-! Which sources a session creates. A factory may do more than to give a source, so a start is also
carried out in a monad, in which the factory is called. With a record of the calls it is seen what has
been created, whatever becomes of it in the session. -/
namespace RouteFeed

variable {σ : Type}

/-- What follows the call of a factory. -/
def Session.openMade [Source σ] (s : Session σ) (backend : Backend σ) (snapshot : StreamFilters) :
    Except Failure σ → Session.Step σ Unit
  | .error f => s.startFailed backend.name f s.phase.live?
  | .ok source =>
    let opening := Source.start source
      { filters := snapshot, options := s.options, blocking := s.blocking }
    match opening.result with
    | .error f => s.startFailed backend.name f opening.source opening.log
    | .ok () =>
      ⟨.returned (), { s with phase := .started opening.source },
        opening.log ++ [s.startedEntry backend.name snapshot]⟩

def Session.startVia {m : Type → Type} [Monad m] (call : Backend σ → m (Except Failure σ)) [Source σ]
    (s : Session σ) (filters : FilterSet) (blocking : Bool) : m (Session.Step σ Unit) :=
  match s.requireConfiguring "start" with
  | .error f => return ⟨.raised f, s, []⟩
  | .ok () =>
    if filters.windows.isEmpty then return ⟨.raised .noWindow, s, []⟩
    else
      let snapshot := filters.snapshot
      let s := { s with filters := some snapshot, blocking }
      match s.registry.info s.backend with
      | .error f => return ⟨.raised f, s, []⟩
      | .ok backend => return s.openMade backend snapshot (← call backend)

def Backend.recordedCall (b : Backend σ) : StateM (List BackendId) (Except Failure σ) := do
  modify (· ++ [b.id])
  return b.factory

def Registry.created (r : Registry σ) (calls : List BackendId) : List BackendId :=
  calls.filter fun id => ((r.info id).bind Backend.factory).isOk

theorem Registry.id_of_info {r : Registry σ} {id : BackendId} {b : Backend σ}
    (info : r.info id = .ok b) : b ∈ r.backends ∧ b.id = id := by
  unfold Registry.info at info
  split at info
  · rename_i found
    cases info
    exact ⟨List.mem_of_find?_eq_some found, by simpa using List.find?_some found⟩
  · cases info

theorem Registry.created_of_info {r : Registry σ} {id : BackendId} {b : Backend σ}
    (info : r.info id = .ok b) : r.created [b.id] = if b.factory.isOk then [b.id] else [] := by
  rw [(id_of_info info).2, created, List.filter_cons, info, List.filter_nil]
  rfl

namespace Session

variable [Source σ]

/-- A start with a record of the interfaces whose factories it has called. -/
def recordedStart (s : Session σ) (filters : FilterSet) (blocking : Bool) :
    Step σ Unit × List BackendId :=
  (s.startVia Backend.recordedCall filters blocking).run []

theorem startVia_recorded {s : Session σ} {b : Backend σ} (configuring : s.state = .configuring)
    (info : s.registry.info s.backend = .ok b) (filters : FilterSet) (blocking : Bool)
    (calls : List BackendId) :
    (s.startVia Backend.recordedCall filters blocking).run calls =
      (s.start filters blocking, calls ++ if filters.windows.isEmpty then [] else [b.id]) := by
  unfold startVia start
  rw [configuring_allows configuring]
  dsimp only
  cases filters.windows.isEmpty with
  | true => simp only [if_true, List.append_nil]; rfl
  | false =>
    simp only [Bool.false_eq_true, if_false, info]
    rfl

theorem recordedStart_known {s : Session σ} {b : Backend σ} {filters : FilterSet}
    (admits : s.Admits filters b) (blocking : Bool) :
    s.recordedStart filters blocking = (s.start filters blocking, [b.id]) := by
  have windows : filters.windows.isEmpty = false := by simpa using admits.windowed
  have recorded := startVia_recorded admits.configuring admits.info filters blocking []
  rw [windows] at recorded
  exact recorded

theorem recordedStart_refused {s : Session σ} {filters : FilterSet}
    (reason : ¬ ∃ b, s.Admits filters b) (blocking : Bool) :
    s.recordedStart filters blocking = (s.start filters blocking, []) := by
  unfold recordedStart startVia start
  cases required : s.requireConfiguring "start" with
  | error f => rfl
  | ok _ =>
    dsimp only
    cases empty : filters.windows.isEmpty with
    | true => rfl
    | false =>
      cases info : s.registry.info s.backend with
      | error f =>
        simp only [Bool.false_eq_true, if_false]
        rfl
      | ok b =>
        have windowed : filters.windows ≠ [] := by simpa using empty
        exact absurd ⟨b, requireConfiguring_ok required, windowed, info⟩ reason

theorem recordedStart_start (s : Session σ) (filters : FilterSet) (blocking : Bool) :
    (s.recordedStart filters blocking).1 = s.start filters blocking := by
  by_cases reason : ∃ b, s.Admits filters b
  · obtain ⟨b, admits⟩ := reason
    rw [recordedStart_known admits]
  · rw [recordedStart_refused reason]

end Session

variable [Source σ]

/-- The interfaces whose factories have given a source in a move, each as often as it did. -/
def Move.creations (m : Move σ) : List BackendId :=
  match m.operation with
  | .start filters blocking =>
    m.before.registry.created (m.before.recordedStart filters blocking).2
  | _ => []

namespace Session

variable {s : Session σ} {filters : FilterSet}

theorem creations_known {b : Backend σ} (admits : s.Admits filters b) (blocking : Bool) :
    (s.move (.start filters blocking)).creations = if b.factory.isOk then [b.id] else [] := by
  change s.registry.created (s.recordedStart filters blocking).2 = _
  rw [recordedStart_known admits]
  exact Registry.created_of_info admits.info

theorem creations_refused (reason : ¬ ∃ b, s.Admits filters b) (blocking : Bool) :
    (s.move (.start filters blocking)).creations = [] := by
  change s.registry.created (s.recordedStart filters blocking).2 = []
  rw [recordedStart_refused reason]
  rfl

end Session
end RouteFeed
