import RouteFeed.Retrieval

/-! The turns of a retrieval. What one turn comes to is said once, in `turn_turns`; a run that comes to
an end is a chain of turns that go on, and then one that ends it. -/
namespace RouteFeed.Retrieval

variable {σ : Type}

def linesOf (ws : List (Log × Writing)) : List String := ws.flatMap fun w => w.2.lines

def Run.afterAll (ws : List (Log × Writing)) (run : Run σ) : Run σ :=
  ws.foldr (fun w run => run.after w.1 w.2) run

namespace Run

variable (ws : List (Log × Writing)) (run : Run σ)

@[simp] theorem afterAll_outcome : (run.afterAll ws).outcome = run.outcome := by
  induction ws with
  | nil => rfl
  | cons w ws ih => exact ih

@[simp] theorem afterAll_retrieval : (run.afterAll ws).retrieval = run.retrieval := by
  induction ws with
  | nil => rfl
  | cons w ws ih => exact ih

@[simp] theorem afterAll_lines : (run.afterAll ws).lines = linesOf ws ++ run.lines := by
  induction ws with
  | nil => rfl
  | cons w ws ih =>
    rw [linesOf, List.flatMap_cons, List.append_assoc]
    exact congrArg (w.2.lines ++ ·) ih

@[simp] theorem afterAll_handled :
    (run.afterAll ws).handled = ws.map (·.2.record) ++ run.handled := by
  induction ws with
  | nil => rfl
  | cons w ws ih => exact congrArg (w.2.record :: ·) ih

end Run

variable [Source σ]

def pulled (r : Retrieval σ) : Session.Pulled σ := r.session.next r.tokens r.token r.interruption

def behind (r : Retrieval σ) : Retrieval σ :=
  { r with session := r.pulled.session, tokens := r.pulled.tokens }

/-- The retrieval behind its next pull, when a record of it has been counted. -/
def beyond (r : Retrieval σ) (record : Record) : Retrieval σ :=
  { r.behind with stats := count r.stats (r.behind.write record) }

inductive Turns (r : Retrieval σ) : Turn σ → Prop
  | waits (outcome : r.pulled.outcome = .blocked) :
    Turns r (.ends { outcome := .blocked, retrieval := r.behind, log := r.pulled.log })
  | fails {f} (outcome : r.pulled.outcome = .raised f) :
    Turns r (.ends { outcome := .raised f, retrieval := r.behind, log := r.pulled.log })
  | finishes (outcome : r.pulled.outcome = .returned none) :
    Turns r (.ends
      { outcome := .returned (), retrieval := r.behind
        log := r.pulled.log ++ [finishedEntry r.stats] })
  | breaks {record f} (outcome : r.pulled.outcome = .returned (some record))
    (failure : (r.behind.write record).failure = some f) :
    Turns r (.ends (Run.after r.pulled.log (r.behind.write record)
      { outcome := .raised f, retrieval := r.beyond record }))
  | goesOn {record} (outcome : r.pulled.outcome = .returned (some record))
    (whole : (r.behind.write record).failure = none) :
    Turns r (.goesOn r.pulled.log (r.behind.write record) (r.beyond record))

theorem turn_eq (r : Retrieval σ) :
    r.turn = match r.pulled.outcome with
      | .blocked => .ends { outcome := .blocked, retrieval := r.behind, log := r.pulled.log }
      | .raised f => .ends { outcome := .raised f, retrieval := r.behind, log := r.pulled.log }
      | .returned none =>
        .ends
          { outcome := .returned (), retrieval := r.behind
            log := r.pulled.log ++ [finishedEntry r.stats] }
      | .returned (some record) =>
        match (r.behind.write record).failure with
        | some f =>
          .ends (Run.after r.pulled.log (r.behind.write record)
            { outcome := .raised f, retrieval := r.beyond record })
        | none => .goesOn r.pulled.log (r.behind.write record) (r.beyond record) := rfl

theorem turn_of_record {r : Retrieval σ} {record : Record}
    (given : r.pulled.outcome = .returned (some record)) :
    r.turn = match (r.behind.write record).failure with
      | some f =>
        .ends (Run.after r.pulled.log (r.behind.write record)
          { outcome := .raised f, retrieval := r.beyond record })
      | none => .goesOn r.pulled.log (r.behind.write record) (r.beyond record) := by
  rw [turn_eq, given]

theorem turn_turns (r : Retrieval σ) : r.Turns r.turn := by
  rw [turn_eq]
  cases outcome : r.pulled.outcome with
  | blocked => exact .waits outcome
  | raised f => exact .fails outcome
  | returned answer =>
    cases answer with
    | none => exact .finishes outcome
    | some record =>
      dsimp only
      cases failure : (r.behind.write record).failure with
      | some f => exact .breaks outcome failure
      | none => exact .goesOn outcome failure

theorem run?_of_ends {r : Retrieval σ} {run : Run σ} (turned : r.turn = .ends run) :
    r.run? = some run := by
  rw [run?, turned]

theorem run?_of_goesOn {r next : Retrieval σ} {log : Log} {w : Writing} {run : Run σ}
    (turned : r.turn = .goesOn log w next) (done : next.run? = some run) :
    r.run? = some (run.after log w) := by
  rw [run?, turned]
  simp only [done, Option.bind_eq_bind, Option.bind_some]

theorem run?_of_unblocked {r : Retrieval σ} (unblocked : r.run.outcome ≠ .blocked) :
    r.run? = some r.run := by
  cases done : r.run? with
  | none =>
    rw [run, done] at unblocked
    exact absurd rfl unblocked
  | some run => rw [Retrieval.run, done, Option.getD_some]

inductive Leads : Retrieval σ → List (Log × Writing) → Retrieval σ → Prop
  | here (r) : Leads r [] r
  | step {r log w next ws last} (turned : r.turn = .goesOn log w next)
    (rest : Leads next ws last) : Leads r ((log, w) :: ws) last

theorem Leads.token {r last : Retrieval σ} {ws : List (Log × Writing)} (h : r.Leads ws last) :
    last.token = r.token := by
  induction h with
  | here r => rfl
  | @step r log w next ws last turned rest ih =>
    have turns := r.turn_turns
    rw [turned] at turns
    cases turns with
    | goesOn => exact ih

theorem run?_eq_some_iff {r : Retrieval σ} {run : Run σ} :
    r.run? = some run ↔
      ∃ ws last ending, r.Leads ws last ∧ last.turn = .ends ending ∧ run = ending.afterAll ws := by
  constructor
  · have leads := run?.partial_correctness (fun (r : Retrieval σ) run =>
      ∃ ws last ending, r.Leads ws last ∧ last.turn = .ends ending ∧ run = ending.afterAll ws)
    refine leads (fun further ih r run h => ?_) r run
    cases turned : r.turn with
    | ends ending =>
      rw [turned] at h
      cases h
      exact ⟨[], r, run, .here r, turned, rfl⟩
    | goesOn log w next =>
      rw [turned] at h
      obtain ⟨rest, done, same⟩ := Option.bind_eq_some_iff.mp h
      obtain ⟨ws, last, ending, chain, ends, rfl⟩ := ih next rest done
      cases same
      exact ⟨(log, w) :: ws, last, ending, .step turned chain, ends, rfl⟩
  · rintro ⟨ws, last, ending, chain, ends, rfl⟩
    induction chain with
    | here r => exact run?_of_ends ends
    | step turned rest ih => exact run?_of_goesOn turned (ih ends)

end RouteFeed.Retrieval
