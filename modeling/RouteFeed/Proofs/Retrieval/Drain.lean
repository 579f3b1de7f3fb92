import RouteFeed.Proofs.Retrieval.Delivery
import RouteFeed.Proofs.Retrieval.Turns
import RouteFeed.Proofs.Retrieval.Writing
import RouteFeed.Proofs.Session.Raising

/-! Draining a session: what a retrieval writes, and how it ends, when its source delivers. -/
namespace RouteFeed

variable {σ : Type} [Source σ] {token : String}

/-- The same session in a phase whose source can be released. -/
def Session.Releasable (s t : Session σ) : Prop :=
  ∃ phase left, t = { s with phase } ∧ phase.live? = some left ∧ Source.Mannered left

namespace Retrieval

inductive Drains (r : Retrieval σ) (entries : List Entry) (supply : Supply) (run : Run σ) : Prop
  | exhausts (supply : supply = .exhausted)
    (writes : Entry.Writes r.elementBuffer entries run.lines none)
    (outcome : run.outcome = .returned ())
    (session : r.session.Releasable run.retrieval.session)
  | fails {f} (supply : supply = .fails)
    (writes : Entry.Writes r.elementBuffer entries run.lines none)
    (outcome : run.outcome = .raised f) (kind : f.kind = .backend)
    (session : r.session.Releasable run.retrieval.session)
  | cut {f} (writes : Entry.Writes r.elementBuffer entries run.lines (some f))
    (outcome : run.outcome = .raised f) (session : r.session.Releasable run.retrieval.session)

theorem Drains.after {r next : Retrieval σ} {entries more : List Entry} {supply : Supply}
    {run : Run σ} (h : next.Drains more supply run) {w : Writing} {log : Log}
    (buffer : next.elementBuffer = r.elementBuffer) {phase : Phase σ}
    (session : next.session = { r.session with phase })
    (writes : Entry.Writes r.elementBuffer entries w.lines none) :
    r.Drains (entries ++ more) supply (run.after log w) := by
  have releasable (h : next.session.Releasable run.retrieval.session) :
      r.session.Releasable run.retrieval.session := by
    obtain ⟨last, left, same, live⟩ := h
    exact ⟨last, left, by rw [same, session], live⟩
  cases h with
  | exhausts supply rest outcome left =>
    exact .exhausts supply (writes.append (buffer ▸ rest)) outcome (releasable left)
  | fails supply rest outcome kind left =>
    exact .fails supply (writes.append (buffer ▸ rest)) outcome kind (releasable left)
  | cut rest outcome left =>
    exact .cut (writes.append (buffer ▸ rest)) outcome (releasable left)

/-- The session reads from a source, and nothing interrupts its pulls. -/
structure Undisturbed (r : Retrieval σ) (token : String) (s : σ) : Prop where
  reads : r.session.Reads s
  under : r.token = some token
  free : r.interruption = none
  quiet : r.tokens.Quiet token

namespace Undisturbed

variable {r : Retrieval σ} {s left : σ} {answer : PullAnswer} {record : Record}

theorem pulled (h : r.Undisturbed token s) (pull : (Source.pull s).Answers token answer left) :
    r.pulled.outcome = (r.session.take answer left).1 ∧
      r.behind.session = (r.session.take answer left).2 ∧ r.behind.tokens.Quiet token := by
  obtain ⟨after, log, still, next⟩ := r.session.next_of_answers h.reads pull h.quiet
  rw [← h.under, ← h.free] at next
  rw [behind, Retrieval.pulled, next]
  exact ⟨rfl, rfl, still⟩

theorem beyond (h : r.Undisturbed token s)
    (pull : (Source.pull s).Answers token (.ok (some record)) left) :
    (r.beyond record).Undisturbed token left := by
  obtain ⟨-, session, still⟩ := h.pulled pull
  exact ⟨.inr (congrArg Session.phase session), h.under, h.free, still⟩

theorem writes (h : r.Undisturbed token s)
    (pull : (Source.pull s).Answers token (.ok (some record)) left)
    (mannered : Source.Mannered left) (printable : record.Printable) :
    Entry.Writes r.elementBuffer (record.entries r.modes) (r.behind.write record).lines
      (r.behind.write record).failure := by
  obtain ⟨-, session, -⟩ := h.pulled pull
  have dumps (record : Record) : r.behind.session.dump record = record.dump := by
    rw [session]
    exact mannered.dump record
  exact write_writes dumps printable

end Undisturbed

/-- A retrieval writes the entries of the records that its source delivers. Records without end are
written until an element does not fit. -/
theorem run?_of_delivers {s : σ} {records : List Record} {supply : Supply}
    (delivers : Source.Delivers token s records supply) {r : Retrieval σ} {name : String}
    (undisturbed : r.Undisturbed token s) (named : r.session.backendName = .ok name)
    (printable : ∀ record ∈ records, record.Printable)
    (bounded : supply = .goesOn →
      ¬ ∀ e ∈ records.flatMap (Record.entries r.modes), e.Fits r.elementBuffer) :
    ∃ run, r.run? = some run ∧ r.Drains (records.flatMap (Record.entries r.modes)) supply run := by
  -- each pull leaves an undisturbed retrieval, with the counters of one more record
  induction delivers generalizing r with
  | @gives s left record records supply pull mannered rest ih =>
    obtain ⟨given, session, -⟩ := undisturbed.pulled pull
    have writes := undisturbed.writes pull mannered (printable record List.mem_cons_self)
    rw [List.flatMap_cons] at bounded ⊢
    have turned := turn_of_record given
    cases failure : (r.behind.write record).failure with
    | some f =>
      rw [failure] at writes turned
      refine ⟨_, run?_of_ends turned, .cut ?_ rfl ⟨.iterating left, left, session, rfl, mannered⟩⟩
      simpa [Run.after] using writes.stop _
    | none =>
      rw [failure] at writes turned
      -- what has been written did fit, so that the line that does not is still to come
      have further : supply = .goesOn →
          ¬ ∀ e ∈ records.flatMap (Record.entries r.modes), e.Fits r.elementBuffer := by
        intro endless all
        refine bounded endless fun e he => ?_
        rcases List.mem_append.mp he with he | he
        · exact writes.fits_iff.mp rfl e he
        · exact all e he
      have same : (r.beyond record).session.backendName = .ok name := by
        rw [Retrieval.beyond, session]
        exact named
      obtain ⟨run, done, drains⟩ := ih (undisturbed.beyond pull) same
        (fun record hr => printable record (List.mem_cons_of_mem _ hr)) further
      exact ⟨_, run?_of_goesOn turned done, drains.after rfl session writes⟩
  | @ends s left pull mannered =>
    obtain ⟨given, session, -⟩ := undisturbed.pulled pull
    have turned := r.turn_eq
    rw [given] at turned
    exact ⟨_, run?_of_ends turned,
      .exhausts rfl .done rfl ⟨.iterating left, left, session, rfl, mannered⟩⟩
  | @fails s left f pull own mannered =>
    obtain ⟨given, session, -⟩ := undisturbed.pulled pull
    simp only [Session.take, own, if_false] at given session
    have turned := r.turn_eq
    rw [given] at turned
    exact ⟨_, run?_of_ends turned,
      .fails rfl .done rfl (Session.pullFailure_kind named own)
        ⟨.failed (some left), left, session, rfl, mannered⟩⟩
  | goesOn s => exact absurd (by simp) (bounded rfl)

theorem length_le_handled {s : σ} {records : List Record} {supply : Supply}
    (delivers : Source.Delivers token s records supply) {r : Retrieval σ} {run : Run σ}
    (undisturbed : r.Undisturbed token s) (printable : ∀ record ∈ records, record.Printable)
    (fits : ∀ e ∈ records.flatMap (Record.entries r.modes), e.Fits r.elementBuffer)
    (done : r.run? = some run) : records.length ≤ run.handled.length := by
  induction delivers generalizing r run with
  | @gives s left record records supply pull mannered rest ih =>
    obtain ⟨given, -⟩ := undisturbed.pulled pull
    have writes := undisturbed.writes pull mannered (printable record List.mem_cons_self)
    rw [List.flatMap_cons] at fits
    have turned := turn_of_record given
    cases failure : (r.behind.write record).failure with
    | some f =>
      rw [failure] at writes
      cases writes.fits_iff.mpr fun e he => fits e (List.mem_append_left _ he)
    | none =>
      rw [failure] at turned
      rw [run?, turned] at done
      obtain ⟨last, further, same⟩ := Option.bind_eq_some_iff.mp done
      cases same
      have shorter := ih (undisturbed.beyond pull)
        (fun record hr => printable record (List.mem_cons_of_mem _ hr))
        (fun e he => fits e (List.mem_append_right _ he)) further
      simp only [Run.after, List.length_cons]
      omega
  | _ => exact Nat.zero_le _

theorem turn_session (r : Retrieval σ) :
    match r.turn with
    | .ends run => run.retrieval.session = r.pulled.session
    | .goesOn _ _ next => next.session = r.pulled.session := by
  have turns := r.turn_turns
  generalize r.turn = turn at turns
  cases turns <;> rfl

theorem run?_preserves {P : Session σ → Prop}
    (next : ∀ s tokens token interruption, P s → P (s.next tokens token interruption).session)
    {r : Retrieval σ} {run : Run σ} (h : r.run? = some run) (before : P r.session) :
    P run.retrieval.session := by
  obtain ⟨ws, last, ending, leads, ends, rfl⟩ := run?_eq_some_iff.mp h
  rw [Run.afterAll_retrieval]
  clear h
  induction leads with
  | here r =>
    have pulled := r.turn_session
    rw [ends] at pulled
    rw [pulled]
    exact next _ _ _ _ before
  | @step r log w further ws last turned rest ih =>
    have pulled := r.turn_session
    rw [turned] at pulled
    refine ih ?_ ends
    rw [pulled]
    exact next _ _ _ _ before

end Retrieval
end RouteFeed
