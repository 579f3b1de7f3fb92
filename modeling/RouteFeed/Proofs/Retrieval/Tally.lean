import RouteFeed.Proofs.Retrieval.Buffers

/-! The counters of a retrieval, against what each of its runs has done: which records it was given, and
which lines it wrote of them. Nothing sets the counters back when a run begins. -/
namespace RouteFeed

inductive Part where
  | record
  | dump
  | element
  deriving DecidableEq

/-- A record as the session gave it, with the lines that were written of it. -/
structure Handling where
  record : Record
  written : List (Part × String)
  /-- Its own line did not fail. -/
  begun : Bool

namespace RetrievalStats

/-- How much was done: the records, those of them that were valid, and the lines of elements. A record
whose own line fails is not looked at any further. -/
def tally (handled : List Handling) : RetrievalStats where
  records := handled.length
  validRecords := handled.countP fun h => h.begun && h.record.isValid
  elements := (handled.flatMap Handling.written).countP fun line => line.1 = .element

def plus (a b : RetrievalStats) : RetrievalStats where
  records := a.records + b.records
  validRecords := a.validRecords + b.validRecords
  elements := a.elements + b.elements

theorem plus_assoc (a b c : RetrievalStats) : (a.plus b).plus c = a.plus (b.plus c) := by
  simp only [plus, Nat.add_assoc]

@[simp] theorem tally_nil : tally [] = {} := rfl

theorem tally_append (handled more : List Handling) :
    tally (handled ++ more) = (tally handled).plus (tally more) := by
  simp only [tally, plus, List.length_append, List.countP_append, List.flatMap_append]

/-- Something has been counted as soon as a record was given. -/
theorem plus_eq_right_iff (handled : List Handling) (b : RetrievalStats) :
    (tally handled).plus b = b ↔ handled = [] := by
  constructor
  · intro same
    have records : handled.length + b.records = b.records := congrArg RetrievalStats.records same
    exact List.length_eq_zero_iff.mp (by omega)
  · rintro rfl
    simp only [tally_nil, plus, Nat.zero_add]

end RetrievalStats

namespace Retrieval

variable {σ : Type}

open RetrievalStats

theorem elements_writeListed (r : Retrieval σ) (record : Record) :
    (r.writeListed record).elements = (r.writeListed record).lines.length := by
  unfold writeListed
  split
  · unfold writeElements
    split
    · rfl
    · rfl
  · rfl

theorem valid_writeListed (r : Retrieval σ) (record : Record) :
    (r.writeListed record).valid = true := by
  unfold writeListed
  split
  · unfold writeElements
    split
    · rfl
    · rfl
  · rfl

variable [Source σ]

/-- The lines that are written of a record behind its own, each with what it belongs to. -/
def sortedBody (r : Retrieval σ) (record : Record) : List (Part × String) :=
  if record.isValid then
    match r.writeDump record with
    | (dump, some _, _) => dump.map (Part.dump, ·)
    | (dump, none, left) =>
      dump.map (Part.dump, ·) ++ (r.writeListed left).lines.map (Part.element, ·)
  else []

/-- The lines that are written of a record, each with what it belongs to. -/
def sorted (r : Retrieval σ) (record : Record) : List (Part × String) :=
  match r.writeHead record with
  | .error _ => []
  | .ok head => head.map (Part.record, ·) ++ r.sortedBody record

theorem sortedBody_write (r : Retrieval σ) (record : Record) :
    (r.sortedBody record).map Prod.snd = (r.writeBody record).lines ∧
      (r.sortedBody record).countP (fun line => line.1 = .element) =
        (r.writeBody record).elements := by
  unfold sortedBody writeBody
  cases record.isValid with
  | false => exact ⟨rfl, rfl⟩
  | true =>
    simp only [if_true]
    rcases done : r.writeDump record with ⟨dump, failure, left⟩
    cases failure with
    | some f =>
      rw [writeValid_of_error done]
      simp [Function.comp_def]
    | none =>
      rw [writeValid_of_ok done]
      simp [elements_writeListed, Function.comp_def]

theorem sorted_write (r : Retrieval σ) (record : Record) :
    (r.sorted record).map Prod.snd = (r.write record).lines ∧
      (r.sorted record).countP (fun line => line.1 = .element) = (r.write record).elements := by
  unfold sorted
  cases written : r.writeHead record with
  | error f =>
    rw [write_of_error written]
    exact ⟨rfl, rfl⟩
  | ok head =>
    obtain ⟨lines, elements⟩ := r.sortedBody_write record
    rw [write_of_ok written]
    simp [Function.comp_def, lines, elements]

theorem no_elements_sorted {r : Retrieval σ} (off : r.modes.elements = false) (record : Record) :
    (r.sorted record).countP (fun line => line.1 = .element) = 0 := by
  have listed (left : Record) : (r.writeListed left).lines = [] := by
    simp only [writeListed, off, Bool.false_eq_true, if_false]
  have body : (r.sortedBody record).countP (fun line => line.1 = .element) = 0 := by
    unfold sortedBody
    split
    · split
      · simp
      · simp [listed]
    · rfl
  unfold sorted
  split
  · rfl
  · simp [body]

def handling (r : Retrieval σ) (record : Record) : Handling :=
  ⟨record, r.sorted record, (r.writeHead record).isOk⟩

theorem valid_write (r : Retrieval σ) (record : Record) :
    (r.write record).valid = ((r.writeHead record).isOk && record.isValid) := by
  cases written : r.writeHead record with
  | error f =>
    rw [write_of_error written]
    rfl
  | ok head =>
    rw [write_of_ok written, writeBody]
    cases record.isValid with
    | false => rfl
    | true =>
      simp only [if_true]
      rcases done : r.writeDump record with ⟨dump, failure, left⟩
      cases failure with
      | some f =>
        rw [writeValid_of_error done]
        rfl
      | none =>
        rw [writeValid_of_ok done]
        exact valid_writeListed r left

theorem count_write (stats : RetrievalStats) (r : Retrieval σ) (record : Record) :
    count stats (r.write record) = stats.plus (tally [r.handling record]) := by
  simp [count, plus, tally, handling, (r.sorted_write record).2, valid_write,
    List.countP_singleton]

theorem begun_of_whole {r : Retrieval σ} {record : Record}
    (whole : (r.write record).failure = none) : (r.handling record).begun = true := by
  change (r.writeHead record).isOk = true
  cases written : r.writeHead record with
  | error f => simp [write_of_error written] at whole
  | ok head => rfl

inductive Handles : Retrieval σ → List Handling → Run σ → Prop
  | ends {r run} (turned : r.turn = .ends run)
    (nothing : ∀ record, r.pulled.outcome ≠ .returned (some record)) : Handles r [] run
  | breaks {r run record} (turned : r.turn = .ends run)
    (given : r.pulled.outcome = .returned (some record)) :
    Handles r [r.behind.handling record] run
  | goesOn {r log w next record handled run} (turned : r.turn = .goesOn log w next)
    (given : r.pulled.outcome = .returned (some record)) (rest : Handles next handled run) :
    Handles r (r.behind.handling record :: handled) (run.after log w)

theorem exists_handles {r : Retrieval σ} {run : Run σ} (done : r.run? = some run) :
    ∃ handled, r.Handles handled run := by
  obtain ⟨ws, last, ending, chain, ended, rfl⟩ := run?_eq_some_iff.mp done
  clear done
  induction chain with
  | here r =>
    by_cases given : ∃ record, r.pulled.outcome = .returned (some record)
    · obtain ⟨record, given⟩ := given
      exact ⟨_, .breaks ended given⟩
    · exact ⟨[], .ends ended fun record outcome => given ⟨record, outcome⟩⟩
  | @step r log w next ws last turned rest ih =>
    obtain ⟨handled, handles⟩ := ih ended
    have turns := r.turn_turns
    rw [turned] at turns
    cases turns with
    | goesOn outcome whole => exact ⟨_, .goesOn turned outcome handles⟩

structure Accounts (r : Retrieval σ) (handled : List Handling) (run : Run σ) : Prop where
  /-- The lines of the run are those of its records, in order. -/
  lines : run.lines = (handled.flatMap Handling.written).map Prod.snd
  records : run.handled.length = handled.length
  /-- Without the mode of elements no line of an element is written. -/
  elements : r.modes.elements = false → (tally handled).elements = 0
  /-- A run that returns has written all records that are to have a line. -/
  begun : run.outcome = .returned () → ∀ h ∈ handled, h.begun = true
  /-- The counters go on from where they stood. -/
  stats : run.retrieval.stats = r.stats.plus (tally handled)

theorem Handles.accounts {r : Retrieval σ} {handled : List Handling} {run : Run σ}
    (h : r.Handles handled run) : r.Accounts handled run := by
  induction h with
  | @ends r run turned nothing =>
    have turns := r.turn_turns
    rw [turned] at turns
    cases turns with
    | waits | fails | finishes =>
      exact ⟨rfl, rfl, fun _ => rfl, fun _ h member => absurd member List.not_mem_nil, rfl⟩
    | breaks outcome => exact absurd outcome (nothing _)
  | @breaks r run record turned given =>
    have turns := r.turn_turns
    rw [turned] at turns
    cases turns with
    | waits outcome | fails outcome | finishes outcome => cases given.symm.trans outcome
    | breaks outcome failure =>
      cases given.symm.trans outcome
      refine ⟨?_, rfl, fun off => ?_, fun returned => ?_, count_write _ _ _⟩
      · simp [Run.after, handling, (r.behind.sorted_write record).1]
      · simp [tally, handling, no_elements_sorted (r := r.behind) off]
      · rw [Run.after] at returned
        cases returned
  | @goesOn r log w next record handled run turned given rest ih =>
    have turns := r.turn_turns
    rw [turned] at turns
    cases turns with
    | goesOn outcome whole =>
      cases given.symm.trans outcome
      refine ⟨?_, congrArg (· + 1) ih.records, fun off => ?_, fun returned => ?_, ?_⟩
      · simp [Run.after, handling, (r.behind.sorted_write record).1, ih.lines]
      · have later := ih.elements off
        simp only [tally] at later
        simp [tally, handling, no_elements_sorted (r := r.behind) off, later]
      · exact List.forall_mem_cons.mpr ⟨begun_of_whole whole, ih.begun returned⟩
      · rw [← List.singleton_append, tally_append, ← plus_assoc]
        exact ih.stats.trans (congrArg (RetrievalStats.plus · _) (count_write _ _ _))

/-- Runs one after another, from some counters. Between two runs nothing changes the counters, whatever
else may happen to the retrieval. -/
def Successive : RetrievalStats → List (Retrieval σ × Run σ) → Prop
  | _, [] => True
  | stats, (r, run) :: rest =>
    r.stats = stats ∧ r.run? = some run ∧ Successive run.retrieval.stats rest

theorem Successive.behind {stats : RetrievalStats} {before after : List (Retrieval σ × Run σ)}
    (runs : Successive stats (before ++ after)) :
    ∃ earlier, Successive (stats.plus (tally earlier)) after ∧
      (earlier = [] ↔ ∀ run ∈ before, run.2.handled = []) := by
  induction before generalizing stats with
  | nil => exact ⟨[], runs, by simp⟩
  | cons first before ih =>
    obtain ⟨r, run⟩ := first
    obtain ⟨same, done, rest⟩ := runs
    obtain ⟨handled, handles⟩ := exists_handles done
    have accounts := handles.accounts
    obtain ⟨earlier, later, none⟩ := ih rest
    refine ⟨handled ++ earlier, ?_, ?_⟩
    · rw [tally_append, ← plus_assoc, ← same, ← accounts.stats]
      exact later
    · have empty : handled = [] ↔ run.handled = [] := by
        rw [← List.length_eq_zero_iff, ← accounts.records, List.length_eq_zero_iff]
      rw [List.append_eq_nil_iff, List.forall_mem_cons, none, empty]

/-- The counters that a run of a new retrieval comes to are those of what it has been given and has
written exactly if no run before it has been given a record, however those runs ended. -/
theorem stats_of_run_iff {before after : List (Retrieval σ × Run σ)} {r : Retrieval σ} {run : Run σ}
    (runs : Successive {} (before ++ (r, run) :: after)) :
    ∃ handled, r.Handles handled run ∧
      run.lines = (handled.flatMap Handling.written).map Prod.snd ∧
      run.handled.length = handled.length ∧
      (r.modes.elements = false → (tally handled).elements = 0) ∧
      (run.outcome = .returned () → ∀ h ∈ handled, h.begun = true) ∧
      (run.retrieval.stats = tally handled ↔ ∀ earlier ∈ before, earlier.2.handled = []) := by
  obtain ⟨earlier, ⟨same, done, _⟩, none⟩ := runs.behind
  obtain ⟨handled, handles⟩ := exists_handles done
  obtain ⟨lines, records, elements, begun, stats⟩ := handles.accounts
  refine ⟨handled, handles, lines, records, elements, begun, ?_⟩
  have start : RetrievalStats.plus {} (tally earlier) = tally earlier := by
    simp only [plus, Nat.zero_add]
  rw [stats, same, start, plus_eq_right_iff]
  exact none

def calledOff : Retrieval ScriptedSource :=
  { lone uneven { elements := true } 65536 with token := some "t", tokens := { fired := ["t"] } }

/-- The same, when it is run again without a token. -/
def resumed : Retrieval ScriptedSource := { calledOff.behind with token := none }

theorem stats_of_run_iff_resumed :
    ∃ first second, Successive {} [(calledOff, first), (resumed, second)] ∧
      first.handled = [] ∧ second.retrieval.stats = ⟨1, 1, 2⟩ ∧
      ∃ handled, second.retrieval.stats = tally handled ∧
        second.lines = (handled.flatMap Handling.written).map Prod.snd := by
  obtain ⟨first, called, nothing, kept⟩ : ∃ run, calledOff.run? = some run ∧ run.handled = [] ∧
      run.retrieval.stats = {} := ⟨_, run?_of_ends rfl, rfl, rfl⟩
  obtain ⟨second, done, stats⟩ : ∃ run, resumed.run? = some run ∧
      run.retrieval.stats = ⟨1, 1, 2⟩ :=
    ⟨_, run?_of_goesOn (by rfl) (run?_of_ends (by rfl)), by rfl⟩
  have runs : Successive {} [(calledOff, first), (resumed, second)] :=
    ⟨rfl, called, kept.symm, done, trivial⟩
  obtain ⟨handled, handles, lines, records, elements, begun, counted⟩ :=
    @stats_of_run_iff _ _ [(calledOff, first)] [] resumed second runs
  exact ⟨first, second, runs, nothing, stats, handled,
    counted.mpr (List.forall_mem_singleton.mpr nothing), lines⟩

/-- A run that gives nothing, behind one that was broken off, still counts the record of that one. -/
theorem broken_run_still_counted :
    ∃ first second, (lone uneven { elements := true } 16).run? = some first ∧
      (∃ f, first.outcome = .raised f) ∧ first.retrieval.run? = some second ∧
      second.outcome = .returned () ∧ second.handled = [] ∧
      second.retrieval.stats = ⟨1, 1, 1⟩ :=
  ⟨_, _, run?_of_ends rfl, ⟨_, rfl⟩, run?_of_ends rfl, rfl, rfl, rfl⟩

end Retrieval
end RouteFeed
