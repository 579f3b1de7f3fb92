import RouteFeed.Proofs.Interruption
import RouteFeed.Proofs.Session.Morphism
import RouteFeed.Source.Scripted

/-! What a source hands over, and what a session returns of it. A recording source keeps everything
that its pulls have come to; a session whose tasks are not cancelled returns the records of them once
and in order, except those that come after their pull has been interrupted. -/
namespace RouteFeed

variable {σ : Type}

/-- What a source hands over at the end of a pull, and what is left of it. -/
structure Handover (σ : Type) where
  answer : PullAnswer
  left : σ
  /-- The pull had been interrupted before. -/
  late : Bool

namespace Handover

def record? (h : Handover σ) : Option Record :=
  match h.answer with
  | .ok record => record
  | .error _ => none

def onTime? (h : Handover σ) : Option Record := if h.late then none else h.record?

theorem onTime?_of_late {h : Handover σ} (late : h.late = true) : h.onTime? = none := if_pos late

theorem onTime?_of_not_late {h : Handover σ} (late : h.late = false) : h.onTime? = h.record? := by
  simp [onTime?, late]

theorem onTime_sublist (hs : List (Handover σ)) :
    (hs.filterMap onTime?).Sublist (hs.filterMap record?) := by
  induction hs with
  | nil => exact List.Sublist.slnil
  | cons h hs ih =>
    cases late : h.late with
    | false =>
      rw [List.filterMap_cons, List.filterMap_cons, onTime?_of_not_late late]
      cases h.record? with
      | none => exact ih
      | some record => exact ih.cons_cons record
    | true =>
      rw [List.filterMap_cons_none (onTime?_of_late late), List.filterMap_cons]
      cases h.record? with
      | none => exact ih
      | some record => exact ih.cons record

theorem onTime_eq_iff (hs : List (Handover σ)) :
    hs.filterMap onTime? = hs.filterMap record? ↔
      ∀ h ∈ hs, h.late = true → h.record? = none := by
  induction hs with
  | nil => simp
  | cons h hs ih =>
    rw [List.forall_mem_cons, ← ih]
    cases late : h.late with
    | false =>
      rw [List.filterMap_cons, List.filterMap_cons, onTime?_of_not_late late]
      cases h.record? <;> simp
    | true =>
      rw [List.filterMap_cons_none (onTime?_of_late late), List.filterMap_cons]
      cases record : h.record? with
      | none => simp
      | some record =>
        -- the longer list would have to be as long as a sublist of its rest
        have shorter := (onTime_sublist hs).length_le
        constructor
        · intro same
          have lengths := congrArg List.length same
          rw [List.length_cons] at lengths
          omega
        · intro all
          cases all.1 rfl

end Handover

/-- A source with what it has handed over, the first handover first. -/
structure Recorded (σ : Type) where
  source : σ
  given : List (Handover σ) := []

namespace Pull

/-- A pull of a recorded source; the flag tells whether it has been interrupted before. -/
def recorded (given : List (Handover σ)) : Bool → Pull σ → Pull (Recorded σ)
  | late, done answer source => .done answer ⟨source, given ++ [⟨answer, source, late⟩]⟩
  | late, report entry next => .report entry (next.recorded given late)
  | late, notice n next => .notice n (next.recorded given late)
  | _, stall source interrupted => .stall ⟨source, given⟩ (interrupted.recorded given true)
  | late, pause source arrived interrupted =>
    .pause ⟨source, given⟩ (arrived.recorded given late) (interrupted.recorded given true)

theorem every_recorded {waits : Recorded σ → Prop}
    {gives : Bool → PullAnswer → Recorded σ → Prop} (given : List (Handover σ)) (late : Bool)
    (p : Pull σ) :
    Every waits gives late (p.recorded given late) ↔
      Every (fun source => waits ⟨source, given⟩)
        (fun late answer source => gives late answer ⟨source, given ++ [⟨answer, source, late⟩]⟩)
        late p := by
  induction p generalizing late with
  | done answer source => rfl
  | report entry next ih => exact ih late
  | notice n next ih => exact ih late
  | stall source interrupted ih => exact and_congr_right fun _ => ih true
  | pause source arrived interrupted arrives ih =>
    exact and_congr_right fun _ => and_congr (arrives late) (ih true)

theorem recorded_every (given : List (Handover σ)) (p : Pull σ) :
    Every (fun r => r.given = given)
      (fun late answer r => r.given = given ++ [⟨answer, r.source, late⟩]) false
      (p.recorded given false) :=
  (every_recorded given false p).mpr (every_of_forall (fun _ => rfl) (fun _ _ _ => rfl) false p)

theorem Ends.recorded {p : Pull σ} (h : p.Ends) (given : List (Handover σ)) (late : Bool) :
    (p.recorded given late).Ends := by
  induction p generalizing late with
  | done answer source => trivial
  | report entry next ih => exact ih h late
  | notice n next ih => exact ih h late
  | stall source interrupted ih => exact h
  | pause source arrived interrupted arrives ih => exact arrives h late

theorem Interruptible.recorded {p : Pull σ} (h : p.Interruptible) (given : List (Handover σ))
    (late : Bool) : (p.recorded given late).Interruptible := by
  induction p generalizing late with
  | done answer source => trivial
  | report entry next ih => exact ih h late
  | notice n next ih => exact ih h late
  | stall source interrupted ih => exact Ends.recorded h given true
  | pause source arrived interrupted arrives ih =>
    exact ⟨arrives h.1 late, Ends.recorded h.2 given true⟩

end Pull

instance [Source σ] : Source (Recorded σ) where
  start r config :=
    let opening := Source.start r.source config
    { result := opening.result, source := ⟨opening.source, r.given⟩, log := opening.log }
  pull r := (Source.pull r.source).recorded r.given false
  close r :=
    let closed := Source.close r.source
    (closed.1, ⟨closed.2, r.given⟩)
  dump r record := Source.dump r.source record
  aftermath r := Source.aftermath r.source

theorem Recorded.source_isImage [Source σ] :
    Source.IsImage (Recorded.source : Recorded σ → σ) where
  start _ _ := rfl
  close _ := rfl
  dump _ _ := rfl
  pull r := by
    change Source.pull r.source = ((Source.pull r.source).recorded r.given false).map source
    generalize Source.pull r.source = p
    generalize false = late
    induction p generalizing late with
    | done answer source => rfl
    | report entry next ih => exact congrArg (Pull.report entry) (ih late)
    | notice n next ih => exact congrArg (Pull.notice n) (ih late)
    | stall source interrupted ih => exact congrArg (Pull.stall source) (ih true)
    | pause source arrived interrupted arrives ih =>
      exact congr (congrArg (Pull.pause source) (arrives late)) (ih true)

def Registry.recorded (r : Registry σ) : Registry (Recorded σ) := r.map fun source => ⟨source, []⟩

def Outcome.record? : Outcome (Option Record) → Option Record
  | returned record => record
  | raised _ | blocked => none

/-- One call for the next record. The tokens are those at the moment of the call. -/
structure PullCall where
  tokens : Tokens := {}
  token : Option String := none
  /-- The token is fired while the pull waits. -/
  fires : Bool := false

namespace PullCall

def interruption (c : PullCall) : Option Interruption := if c.fires then some .token else none

theorem interruption_ne_task (c : PullCall) : c.interruption ≠ some .task := by
  unfold interruption
  split <;> exact nofun

end PullCall

namespace Session

def given (s : Session (Recorded σ)) : List (Handover σ) :=
  match s.phase.made? with
  | some r => r.given
  | none => []

theorem Reads.given {s : Session (Recorded σ)} {r : Recorded σ} (h : s.Reads r) :
    s.given = r.given := by
  rcases h with h | h <;> simp [Session.given, h, Phase.made?, Phase.live?]

inductive HandsOver (given : List (Handover σ)) (p : Pulled (Recorded σ)) : Prop
  | nothing (same : p.session.given = given) (none : p.outcome.record? = none)
  | one {h} (more : p.session.given = given ++ [h]) (returned : p.outcome.record? = h.onTime?)

theorem takeRun_handsOver (s : Session (Recorded σ)) {given : List (Handover σ)}
    {r : PullRun (Recorded σ)}
    (among : r.finish.Among (fun t => t.given = given)
      (fun late answer t => t.given = given ++ [⟨answer, t.source, late⟩])) :
    HandsOver given (s.takeRun r) := by
  cases s.takeRun_taken r with
  | returns finish outcome session =>
    rw [finish] at among
    exact .one (by rw [session]; exact among) (by rw [outcome]; rfl)
  | cancels finish _ outcome session =>
    rw [finish] at among
    exact .one (by rw [session]; exact among) (by rw [outcome]; rfl)
  | fails finish _ outcome session =>
    rcases finish with finish | finish
    · rw [finish] at among
      exact .one (by rw [session]; exact among) (by rw [outcome]; rfl)
    · rw [finish] at among
      exact .one (by rw [session]; exact among) (by rw [outcome]; rfl)
  | drops finish _ _ outcome session =>
    rw [finish] at among
    exact .one (by rw [session]; exact among) (by rw [outcome]; rfl)
  | loses finish _ _ outcome session =>
    rw [finish] at among
    exact .one (by rw [session]; exact among) (by rw [outcome]; rfl)
  | abandons finish outcome session =>
    rw [finish] at among
    rcases among with same | ⟨answer, more⟩
    · exact .nothing (by rw [session]; exact same) (by rw [outcome]; rfl)
    · exact .one (by rw [session]; exact more) (by rw [outcome]; rfl)
  | waits finish outcome session =>
    rw [finish] at among
    exact .nothing (by rw [session]; exact among) (by rw [outcome]; rfl)

variable [Source σ]

theorem next_handsOver (s : Session (Recorded σ)) (tokens : Tokens) (token : Option String)
    {interruption : Option Interruption} (kept : interruption ≠ some .task) :
    HandsOver s.given (s.next tokens token interruption) := by
  have nexts := s.next_nexts tokens token interruption
  generalize s.next tokens token interruption = p at nexts ⊢
  cases nexts with
  | refuses => exact .nothing rfl rfl
  | skips reads =>
    rw [reads.given]
    exact .nothing rfl rfl
  | @awaits r reads =>
    rw [reads.given]
    have every := Pull.recorded_every r.given (Source.pull r.source)
    exact s.takeRun_handsOver (Pull.await_among every kept tokens)
  | @races r name reads =>
    rw [reads.given]
    have every := Pull.recorded_every r.given (Source.pull r.source)
    exact s.takeRun_handsOver (Pull.race_among every name interruption tokens.settle)

/-- The outcomes of some calls one after another, and the session behind them. -/
def pulls {τ : Type} [Source τ] (s : Session τ) :
    List PullCall → List (Outcome (Option Record)) × Session τ
  | [] => ([], s)
  | c :: calls =>
    let p := s.next c.tokens c.token c.interruption
    let rest := p.session.pulls calls
    (p.outcome :: rest.1, rest.2)

theorem pulls_cons {τ : Type} [Source τ] (s : Session τ) (c : PullCall) (calls : List PullCall) :
    s.pulls (c :: calls) =
      ((s.next c.tokens c.token c.interruption).outcome ::
        ((s.next c.tokens c.token c.interruption).session.pulls calls).1,
        ((s.next c.tokens c.token c.interruption).session.pulls calls).2) := rfl

theorem pulls_onTime (s : Session (Recorded σ)) (calls : List PullCall) :
    ∃ more, (s.pulls calls).2.given = s.given ++ more ∧
      (s.pulls calls).1.filterMap Outcome.record? = more.filterMap Handover.onTime? := by
  induction calls generalizing s with
  | nil => exact ⟨[], (List.append_nil _).symm, rfl⟩
  | cons c calls ih =>
    obtain ⟨more, given, returned⟩ := ih (s.next c.tokens c.token c.interruption).session
    rw [pulls_cons]
    cases s.next_handsOver c.tokens c.token c.interruption_ne_task with
    | nothing same none =>
      refine ⟨more, given.trans (by rw [same]), ?_⟩
      rw [List.filterMap_cons_none none]
      exact returned
    | @one h added first =>
      refine ⟨h :: more, given.trans (by rw [added, List.append_assoc]; rfl), ?_⟩
      rw [List.filterMap_cons, List.filterMap_cons, first, returned]

theorem pulls_recorded (s : Session (Recorded σ)) (calls : List PullCall) :
    ((s.map Recorded.source).pulls calls).1 = (s.pulls calls).1 := by
  induction calls generalizing s with
  | nil => rfl
  | cons c calls ih =>
    rw [pulls_cons, pulls_cons, next_map s Recorded.source_isImage]
    exact congrArg _ (ih _)

/-- Whichever tokens are fired, and whenever: a session returns the records that its source hands over,
each once and in order, except those that come after their pull has been interrupted. Nothing is lost
exactly if no record comes so late. -/
theorem pulls_return_records_on_time (s : Session (Recorded σ)) (calls : List PullCall) :
    let returned := ((s.map Recorded.source).pulls calls).1.filterMap Outcome.record?
    ∃ more, (s.pulls calls).2.given = s.given ++ more ∧
      returned = more.filterMap Handover.onTime? ∧
      (returned = more.filterMap Handover.record? ↔
        ∀ h ∈ more, h.late = true → h.record? = none) := by
  intro returned
  obtain ⟨more, given, onTime⟩ := s.pulls_onTime calls
  have same : returned = more.filterMap Handover.onTime? :=
    (congrArg (List.filterMap Outcome.record?) (s.pulls_recorded calls)).trans onTime
  exact ⟨more, given, same, by rw [same]; exact Handover.onTime_eq_iff more⟩

/-- A record that a source gives although its pull has been interrupted. -/
def lateRecord : Record where
  time := 1
  project := "p"
  collector := "c"
  dumpType := .update
  dumpPosition := .middle
  status := .valid
  dumpTime := 1

/-- A session with a source that waits, and goes on when it is interrupted. -/
def unmoved : Session (Recorded ScriptedSource) where
  registry := Registry.recorded (Registry.add {} "unmoved" "" (.ok
    { events := [{ waits := true, reaction := .ignores, record := some lateRecord }] }))
  backend := 1

/-- The token is fired while the source waits; its record is returned neither then nor later. -/
theorem late_record_lost :
    let s := (unmoved.start { windows := [⟨0, 9⟩] } false).session
    let run := s.pulls [{ token := some "t", fires := true }, {}]
    run.2.given.filterMap Handover.record? = [lateRecord] ∧
      run.1 = [.returned none, .returned none] :=
  ⟨rfl, rfl⟩

end Session
end RouteFeed
