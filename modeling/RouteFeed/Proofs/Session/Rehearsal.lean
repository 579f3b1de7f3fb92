import RouteFeed.Proofs.Session.Drawing

/-! Rehearsals: a scripted source is obliging if its script is fair. -/
namespace RouteFeed

/-- An event that does not cancel its own pull, and whose record can be rendered. -/
structure ScriptEvent.Fair (modes : OutputModes) (size : Int) (e : ScriptEvent) : Prop where
  failure : ∀ f, e.failure = some f → f.kind ≠ .cancelled
  record : ∀ record, e.record = some record →
    record.Printable ∧ ∀ entry ∈ record.entries modes, entry.Fits size

namespace ScriptedSource

/-- A source that is opened without being cancelled, can be released, has the usual dump, passes over nothing and has a fair script. -/
structure Fair (modes : OutputModes) (size : Int) (s : ScriptedSource) : Prop where
  opening : ∀ f, s.openFailure = some f → f.kind ≠ .cancelled
  close : s.closeFailure = none
  dump : s.dumpLines = none
  unfiltered : s.filtered = false
  events : ∀ e ∈ s.events, e.Fair modes size

variable {modes : OutputModes} {size : Int} {s : ScriptedSource}

theorem every_announce {waits : ScriptedSource → Prop}
    {gives : Bool → PullAnswer → ScriptedSource → Prop} {late : Bool} {p : Pull ScriptedSource}
    (h : p.Every waits gives late) (notices : List Notice) :
    (announce notices p).Every waits gives late := by
  induction notices with
  | nil => exact h
  | cons n notices ih => exact ih

theorem interruptible_announce {p : Pull ScriptedSource} (h : p.Interruptible)
    (notices : List Notice) : (announce notices p).Interruptible := by
  induction notices with
  | nil => exact h
  | cons n notices ih => exact ih

theorem Fair.admits (h : s.Fair modes size) (record : Record) : s.admits record = true := by
  unfold ScriptedSource.admits
  cases s.config with
  | none => rfl
  | some config => simp [h.unfiltered]

theorem Fair.interrupted (h : s.Fair modes size) : s.interrupted.Fair modes size :=
  ⟨h.opening, h.close, h.dump, h.unfiltered, h.events⟩

theorem Fair.behind (h : s.Fair modes size) {rest : List ScriptEvent}
    (fair : ∀ e ∈ rest, e.Fair modes size) : Fair modes size { s with events := rest } :=
  ⟨h.opening, h.close, h.dump, h.unfiltered, fair⟩

theorem Fair.rendering (h : s.Fair modes size) {record : Record} (printable : record.Printable)
    (fits : ∀ entry ∈ record.entries modes, entry.Fits size) :
    ∃ lines, Source.rendering s modes size record = .ok lines := by
  refine ⟨_, Source.rendering_of_fits (fun record => ?_) printable fits⟩
  simp only [Source.dump, h.dump]

theorem Fair.givesNone (h : s.Fair modes size) (late : Bool) :
    Source.Gives (Fair modes size) modes size late (.ok none) s :=
  ⟨h, fun _ _ failed => (by cases failed), fun _ _ given => (by cases given)⟩

theorem Fair.givesFailure (h : s.Fair modes size) {late : Bool} {f : Failure}
    (own : late = false → f.kind ≠ .cancelled) :
    Source.Gives (Fair modes size) modes size late (.error f) s := by
  refine ⟨h, fun early _ failed => ?_, fun _ _ given => (by cases given)⟩
  cases failed
  exact own early

theorem Fair.handOver (h : s.Fair modes size) (late : Bool) {record : Record}
    (printable : record.Printable) (fits : ∀ entry ∈ record.entries modes, entry.Fits size) :
    (s.handOver late record).Every (Fair modes size) (Source.Gives (Fair modes size) modes size) late ∧
      (s.handOver late record).Ends := by
  have left : Fair modes size { s with handedLate := s.handedLate ++ [late] } :=
    ⟨h.opening, h.close, h.dump, h.unfiltered, h.events⟩
  refine ⟨⟨left, fun _ _ failed => (by cases failed), fun _ other given => ?_⟩, trivial⟩
  cases given
  exact left.rendering printable fits

/-- However a fair source takes being interrupted, its pull ends. -/
theorem Fair.reaction (h : s.Fair modes size) {e : ScriptEvent} (fair : e.Fair modes size)
    (rest : List ScriptEvent) :
    let p : Pull ScriptedSource :=
      match e.reaction with
      | .yields => .done (.error .cancelled) s.interrupted
      | .fails f => .done (.error f) s.interrupted
      | .ignores =>
        match e.record with
        | none => .done (.ok none) s.interrupted
        | some r =>
          if s.admits r then s.interrupted.handOver true r else play s.interrupted rest
    p.Every (Fair modes size) (Source.Gives (Fair modes size) modes size) true ∧ p.Ends := by
  cases e.reaction with
  | yields => exact ⟨h.interrupted.givesFailure nofun, trivial⟩
  | fails f => exact ⟨h.interrupted.givesFailure nofun, trivial⟩
  | ignores =>
    cases given : e.record with
    | none => exact ⟨h.interrupted.givesNone true, trivial⟩
    | some record =>
      obtain ⟨printable, fits⟩ := fair.record record given
      simp only [h.admits, if_true]
      exact h.interrupted.handOver true printable fits

theorem play_cons (s : ScriptedSource) (e : ScriptEvent) (rest : List ScriptEvent) :
    s.play (e :: rest) = announce e.notices (
      match e.failure with
      | some f => .done (.error f) { s with events := rest }
      | none =>
        if e.waits then
          .stall { s with events := rest } <|
            match e.reaction with
            | .yields => .done (.error .cancelled) (interrupted { s with events := rest })
            | .fails f => .done (.error f) (interrupted { s with events := rest })
            | .ignores =>
              match e.record with
              | none => .done (.ok none) (interrupted { s with events := rest })
              | some r =>
                if admits { s with events := rest } r then
                  handOver (interrupted { s with events := rest }) true r
                else play (interrupted { s with events := rest }) rest
        else
          match e.record with
          | none => play { s with events := rest } rest
          | some r =>
            if admits { s with events := rest } r then handOver { s with events := rest } false r
            else play { s with events := rest } rest) := rfl

theorem Fair.play (h : s.Fair modes size) {events : List ScriptEvent}
    (fair : ∀ e ∈ events, e.Fair modes size) :
    (s.play events).Every (Fair modes size) (Source.Gives (Fair modes size) modes size) false ∧
      (s.play events).Interruptible := by
  induction events generalizing s with
  | nil =>
    have left : Fair modes size { s with events := [] } := h.behind fun e he => (by cases he)
    have played : s.play [] =
        if s.endless && s.config.any StreamConfig.blocking then
          .stall { s with events := [] }
            (.done (.error .cancelled) (ScriptedSource.interrupted { s with events := [] }))
        else .done (.ok none) { s with events := [] } := rfl
    rw [played]
    split
    · exact ⟨⟨left, left.interrupted.givesFailure nofun⟩, trivial⟩
    · exact ⟨left.givesNone false, trivial⟩
  | cons e rest ih =>
    have left : Fair modes size { s with events := rest } :=
      h.behind fun e he => fair e (List.mem_cons_of_mem _ he)
    have event : e.Fair modes size := fair e List.mem_cons_self
    have later : ∀ e ∈ rest, e.Fair modes size := fun e he => fair e (List.mem_cons_of_mem _ he)
    rw [play_cons]
    have announced {p : Pull ScriptedSource}
        (hp : p.Every (Fair modes size) (Source.Gives (Fair modes size) modes size) false ∧
          p.Interruptible) :
        (announce e.notices p).Every (Fair modes size) (Source.Gives (Fair modes size) modes size)
          false ∧ (announce e.notices p).Interruptible :=
      ⟨every_announce hp.1 _, interruptible_announce hp.2 _⟩
    apply announced
    cases failure : e.failure with
    | some f => exact ⟨left.givesFailure fun _ => event.failure f failure, trivial⟩
    | none =>
      dsimp only
      cases e.waits with
      | true =>
        obtain ⟨every, ends⟩ := left.reaction event rest
        exact ⟨⟨left, every⟩, ends⟩
      | false =>
        cases given : e.record with
        | none => exact ih left later
        | some record =>
          obtain ⟨printable, fits⟩ := event.record record given
          obtain ⟨every, ends⟩ := left.handOver false printable fits
          simp only [left.admits, if_true, Bool.false_eq_true, if_false]
          exact ⟨every, trivial⟩

theorem obliging (modes : OutputModes) (size : Int) :
    Source.Obliging (Fair modes size) modes size where
  start s config h := by
    have configured : Fair modes size { s with config := some config } :=
      ⟨h.opening, h.close, h.dump, h.unfiltered, h.events⟩
    have opened : Fair modes size { s with config := some config, isOpen := true } :=
      ⟨h.opening, h.close, h.dump, h.unfiltered, h.events⟩
    change Fair modes size (match s.openFailure with
      | some f => { result := Except.error f, source := { s with config := some config } : Opening _ }
      | none =>
        { result := .ok (), source := { s with config := some config, isOpen := true } }).source
    split
    · exact configured
    · exact opened
  opening s config h f failed := by
    refine h.opening f ?_
    change (match s.openFailure with
      | some f => { result := Except.error f, source := { s with config := some config } : Opening _ }
      | none =>
        { result := .ok (), source := { s with config := some config, isOpen := true } }).result =
      _ at failed
    cases same : s.openFailure with
    | some g =>
      rw [same] at failed
      cases failed
      rfl
    | none =>
      rw [same] at failed
      cases failed
  pull s h := (h.play h.events).1
  interruptible s h := (h.play h.events).2
  close s h := by
    change (match s.closeFailure with
      | some f => (Except.error f, { s with closeCalls := s.closeCalls + 1, isOpen := false })
      | none => (Except.ok (), { s with closeCalls := s.closeCalls + 1, isOpen := false })).1 = _
    rw [h.close]

end ScriptedSource
end RouteFeed
