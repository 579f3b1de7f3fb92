import Mathlib.Data.List.TakeWhile
import RouteFeed.Proofs.Retrieval.Fitting
import RouteFeed.Proofs.Retrieval.Turns
import RouteFeed.Proofs.Retrieval.Writing
import RouteFeed.Proofs.Session.Openings

/-! What a retrieval owes, whatever its buffer: the lines of the records that it is given, up to the
first thing that fails. The size of the buffer decides no more than how much of them is paid. -/
namespace RouteFeed

def Outcome.ofFailure : Option Failure → Outcome Unit
  | none => .returned ()
  | some f => .raised f

/-- A line that is owed: one that is always written, or the whole line of an element. -/
inductive Due where
  | plain (text : String)
  | element (text : String)

namespace Due

def text : Due → String
  | plain text | element text => text

/-- Only the line of an element has to fit the buffer, with its terminator. -/
def Fits (size : Int) : Due → Prop
  | plain _ => True
  | element text => (Text.byteCount text.toList : Int) ≤ size - 1

instance (size : Int) : DecidablePred (Fits size)
  | plain _ => inferInstanceAs (Decidable True)
  | element text => inferInstanceAs (Decidable ((Text.byteCount text.toList : Int) ≤ size - 1))

theorem Fits.mono {small large : Int} (le : small ≤ large) {due : Due} (fits : due.Fits small) :
    due.Fits large := by
  cases due with
  | plain text => trivial
  | element text =>
    unfold Fits at fits ⊢
    omega

def failure (size : Int) (due : Due) : Failure :=
  .elementTooLong (String.ofList (Text.takeBytes (size - 1).toNat due.text.toList))

end Due

namespace Element

variable {e : Element} {size : Int} {text : String}

theorem line_of_error {f : Failure} (full : e.fullLine = .error f) : e.line size = .error f := by
  rw [line, full]
  rfl

theorem line_of_fits (full : e.fullLine = .ok text) (fits : (Due.element text).Fits size) :
    e.line size = .ok text := by
  rw [line, full]
  exact if_pos fits

theorem line_of_long (full : e.fullLine = .ok text) (long : ¬ (Due.element text).Fits size) :
    e.line size = .error ((Due.element text).failure size) := by
  rw [line, full]
  exact fitLine_of_long (Int.not_le.mp long)

end Element

def Entry.due : Entry → Due
  | line text => .plain text
  | element e => .element e.text

/-- Lines that are owed one after another, and what comes behind them. -/
structure Dues where
  lines : List Due := []
  ending : Outcome Unit := .returned ()

namespace Dues

def after (texts : List String) (d : Dues) : Dues := { d with lines := texts.map .plain ++ d.lines }

/-- What is owed behind other lines, if nothing ends with them. -/
def andThen (d rest : Dues) : Dues :=
  match d.ending with
  | .returned () => ⟨d.lines ++ rest.lines, rest.ending⟩
  | _ => d

/-- What a buffer of a size lets through: the lines up to the first that does not fit. -/
def paid (size : Int) (d : Dues) : List String :=
  (d.lines.takeWhile fun due => due.Fits size).map Due.text

def outcome (size : Int) (d : Dues) : Outcome Unit :=
  match d.lines.find? fun due => ¬ due.Fits size with
  | some due => .raised (due.failure size)
  | none => d.ending

variable {size : Int} {d : Dues}

/-- Lines that fit are paid, whatever comes behind them. -/
theorem paid_append {first : List Due} (fits : ∀ due ∈ first, due.Fits size) (more : List Due)
    (ending : Outcome Unit) :
    (⟨first ++ more, ending⟩ : Dues).paid size = first.map Due.text ++ paid size ⟨more, ending⟩ ∧
      (⟨first ++ more, ending⟩ : Dues).outcome size = outcome size ⟨more, ending⟩ := by
  have none : first.find? (fun due => ¬ due.Fits size) = none :=
    List.find?_eq_none.mpr (by simpa using fits)
  unfold paid outcome
  rw [List.takeWhile_append_of_pos (by simpa using fits), List.map_append, List.find?_append, none,
    Option.none_or]
  exact ⟨rfl, rfl⟩

theorem paid_of_fits (fits : ∀ due ∈ d.lines, due.Fits size) :
    d.paid size = d.lines.map Due.text ∧ d.outcome size = d.ending := by
  obtain ⟨paid, outcome⟩ := paid_append fits [] d.ending
  rw [List.append_nil] at paid outcome
  exact ⟨paid.trans (List.append_nil _), outcome⟩

/-- Behind a line that does not fit nothing is paid. -/
theorem paid_of_long {due : Due} (long : ¬ due.Fits size) (more : List Due)
    (ending : Outcome Unit) :
    paid size ⟨due :: more, ending⟩ = [] ∧
      outcome size ⟨due :: more, ending⟩ = .raised (due.failure size) := by
  simp [paid, outcome, long]

theorem paid_of_first {before after : List Due} {due : Due}
    (lines : d.lines = before ++ due :: after) (fits : ∀ due ∈ before, due.Fits size)
    (long : ¬ due.Fits size) :
    d.paid size = before.map Due.text ∧ d.outcome size = .raised (due.failure size) := by
  obtain ⟨paid, outcome⟩ := paid_append fits (due :: after) d.ending
  obtain ⟨nothing, cut⟩ := paid_of_long long after d.ending
  rw [← lines] at paid outcome
  rw [nothing, List.append_nil] at paid
  exact ⟨paid, outcome.trans cut⟩

theorem fits_or_first (size : Int) (d : Dues) :
    (∀ due ∈ d.lines, due.Fits size) ∨ ∃ before due after, d.lines = before ++ due :: after ∧
      (∀ due ∈ before, due.Fits size) ∧ ¬ due.Fits size := by
  cases found : d.lines.find? fun due => ¬ due.Fits size with
  | none => exact .inl (by simpa using found)
  | some due =>
    obtain ⟨long, before, after, lines, fits⟩ := List.find?_eq_some_iff_append.mp found
    exact .inr ⟨before, due, after, lines, by simpa using fits, by simpa using long⟩

theorem paid_mono {small large : Int} (le : small ≤ large) (d : Dues) :
    d.paid small <+: d.paid large := by
  have both : d.lines.takeWhile (fun due => due.Fits small) =
      (d.lines.takeWhile fun due => due.Fits large).takeWhile fun due => due.Fits small := by
    rw [List.takeWhile_takeWhile]
    congr 1
    funext due
    simpa using fun fits => Due.Fits.mono le fits
  unfold paid
  rw [both]
  exact (List.takeWhile_prefix _).map _

/-- What has been written, and what has failed, pays the dues as far as the buffer lets it. -/
def Paid (d : Dues) (size : Int) (lines : List String) (failure : Option Failure) : Prop :=
  lines = d.paid size ∧ Outcome.ofFailure failure = d.outcome size

theorem paid_nothing : ({} : Dues).Paid size [] none := ⟨rfl, rfl⟩

theorem Paid.after {lines : List String} {failure : Option Failure}
    (paid : d.Paid size lines failure) (texts : List String) :
    (d.after texts).Paid size (texts ++ lines) failure := by
  obtain ⟨rfl, outcome⟩ := paid
  have plain : ∀ due ∈ texts.map Due.plain, due.Fits size := by
    intro due member
    obtain ⟨text, _, rfl⟩ := List.mem_map.mp member
    trivial
  obtain ⟨both, ending⟩ := paid_append plain d.lines d.ending
  refine ⟨?_, outcome.trans ending.symm⟩
  rw [List.map_map] at both
  exact (both.trans (congrArg (· ++ _) (List.map_id texts))).symm

theorem fits_of_returned (returned : d.outcome size = .returned ()) :
    (∀ due ∈ d.lines, due.Fits size) ∧ d.ending = .returned () := by
  rcases d.fits_or_first size with fits | ⟨before, due, after, lines, fits, long⟩
  · exact ⟨fits, (paid_of_fits fits).2.symm.trans returned⟩
  · rw [(paid_of_first lines fits long).2] at returned
    cases returned

theorem paid_failure (f : Failure) : ({ ending := .raised f } : Dues).Paid size [] (some f) :=
  ⟨rfl, rfl⟩

theorem andThen_of_ending (ending : d.ending = .returned ()) (rest : Dues) :
    d.andThen rest = ⟨d.lines ++ rest.lines, rest.ending⟩ := by
  rw [andThen, ending]

theorem mem_andThen {due : Due} (member : due ∈ d.lines) (rest : Dues) :
    due ∈ (d.andThen rest).lines := by
  unfold andThen
  split
  · exact List.mem_append_left _ member
  · exact member

/-- If the first dues are paid without a failure, the others are paid behind them. -/
theorem andThen_of_returned (returned : d.outcome size = .returned ()) (rest : Dues) :
    (d.andThen rest).paid size = d.paid size ++ rest.paid size ∧
      (d.andThen rest).outcome size = rest.outcome size := by
  obtain ⟨fits, ending⟩ := fits_of_returned returned
  rw [andThen_of_ending ending, (paid_of_fits fits).1]
  exact paid_append fits rest.lines rest.ending

theorem andThen_of_stop (stop : d.outcome size ≠ .returned ()) (rest : Dues) :
    (d.andThen rest).paid size = d.paid size ∧
      (d.andThen rest).outcome size = d.outcome size := by
  unfold andThen
  split
  · rename_i ending
    rcases d.fits_or_first size with fits | ⟨before, due, after, lines, fits, long⟩
    · exact absurd ((paid_of_fits fits).2.trans ending) stop
    · obtain ⟨whole, cut⟩ := paid_of_first lines fits long
      have more : (⟨d.lines ++ rest.lines, rest.ending⟩ : Dues).lines =
          before ++ due :: (after ++ rest.lines) := by simp [lines]
      obtain ⟨whole', cut'⟩ := paid_of_first more fits long
      exact ⟨whole'.trans whole.symm, cut'.trans cut.symm⟩
  · exact ⟨rfl, rfl⟩

theorem Paid.breaking {lines : List String} {failure : Option Failure}
    (paid : d.Paid size lines failure) (f : Failure) :
    (d.andThen { ending := .raised f }).Paid size lines (failure.or (some f)) := by
  obtain ⟨rfl, outcome⟩ := paid
  cases failure with
  | none =>
    obtain ⟨lines, ending⟩ := andThen_of_returned outcome.symm { ending := .raised f }
    exact ⟨(lines.trans (List.append_nil _)).symm, ending.symm⟩
  | some g =>
    have stop : d.outcome size ≠ .returned () := by
      rw [← outcome]
      exact nofun
    obtain ⟨lines, ending⟩ := andThen_of_stop stop { ending := .raised f }
    exact ⟨lines.symm, outcome.trans ending.symm⟩

end Dues

/-- The lines of elements as a rendering of them without a buffer gives them. -/
def Rendering.dues (done : Rendering String) : Dues :=
  ⟨done.lines.map .element, .ofFailure done.failure⟩

theorem Rendering.dues_breaking (done : Rendering String) (f : Failure) :
    (done.breaking f).dues = done.dues.andThen { ending := .raised f } := by
  obtain ⟨lines, failure, rest⟩ := done
  cases failure with
  | none => exact congrArg (Dues.mk · _) (List.append_nil _).symm
  | some g => rfl

theorem Rendering.of_line_paid (size : Int) (es : List Element) :
    (Rendering.of Element.fullLine es).dues.Paid size (Rendering.of (Element.line size) es).lines
      (Rendering.of (Element.line size) es).failure := by
  induction es with
  | nil => exact ⟨rfl, rfl⟩
  | cons e es ih =>
    obtain ⟨paid, outcome⟩ := ih
    let rest := (Rendering.of Element.fullLine es).dues
    cases full : e.fullLine with
    | error f =>
      rw [Rendering.of, Rendering.of, full, Element.line_of_error full]
      exact ⟨rfl, rfl⟩
    | ok text =>
      by_cases fits : (Due.element text).Fits size
      · obtain ⟨all, ending⟩ :=
          Dues.paid_append (List.forall_mem_singleton.mpr fits) rest.lines rest.ending
        rw [Rendering.of, Rendering.of, full, Element.line_of_fits full fits]
        exact ⟨(congrArg (text :: ·) paid).trans all.symm, outcome.trans ending.symm⟩
      · obtain ⟨nothing, cut⟩ := Dues.paid_of_long fits rest.lines rest.ending
        rw [Rendering.of, Rendering.of, full, Element.line_of_long full fits]
        exact ⟨nothing.symm, cut.symm⟩

/-- With whole lines that all fit a buffer, it makes no difference. -/
theorem Rendering.of_line_of_fits {size : Int} {es : List Element}
    (fits : ∀ due ∈ (Rendering.of Element.fullLine es).dues.lines, due.Fits size) :
    Rendering.of (Element.line size) es = Rendering.of Element.fullLine es := by
  induction es with
  | nil => rfl
  | cons e es ih =>
    rw [Rendering.of] at fits
    cases full : e.fullLine with
    | error f => rw [Rendering.of, Rendering.of, full, Element.line_of_error full]
    | ok text =>
      rw [full] at fits
      obtain ⟨first, others⟩ := List.forall_mem_cons.mp fits
      rw [Rendering.of, Rendering.of, full, Element.line_of_fits full first, ih others]

namespace Record

/-- What a record owes in elements: the lines of those that a new cursor on it yields. -/
def elementDues (r : Record) : Dues := (r.render Element.fullLine).1.dues

theorem elementDues_paid (size : Int) (r : Record) :
    r.elementDues.Paid size (r.render (Element.line size)).1.lines
      (r.render (Element.line size)).1.failure := by
  unfold elementDues Record.render
  generalize r.openCursor = opened
  obtain ⟨cursor, left⟩ := opened
  cases cursor with
  | error f => exact ⟨rfl, rfl⟩
  | ok cursor =>
    cases cursor with
    | onFeed => exact Rendering.of_line_paid size left.feed
    | walking rest => exact Rendering.of_line_paid size (upToGap rest)
    | breaking rest failure =>
      change ((Rendering.of Element.fullLine rest).breaking failure).dues.Paid size _ _
      rw [Rendering.dues_breaking]
      exact (Rendering.of_line_paid size rest).breaking failure
    | finished => exact ⟨rfl, rfl⟩

end Record

namespace Retrieval

variable {σ : Type} [Source σ]

/-- What a record owes behind its own line: if it is valid, the lines of its dump and of the elements
that the dump leaves. -/
def bodyDues (r : Retrieval σ) (record : Record) : Dues :=
  if record.isValid then
    match r.writeDump record with
    | (dump, some f, _) => ({ ending := .raised f } : Dues).after dump
    | (dump, none, left) => (if r.modes.elements then left.elementDues else {}).after dump
  else {}

/-- What a record owes: its line and its body. -/
def dues (r : Retrieval σ) (record : Record) : Dues :=
  match r.writeHead record with
  | .error f => { ending := .raised f }
  | .ok head => (r.bodyDues record).after head

theorem bodyDues_paid (r : Retrieval σ) (record : Record) :
    (r.bodyDues record).Paid r.elementBuffer (r.writeBody record).lines
      (r.writeBody record).failure := by
  unfold bodyDues writeBody
  cases record.isValid with
  | false => exact Dues.paid_nothing
  | true =>
    simp only [if_true]
    rcases done : r.writeDump record with ⟨dump, failure, left⟩
    cases failure with
    | some f =>
      rw [writeValid_of_error done]
      have paid := (Dues.paid_failure f : Dues.Paid _ r.elementBuffer _ _).after dump
      rwa [List.append_nil] at paid
    | none =>
      rw [writeValid_of_ok done, writeListed]
      refine Dues.Paid.after ?_ _
      cases r.modes.elements with
      | false => exact Dues.paid_nothing
      | true =>
        obtain ⟨lines, failure⟩ := writeElements_eq r.elementBuffer left
        simp only [if_true, lines, failure]
        exact left.elementDues_paid r.elementBuffer

theorem dues_paid (r : Retrieval σ) (record : Record) :
    (r.dues record).Paid r.elementBuffer (r.write record).lines (r.write record).failure := by
  unfold dues
  cases written : r.writeHead record with
  | error f =>
    rw [write_of_error written]
    exact Dues.paid_failure f
  | ok head =>
    rw [write_of_ok written]
    exact (r.bodyDues_paid record).after head

/-- The session gives these records, pull by pull, and then none. -/
def Receives (r : Retrieval σ) : List Record → Prop
  | [] => ∀ record, r.pulled.outcome ≠ .returned (some record)
  | record :: records => r.pulled.outcome = .returned (some record) ∧ r.behind.Receives records

/-- What a retrieval owes that receives some records, up to the first that fails. -/
def owed (r : Retrieval σ) : List Record → Dues
  | [] => { ending := r.pulled.outcome.discard }
  | record :: records => (r.behind.dues record).andThen (r.behind.owed records)

def past (r : Retrieval σ) : List Record → Retrieval σ
  | [] => r
  | _ :: records => r.behind.past records

theorem Receives.congr {r : Retrieval σ} {records : List Record} (h : r.Receives records)
    (size : Int) (stats : RetrievalStats) :
    ({ r with elementBuffer := size, stats } : Retrieval σ).Receives records := by
  induction records generalizing r with
  | nil => exact h
  | cons record records ih => exact ⟨h.1, ih h.2⟩

theorem owed_congr (r : Retrieval σ) (records : List Record) (size : Int)
    (stats : RetrievalStats) :
    ({ r with elementBuffer := size, stats } : Retrieval σ).owed records = r.owed records := by
  induction records generalizing r with
  | nil => rfl
  | cons record records ih =>
    exact congrArg (Dues.andThen (r.behind.dues record)) (ih r.behind)

@[simp] theorem behind_elementBuffer (r : Retrieval σ) :
    r.behind.elementBuffer = r.elementBuffer := rfl

@[simp] theorem beyond_elementBuffer (r : Retrieval σ) (record : Record) :
    (r.beyond record).elementBuffer = r.elementBuffer := rfl

theorem beyond_owed (r : Retrieval σ) (record : Record) (records : List Record) :
    (r.beyond record).owed records = r.behind.owed records :=
  r.behind.owed_congr records r.elementBuffer _

theorem run?_of_receives {r : Retrieval σ} {records : List Record} (received : r.Receives records) :
    ∃ run, r.run? = some run ∧ run.lines = (r.owed records).paid r.elementBuffer ∧
      run.outcome = (r.owed records).outcome r.elementBuffer := by
  induction records generalizing r with
  | nil =>
    have turns := r.turn_turns
    generalize turned : r.turn = turn at turns
    cases turns with
    | waits outcome | fails outcome | finishes outcome =>
      refine ⟨_, run?_of_ends turned, rfl, ?_⟩
      rw [owed, outcome]
      rfl
    | breaks outcome | goesOn outcome => exact absurd outcome (received _)
  | cons record records ih =>
    obtain ⟨given, others⟩ := received
    obtain ⟨lines, ending⟩ := r.behind.dues_paid record
    rw [behind_elementBuffer] at lines ending
    have turned := turn_of_record given
    cases failure : (r.behind.write record).failure with
    | some f =>
      rw [failure] at ending turned
      have stop : (r.behind.dues record).outcome r.elementBuffer ≠ .returned () := by
        rw [← ending]
        exact nofun
      -- behind the first line that is not paid nothing is owed
      obtain ⟨paid, same⟩ := Dues.andThen_of_stop stop (r.behind.owed records)
      refine ⟨_, run?_of_ends turned, ?_, ?_⟩
      · rw [owed, paid, ← lines]
        exact List.append_nil _
      · rw [owed, same, ← ending]
        rfl
    | none =>
      rw [failure] at ending turned
      obtain ⟨paid, same⟩ := Dues.andThen_of_returned ending.symm (r.behind.owed records)
      obtain ⟨run, done, rest, last⟩ := ih (r := r.beyond record) (others.congr r.elementBuffer _)
      rw [beyond_owed, beyond_elementBuffer] at rest last
      refine ⟨_, run?_of_goesOn turned done, ?_, ?_⟩
      · rw [owed, paid, ← lines, ← rest]
        rfl
      · rw [owed, same, ← last]
        rfl

/-- The elements of a record that can be written owe their lines. -/
theorem elementDues_of_printable {left : Record} {es : List Element}
    (elements : left.elements.1 = .ok es) (printable : ∀ e ∈ es, e.Printable) :
    left.elementDues = ⟨es.map fun e => .element e.text, .returned ()⟩ := by
  have rendered : Rendering.of Element.fullLine es = ⟨es.map Element.text, none, []⟩ :=
    Rendering.of_ok fun e member => (printable e member).fullLine
  rw [Record.elementDues, (Record.holds_of_elements elements).render, rendered]
  simp [Rendering.dues, Outcome.ofFailure]

theorem dues_of_printable {r : Retrieval σ} {record : Record}
    (dumps : ∀ record, r.session.dump record = record.dump) (printable : record.Printable) :
    r.dues record = ⟨(record.entries r.modes).map Entry.due, .returned ()⟩ := by
  obtain ⟨left, dumped, elements⟩ := writeDump_eq dumps printable
  have listed : left.elementDues =
      ⟨(record.listed r.modes).map fun e => .element e.text, .returned ()⟩ :=
    elementDues_of_printable elements (printable.listed r.modes)
  unfold dues bodyDues Record.entries
  rw [writeHead_eq, printable.headLines, dumped]
  dsimp only
  rw [listed]
  cases record.isValid <;> cases r.modes.records <;> cases r.modes.bgpdump <;>
    cases r.modes.elements <;> simp [Dues.after, Entry.due, Function.comp_def]

/-- With the usual dump, records that can be written owe all their entries, and nothing fails but
the last pull. -/
theorem owed_of_printable (dumps : ∀ (s : σ) record, Source.dump s record = record.dump)
    {r : Retrieval σ} {records : List Record} (received : r.Receives records)
    (printable : ∀ record ∈ records, record.Printable) :
    r.owed records = ⟨(records.flatMap (Record.entries r.modes)).map Entry.due,
      (r.past records).pulled.outcome.discard⟩ := by
  induction records generalizing r with
  | nil => rfl
  | cons record records ih =>
    obtain ⟨given, behind⟩ := received
    obtain ⟨first, others⟩ := List.forall_mem_cons.mp printable
    obtain ⟨source, live⟩ := Session.live_of_next given
    have usual (record : Record) : r.behind.session.dump record = record.dump := by
      rw [Session.dump, show r.behind.session.phase.live? = some source from live]
      exact dumps source record
    rw [owed, dues_of_printable usual first, Dues.andThen_of_ending rfl, ih behind others,
      List.flatMap_cons, List.map_append]
    rfl

end Retrieval
end RouteFeed
