import RouteFeed.Proofs.Retrieval.Dues
import RouteFeed.Source.Scripted

/-! Runs with buffers of different sizes. With the smaller one, a run writes the first lines of what
it writes with the larger one; it stops at the first element that does not fit, or not at all. -/
namespace RouteFeed

theorem linesText_append (lines more : List String) :
    linesText (lines ++ more) = linesText lines ++ linesText more := by
  rw [linesText, List.map_append, String.join_append]
  rfl

namespace Record

theorem renderFrom_of_fits {size : Int} (r : Record) (c : Cursor)
    (fits : ∀ due ∈ (r.renderFrom Element.fullLine c).1.dues.lines, due.Fits size) :
    r.renderFrom (Element.line size) c = r.renderFrom Element.fullLine c := by
  cases c with
  | onFeed => rw [renderFrom, renderFrom, Rendering.of_line_of_fits fits]
  | walking rest => rw [renderFrom, renderFrom, Rendering.of_line_of_fits fits]
  | breaking rest failure => rw [renderFrom, renderFrom, Rendering.of_line_of_fits fits]
  | finished => rfl

end Record

namespace Retrieval

variable {σ : Type}

def resize (r : Retrieval σ) (size : Int) : Retrieval σ := { r with elementBuffer := size }

def Run.resize (run : Run σ) (size : Int) : Run σ :=
  { run with retrieval := run.retrieval.resize size }

def Turn.resize (size : Int) : Turn σ → Turn σ
  | ends run => .ends (run.resize size)
  | goesOn log writing next => .goesOn log writing (next.resize size)

theorem writeElements_of_fits {size other : Int} {record : Record}
    (fits : ∀ due ∈ record.elementDues.lines, due.Fits size)
    (others : ∀ due ∈ record.elementDues.lines, due.Fits other) :
    writeElements other record = writeElements size record := by
  unfold Record.elementDues Record.render at fits others
  unfold writeElements
  generalize record.openCursor = opened at fits others
  obtain ⟨cursor, left⟩ := opened
  cases cursor with
  | error f => rfl
  | ok cursor =>
    dsimp only
    rw [left.renderFrom_of_fits cursor fits, left.renderFrom_of_fits cursor others]

variable {r : Retrieval σ} {size : Int}

theorem writeListed_resize {left : Record}
    (fits : ∀ due ∈ (if r.modes.elements then left.elementDues else {}).lines,
      due.Fits r.elementBuffer)
    (others : ∀ due ∈ (if r.modes.elements then left.elementDues else {}).lines, due.Fits size) :
    (r.resize size).writeListed left = r.writeListed left := by
  unfold writeListed
  cases asked : r.modes.elements with
  | false => simp only [resize, asked, Bool.false_eq_true, if_false]
  | true =>
    simp only [resize, asked, if_true] at fits others ⊢
    exact writeElements_of_fits fits others

variable [Source σ]

theorem writeBody_resize {record : Record}
    (fits : ∀ due ∈ (r.bodyDues record).lines, due.Fits r.elementBuffer)
    (others : ∀ due ∈ (r.bodyDues record).lines, due.Fits size) :
    (r.resize size).writeBody record = r.writeBody record := by
  have same : (r.resize size).writeDump record = r.writeDump record := rfl
  unfold bodyDues at fits others
  unfold writeBody
  cases valid : record.isValid with
  | false => rfl
  | true =>
    simp only [valid, if_true] at fits others ⊢
    rcases done : r.writeDump record with ⟨dump, failure, left⟩
    rw [done] at fits others same
    cases failure with
    | some f => rw [writeValid_of_error done, writeValid_of_error same]
    | none =>
      have listed : (r.resize size).writeListed left = r.writeListed left := by
        refine writeListed_resize (fun due member => fits due ?_) (fun due member => others due ?_)
        · exact List.mem_append_right _ member
        · exact List.mem_append_right _ member
      rw [writeValid_of_ok done, writeValid_of_ok same, listed]

theorem write_resize {record : Record}
    (fits : ∀ due ∈ (r.dues record).lines, due.Fits r.elementBuffer)
    (others : ∀ due ∈ (r.dues record).lines, due.Fits size) :
    (r.resize size).write record = r.write record := by
  have same : (r.resize size).writeHead record = r.writeHead record := rfl
  unfold dues at fits others
  cases written : r.writeHead record with
  | error f => rw [write_of_error written, write_of_error (same.trans written)]
  | ok head =>
    rw [written] at fits others
    have body : (r.resize size).writeBody record = r.writeBody record :=
      writeBody_resize (fun due member => fits due (List.mem_append_right _ member))
        (fun due member => others due (List.mem_append_right _ member))
    rw [write_of_ok written, write_of_ok (same.trans written), body]

theorem turn_resize (same : ∀ record, r.pulled.outcome = .returned (some record) →
      (r.behind.resize size).write record = r.behind.write record) :
    (r.resize size).turn = r.turn.resize size := by
  have pulled : (r.resize size).pulled = r.pulled := rfl
  have behind : (r.resize size).behind = r.behind.resize size := rfl
  rw [turn_eq, turn_eq, pulled, behind]
  cases outcome : r.pulled.outcome with
  | blocked => rfl
  | raised f => rfl
  | returned answer =>
    cases answer with
    | none => rfl
    | some record =>
      have written := same record outcome
      have beyond : (r.resize size).beyond record = (r.beyond record).resize size := by
        rw [Retrieval.beyond, behind, written]
        rfl
      dsimp only
      rw [written, beyond]
      cases (r.behind.write record).failure with
      | some f => rfl
      | none => rfl

theorem run?_resize {records : List Record} (received : r.Receives records)
    (fits : ∀ due ∈ (r.owed records).lines, due.Fits r.elementBuffer)
    (others : ∀ due ∈ (r.owed records).lines, due.Fits size) :
    ∃ run, r.run? = some run ∧ (r.resize size).run? = some (run.resize size) := by
  induction records generalizing r with
  | nil =>
    have resized : (r.resize size).turn = r.turn.resize size :=
      turn_resize fun record outcome => absurd outcome (received record)
    have turns := r.turn_turns
    cases turned : r.turn with
    | ends run =>
      rw [turned] at resized
      exact ⟨run, run?_of_ends turned, run?_of_ends resized⟩
    | goesOn log w next =>
      rw [turned] at turns
      cases turns with
      | goesOn outcome => exact absurd outcome (received _)
  | cons record records ih =>
    obtain ⟨given, behind⟩ := received
    have resized : (r.resize size).turn = r.turn.resize size := by
      refine turn_resize fun other outcome => ?_
      cases given.symm.trans outcome
      exact write_resize (fun due member => fits due (Dues.mem_andThen member _))
        (fun due member => others due (Dues.mem_andThen member _))
    have turns := r.turn_turns
    cases turned : r.turn with
    | ends run =>
      rw [turned] at resized
      exact ⟨run, run?_of_ends turned, run?_of_ends resized⟩
    | goesOn log w next =>
      rw [turned] at turns resized
      cases turns with
      | goesOn outcome whole =>
        cases given.symm.trans outcome
        -- the dues of this record have been paid, and the others are those of the rest
        obtain ⟨_, paid⟩ := r.behind.dues_paid record
        rw [whole] at paid
        obtain ⟨_, ending⟩ := Dues.fits_of_returned paid.symm
        rw [owed, Dues.andThen_of_ending ending] at fits others
        have owed := r.beyond_owed record records
        obtain ⟨run, done, same⟩ := ih (r := r.beyond record) (behind.congr r.elementBuffer _)
          (fun due member => fits due (List.mem_append_right _ (owed ▸ member)))
          (fun due member => others due (List.mem_append_right _ (owed ▸ member)))
        exact ⟨_, run?_of_goesOn turned done, run?_of_goesOn resized same⟩

/-- With the smaller of two buffers, a run writes the first whole lines of what it writes with the
larger one. If all lines that are owed fit the smaller one, the runs are the same; otherwise the run
with the smaller one stops at the first that does not fit. What is owed are the lines of the
records, and of a record that cannot be written as a whole, those before the failure. -/
theorem smaller_buffer_writes_first_lines {r : Retrieval σ} {records : List Record}
    (received : r.Receives records) {small large : Int} (le : small ≤ large) :
    ∃ short long more, (r.resize small).run? = some short ∧ (r.resize large).run? = some long ∧
      long.lines = short.lines ++ more ∧
      linesText long.lines = linesText short.lines ++ linesText more ∧
      ((∀ due ∈ (r.owed records).lines, due.Fits small) →
        short.lines = (r.owed records).lines.map Due.text ∧ long = short.resize large) ∧
      (∀ before due after, (r.owed records).lines = before ++ due :: after →
        (∀ due ∈ before, due.Fits small) → ¬ due.Fits small →
        short.lines = before.map Due.text ∧ short.outcome = .raised (due.failure small)) ∧
      ((∀ (s : σ) record, Source.dump s record = record.dump) →
        (∀ record ∈ records, record.Printable) →
        r.owed records = ⟨(records.flatMap (Record.entries r.modes)).map Entry.due,
          (r.past records).pulled.outcome.discard⟩) := by
  have owed (size : Int) : (r.resize size).owed records = r.owed records :=
    r.owed_congr records size r.stats
  have resized (size : Int) : (r.resize size).Receives records := received.congr size r.stats
  obtain ⟨short, done, lines, outcome⟩ := run?_of_receives (resized small)
  obtain ⟨long, whole, others, _⟩ := run?_of_receives (resized large)
  rw [owed] at lines outcome others
  -- both runs pay the same dues, each as far as its buffer goes
  obtain ⟨more, rest⟩ := (r.owed records).paid_mono le
  have joined : long.lines = short.lines ++ more := by
    rw [lines, others]
    exact rest.symm
  refine ⟨short, long, more, done, whole, joined, ?_, fun fits => ⟨?_, ?_⟩,
    fun before due after first fits cut => ?_, fun dumps printable => ?_⟩
  · rw [joined, linesText_append]
  · rw [lines]
    exact (Dues.paid_of_fits fits).1
  · have larger : ∀ due ∈ ((r.resize small).owed records).lines, due.Fits large :=
      fun due member => (fits due (owed small ▸ member)).mono le
    obtain ⟨run, ends, same⟩ := run?_resize (resized small) (owed small ▸ fits) larger
    cases done.symm.trans ends
    exact Option.some.inj (whole.symm.trans same)
  · obtain ⟨paid, failure⟩ := Dues.paid_of_first first fits cut
    exact ⟨lines.trans paid, outcome.trans failure⟩
  · exact owed_of_printable dumps received printable

def lone (record : Record) (modes : OutputModes) (size : Int) : Retrieval ScriptedSource where
  session :=
    let registry : Registry ScriptedSource :=
      Registry.add {} "lone" "" (.ok { events := [{ record := some record }] })
    (Session.start { registry, backend := 1 } { windows := [⟨0, 9⟩] } false).session
  modes := modes
  elementBuffer := size

theorem lone_receives (record : Record) (modes : OutputModes) (size : Int) :
    (lone record modes size).Receives [record] := by
  have ended : (lone record modes size).behind.pulled.outcome = .returned none := rfl
  refine ⟨rfl, fun other given => ?_⟩
  cases ended.symm.trans given

def announced (address : String) : Element :=
  { type := .announcement, peerAddress := .text address }

/-- A record of two elements, the second of which is longer. -/
def uneven : Record where
  time := 1
  project := "p"
  collector := "c"
  dumpType := .update
  dumpPosition := .middle
  status := .valid
  dumpTime := 1
  payload := .stored [announced "a", announced "aaaa"]

theorem smaller_buffer_writes_first_lines_uneven :
    let r := lone uneven { elements := true } 65536
    r.Receives [uneven] ∧ (16 : Int) ≤ 18 ∧
      ∃ short long more, (r.resize 16).run? = some short ∧ (r.resize 18).run? = some long ∧
        long.lines = short.lines ++ more ∧
        short.lines = ["1|p|c|update|valid_record|1|middle|", "A|0|a|0|||||||"] ∧
        short.outcome = .raised (.elementTooLong "A|0|aaaa|0|||||") := by
  intro r
  have received : r.Receives [uneven] := lone_receives ..
  have le : (16 : Int) ≤ 18 := by omega
  have owed : (r.owed [uneven]).lines =
      [.plain "1|p|c|update|valid_record|1|middle|", .element "A|0|a|0|||||||"] ++
        .element "A|0|aaaa|0|||||||" :: [] := rfl
  have truncated : String.ofList (Text.takeBytes 15 "A|0|aaaa|0|||||||".toList) =
      "A|0|aaaa|0|||||" := by decide +kernel
  obtain ⟨short, long, more, done, whole, joined, _, _, cut, _⟩ :=
    smaller_buffer_writes_first_lines received le
  obtain ⟨lines, outcome⟩ := cut _ _ _ owed (by decide +kernel) (by decide +kernel)
  refine ⟨received, le, short, long, more, done, whole, joined, lines, ?_⟩
  rw [← truncated]
  exact outcome

def fed : Record := { uneven with payload := .feed, feed := [announced "a"] }

/-- A feed that the dump has used up has no element left that does not fit. -/
theorem spent_feed_not_cut :
    let r := lone fed { records := false, bgpdump := true, elements := true } 1
    r.Receives [fed] ∧ fed.Printable ∧ fed.isValid = true ∧ announced "a" ∈ fed.offered ∧
      ¬ (announced "a").Fits r.elementBuffer ∧
      ∃ run, r.run? = some run ∧ run.outcome = .returned () := by
  intro r
  have received : r.Receives [fed] := lone_receives ..
  obtain ⟨run, done, _, outcome⟩ := run?_of_receives received
  have zero : Value.isShort 0 = true := by decide
  have one : Value.isShort 1 = true := by decide
  have printable : (announced "a").Printable :=
    ⟨⟨_, rfl⟩, ⟨[], rfl⟩, .inl rfl, by simp [announced, zero]⟩
  have elements : ∀ e ∈ [announced "a"], e.Printable ∧ e.origin.Printable :=
    List.forall_mem_singleton.mpr ⟨printable, Value.printable_null⟩
  refine ⟨received, ⟨Record.line_of_strings rfl rfl one one, _, rfl, elements⟩, rfl,
    List.mem_singleton_self _, ?_, run, done, outcome⟩
  decide +kernel

end Retrieval
end RouteFeed
