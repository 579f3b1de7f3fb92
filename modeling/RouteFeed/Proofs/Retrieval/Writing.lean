import RouteFeed.Proofs.Retrieval.Entries

/-! The writing of one record: its entries in order, whichever way its elements are held. -/
namespace RouteFeed

namespace Record

variable {r : Record} {es : List Element}

inductive Holds (r : Record) (es : List Element) : Prop
  | afresh {left} (opened : r.openCursor = (.ok (.walking (es.map some)), left))
    (again : left.openCursor = (.ok (.walking (es.map some)), left))
    (feed : r.payload = .feed → es = [])
  | once (valid : r.isValid = true) (payload : r.payload = .feed) (feed : es = r.feed)

theorem openCursor_feed (valid : r.isValid = true) (payload : r.payload = .feed) :
    r.openCursor = (.ok .onFeed, r) := by
  simp [openCursor, valid, payload]

theorem holds_of_elements (h : r.elements.1 = .ok es) : r.Holds es := by
  have walks {elements : List Element} {left : Record}
      (opened : r.openCursor = (.ok (.walking (elements.map some)), left)) : es = elements := by
    rw [Record.elements, opened] at h
    simpa [drain] using h.symm
  cases valid : r.isValid with
  | false =>
    have opened : r.openCursor = (.ok (.walking ([].map some)), r) := by simp [openCursor, valid]
    cases walks opened
    exact .afresh opened opened fun _ => rfl
  | true =>
    cases payload : r.payload with
    | none =>
      have opened : r.openCursor = (.ok (.walking ([].map some)), r) := by
        simp [openCursor, valid, payload]
      cases walks opened
      exact .afresh opened opened fun _ => rfl
    | stored elements =>
      have opened : r.openCursor = (.ok (.walking (elements.map some)), r) := by
        simp [openCursor, valid, payload]
      cases walks opened
      exact .afresh opened opened fun feed => by simp [payload] at feed
    | breaking elements failure =>
      rw [Record.elements] at h
      simp [openCursor, valid, payload, drain] at h
    | feed =>
      refine .once valid payload ?_
      rw [elements, openCursor_feed valid payload] at h
      simpa [drain] using h.symm
    | pending entries =>
      cases converted : RawEntry.convertAll entries with
      | error left =>
        rw [elements] at h
        simp [openCursor, valid, payload, converted] at h
      | ok elements =>
        have opened : r.openCursor =
            (.ok (.walking (elements.map some)), { r with payload := .stored elements }) := by
          simp [openCursor, valid, payload, converted]
        have again : ({ r with payload := .stored elements } : Record).openCursor =
            (.ok (.walking (elements.map some)), { r with payload := .stored elements }) := by
          have kept : ({ r with payload := .stored elements } : Record).isValid = true := valid
          simp [openCursor, kept]
        cases walks opened
        exact .afresh opened again fun feed => by simp [payload] at feed

namespace Holds

variable {α : Type}

theorem render (h : r.Holds es) (render : Element → Except Failure α) :
    (r.render render).1 = Rendering.of render es := by
  cases h with
  | afresh opened again feed =>
    rw [Record.render, opened]
    exact congrArg (Rendering.of render) (upToGap_some es)
  | once valid payload feed =>
    rw [Record.render, openCursor_feed valid payload, feed]
    rfl

/-- A rendering that comes to its end leaves what a second cursor yields. -/
theorem after_render (h : r.Holds es) {render : Element → Except Failure α}
    (rest : (Rendering.of render es).rest = []) (offered : r.offered = es) :
    (r.render render).2.elements.1 = .ok r.offeredAgain := by
  unfold offeredAgain
  cases h with
  | @afresh left opened again feed =>
    have same : (r.render render).2 = left := by
      rw [Record.render, opened]
      rfl
    have left : left.elements.1 = .ok es := by
      rw [elements, again]
      simp [drain]
    rw [same, left, offered]
    split
    · rename_i payload
      rw [feed payload]
    · rfl
  | once valid payload feed =>
    have used : (r.render render).2 = { r with feed := [] } := by
      rw [Record.render, openCursor_feed valid payload, ← rest, feed]
      rfl
    have again : ({ r with feed := [] } : Record).openCursor =
        (.ok .onFeed, { r with feed := [] }) :=
      openCursor_feed valid payload
    rw [used, elements, again, payload]
    rfl

end Holds

def headLines (modes : OutputModes) (r : Record) : Except Failure (List String) :=
  if modes.records then do return [← (← r.line).encode] else .ok []

theorem Printable.headLines (h : r.Printable) (modes : OutputModes) :
    r.headLines modes = .ok (if modes.records then [lineText r.line] else []) := by
  obtain ⟨s, line⟩ := h.line
  unfold Record.headLines
  rw [line, lineText_ok]
  cases modes.records <;> simp [bind, Except.bind, pure, Except.pure]

theorem dump_of_elements (h : r.elements.1 = .ok es) {text : Element → Points}
    (lines : ∀ e ∈ es, e.dumpLine = .ok (text e)) :
    ∃ left, r.dump = (.ok (es.map text), left) ∧ left.elements.1 = .ok r.offeredAgain := by
  have holds := holds_of_elements h
  have rendering : Rendering.of Element.dumpLine es = ⟨es.map text, none, []⟩ :=
    Rendering.of_ok lines
  have rendered := holds.render Element.dumpLine
  refine ⟨(r.render Element.dumpLine).2, ?_, holds.after_render (by rw [rendering]) (offered_eq h)⟩
  rw [Record.dump]
  generalize r.render Element.dumpLine = done at rendered
  obtain ⟨done, left⟩ := done
  cases rendered
  rw [rendering]

theorem Printable.dump (h : r.Printable) :
    ∃ left, r.dump = (.ok ((r.offered.map Element.dumpText).map Points.ofString), left) ∧
      left.elements.1 = .ok r.offeredAgain := by
  obtain ⟨es, elements, printable⟩ := h.elements
  rw [offered_eq elements, List.map_map]
  exact dump_of_elements elements fun e he =>
    let ⟨printable, origin⟩ := printable e he
    printable.dumpLine origin

/-- The elements that are left for the lines can be written. -/
theorem Printable.listed (h : r.Printable) (modes : OutputModes) :
    ∀ e ∈ r.listed modes, e.Printable := by
  obtain ⟨es, offered, printable⟩ := h.elements
  intro e he
  refine (printable e ?_).1
  rw [← offered_eq offered]
  exact mem_offered_of_listed he

end Record

namespace Retrieval

theorem writeElements_eq (buffer : Int) (record : Record) :
    (writeElements buffer record).lines = (record.render (Element.line buffer)).1.lines ∧
      (writeElements buffer record).failure =
        (record.render (Element.line buffer)).1.failure := by
  unfold writeElements Record.render
  generalize record.openCursor = opened
  obtain ⟨cursor, left⟩ := opened
  cases cursor with
  | error f => exact ⟨rfl, rfl⟩
  | ok cursor => exact ⟨rfl, rfl⟩

theorem writeElements_writes (buffer : Int) {record : Record} {es : List Element}
    (h : record.elements.1 = .ok es) (printable : ∀ e ∈ es, e.Printable) :
    Entry.Writes buffer (es.map .element) (writeElements buffer record).lines
      (writeElements buffer record).failure := by
  obtain ⟨lines, failure⟩ := writeElements_eq buffer record
  rw [lines, failure, (Record.holds_of_elements h).render]
  exact Rendering.of_line buffer printable

variable {σ : Type}

def writeListed (r : Retrieval σ) (record : Record) : Writing :=
  if r.modes.elements then writeElements r.elementBuffer record
  else { lines := [], failure := none, elements := 0, record }

theorem writeLines_strings (ss : List String) :
    writeLines (ss.map Points.ofString) = (ss, none) := by
  induction ss with
  | nil => rfl
  | cons s ss ih => simp [writeLines, ih]

theorem writeHead_eq (r : Retrieval σ) (record : Record) :
    r.writeHead record = record.headLines r.modes := rfl

variable [Source σ]

theorem writeValid_of_error {r : Retrieval σ} {record left : Record} {lines : List String}
    {f : Failure} (done : r.writeDump record = (lines, some f, left)) :
    r.writeValid record = { lines, failure := some f, elements := 0, record := left } := by
  rw [writeValid, done]

theorem writeValid_of_ok {r : Retrieval σ} {record left : Record} {dump : List String}
    (done : r.writeDump record = (dump, none, left)) :
    r.writeValid record =
      { r.writeListed left with lines := dump ++ (r.writeListed left).lines } := by
  rw [writeValid, done, writeListed]
  cases r.modes.elements with
  | true => rfl
  | false => simp

theorem write_of_error {r : Retrieval σ} {record : Record} {f : Failure}
    (head : r.writeHead record = .error f) :
    r.write record =
      { lines := [], failure := some f, elements := 0, record := record.release, valid := false } := by
  rw [write, head]

theorem write_of_ok {r : Retrieval σ} {record : Record} {head : List String}
    (written : r.writeHead record = .ok head) :
    r.write record = { r.writeBody record with
      lines := head ++ (r.writeBody record).lines
      record := (r.writeBody record).record.release } := by
  rw [write, written]

theorem writeDump_eq {r : Retrieval σ} {record : Record}
    (dumps : ∀ record, r.session.dump record = record.dump) (h : record.Printable) :
    ∃ left, r.writeDump record =
        (if r.modes.bgpdump then record.offered.map Element.dumpText else [], none, left) ∧
      left.elements.1 = .ok (record.listed r.modes) := by
  unfold writeDump Record.listed
  by_cases asked : r.modes.bgpdump
  · obtain ⟨left, dumped, again⟩ := h.dump
    simp only [asked, if_true, dumps, dumped, writeLines_strings]
    exact ⟨left, rfl, again⟩
  · obtain ⟨es, elements, _⟩ := h.elements
    simp only [asked, Bool.false_eq_true, if_false]
    exact ⟨record, rfl, by rw [elements, Record.offered_eq elements]⟩

theorem writeValid_writes {r : Retrieval σ} {record : Record}
    (dumps : ∀ record, r.session.dump record = record.dump) (h : record.Printable) :
    Entry.Writes r.elementBuffer
      ((if r.modes.bgpdump then record.offered.map fun e => .line e.dumpText else []) ++
        (if r.modes.elements then (record.listed r.modes).map .element else []))
      (r.writeValid record).lines (r.writeValid record).failure := by
  obtain ⟨left, dumped, elements⟩ := writeDump_eq dumps h
  have dump : Entry.Writes r.elementBuffer
      (if r.modes.bgpdump then record.offered.map fun e => .line e.dumpText else [])
      (if r.modes.bgpdump then record.offered.map Element.dumpText else []) none := by
    by_cases asked : r.modes.bgpdump
    · simp only [asked, if_true]
      have lines : Entry.Writes r.elementBuffer
          ((record.offered.map Element.dumpText).map .line)
          (record.offered.map Element.dumpText) none := .ofLines _
      rwa [List.map_map] at lines
    · simp only [asked, Bool.false_eq_true, if_false]
      exact .done
  rw [writeValid, dumped]
  by_cases asked : r.modes.elements
  · simp only [asked, if_true]
    exact dump.append (writeElements_writes r.elementBuffer elements (h.listed r.modes))
  · simp only [asked, Bool.false_eq_true, if_false, List.append_nil]
    exact dump

theorem write_writes {r : Retrieval σ} {record : Record}
    (dumps : ∀ record, r.session.dump record = record.dump) (h : record.Printable) :
    Entry.Writes r.elementBuffer (record.entries r.modes) (r.write record).lines
      (r.write record).failure := by
  have head : Entry.Writes r.elementBuffer
      (if r.modes.records then [.line (lineText record.line)] else [])
      (if r.modes.records then [lineText record.line] else []) none := by
    by_cases asked : r.modes.records
    · simp only [asked, if_true]
      exact .ofLines [lineText record.line]
    · simp only [asked, Bool.false_eq_true, if_false]
      exact .done
  rw [write_of_ok ((writeHead_eq r record).trans (h.headLines r.modes)), writeBody, Record.entries]
  by_cases valid : record.isValid
  · simp only [valid, if_true]
    exact head.append (writeValid_writes dumps h)
  · simp only [valid, Bool.false_eq_true, if_false]
    exact head.append .done

end Retrieval
end RouteFeed
