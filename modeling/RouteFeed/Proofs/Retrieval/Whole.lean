import RouteFeed.Proofs.Retrieval.Writing

/-! The whole rendering of a record: all lines that belong to it, where each of them can be written.
A retrieval that goes on behind a record has written exactly these. -/
namespace RouteFeed

/-- The lines of all elements that a new cursor yields, if elements are asked for. -/
def Record.elementLines (modes : OutputModes) (size : Int) (r : Record) :
    Except Failure (List String) :=
  if modes.elements then r.elements.1 >>= fun es => es.mapM (Element.line size) else .ok []

def Source.dumpLines {σ : Type} [Source σ] (s : σ) (modes : OutputModes) (r : Record) :
    Except Failure (List String) × Record :=
  if modes.bgpdump then
    ((Source.dump s r).1 >>= fun lines => lines.mapM Points.encode, (Source.dump s r).2)
  else (.ok [], r)

/-- All lines of a record that a source has given: its metadata, and if it is valid, its dump and then
its elements. -/
def Source.rendering {σ : Type} [Source σ] (s : σ) (modes : OutputModes) (size : Int) (r : Record) :
    Except Failure (List String) :=
  do
    let head ← r.headLines modes
    if r.isValid then do
      let dumped := Source.dumpLines s modes r
      let dump ← dumped.1
      let listed ← dumped.2.elementLines modes size
      return head ++ (dump ++ listed)
    else return head

theorem Rendering.of_mapM {render : Element → Except Failure String} {es : List Element}
    {lines : List String} (h : es.mapM render = .ok lines) :
    Rendering.of render es = ⟨lines, none, []⟩ := by
  induction es generalizing lines with
  | nil =>
    cases h
    rfl
  | cons e es ih =>
    rw [List.mapM_cons] at h
    obtain ⟨line, first, h⟩ := bind_ok h
    obtain ⟨rest, others, h⟩ := bind_ok h
    cases h
    simp [Rendering.of, first, ih others]

theorem mapM_encode_strings (ss : List String) :
    (ss.map Points.ofString).mapM Points.encode = .ok ss := by
  induction ss with
  | nil => rfl
  | cons s ss ih =>
    rw [List.map_cons, List.mapM_cons, Points.encode_ofString, ih]
    rfl

theorem mapM_of_ok {render : Element → Except Failure String} {text : Element → String}
    {es : List Element} (h : ∀ e ∈ es, render e = .ok (text e)) :
    es.mapM render = .ok (es.map text) := by
  induction es with
  | nil => rfl
  | cons e es ih =>
    rw [List.mapM_cons, h e List.mem_cons_self, ih fun e he => h e (List.mem_cons_of_mem _ he)]
    rfl

namespace Retrieval

variable {σ : Type} [Source σ]

omit [Source σ] in
theorem writeLines_of_mapM {lines : List Points} {ss : List String}
    (encoded : lines.mapM Points.encode = .ok ss) : writeLines lines = (ss, none) := by
  induction lines generalizing ss with
  | nil =>
    cases encoded
    rfl
  | cons line lines ih =>
    rw [List.mapM_cons] at encoded
    obtain ⟨s, first, encoded⟩ := bind_ok encoded
    obtain ⟨rest, others, encoded⟩ := bind_ok encoded
    cases encoded
    simp [writeLines, first, ih others]

theorem writeDump_of_dumpLines {r : Retrieval σ} {record : Record} {dump : List String} {s : σ}
    (live : r.session.phase.live? = some s)
    (dumped : (Source.dumpLines s r.modes record).1 = .ok dump) :
    r.writeDump record = (dump, none, (Source.dumpLines s r.modes record).2) := by
  unfold Source.dumpLines at dumped ⊢
  unfold writeDump
  by_cases asked : r.modes.bgpdump
  · simp only [asked, if_true, Session.dump, live] at dumped ⊢
    generalize Source.dump s record = result at dumped ⊢
    obtain ⟨result, left⟩ := result
    obtain ⟨lines, rfl, encoded⟩ := bind_ok dumped
    simp only [writeLines_of_mapM encoded]
  · simp only [asked, Bool.false_eq_true, if_false] at dumped ⊢
    cases dumped
    rfl

omit [Source σ] in
theorem writeListed_of_elementLines {r : Retrieval σ} {left : Record} {listed : List String}
    (elements : left.elementLines r.modes r.elementBuffer = .ok listed) :
    (r.writeListed left).lines = listed ∧ (r.writeListed left).failure = none := by
  unfold Record.elementLines at elements
  unfold writeListed
  by_cases asked : r.modes.elements
  · simp only [asked, if_true] at elements ⊢
    obtain ⟨es, yielded, rendered⟩ := bind_ok elements
    obtain ⟨same, failure⟩ := writeElements_eq r.elementBuffer left
    rw [same, failure, (Record.holds_of_elements yielded).render, Rendering.of_mapM rendered]
    exact ⟨rfl, rfl⟩
  · simp only [asked, Bool.false_eq_true, if_false] at elements ⊢
    cases elements
    exact ⟨rfl, trivial⟩

theorem write_of_rendering {r : Retrieval σ} {record : Record} {lines : List String} {s : σ}
    (live : r.session.phase.live? = some s)
    (h : Source.rendering s r.modes r.elementBuffer record = .ok lines) :
    (r.write record).lines = lines ∧ (r.write record).failure = none := by
  obtain ⟨head, written, h⟩ := bind_ok h
  rw [write_of_ok ((writeHead_eq r record).trans written), writeBody]
  cases valid : record.isValid with
  | false =>
    simp only [valid, Bool.false_eq_true, if_false] at h ⊢
    cases h
    exact ⟨List.append_nil _, trivial⟩
  | true =>
    simp only [valid, if_true] at h ⊢
    obtain ⟨dump, dumped, h⟩ := bind_ok h
    obtain ⟨listed, elements, h⟩ := bind_ok h
    cases h
    obtain ⟨same, failure⟩ := writeListed_of_elementLines elements
    rw [writeValid_of_ok (writeDump_of_dumpLines live dumped), same]
    exact ⟨rfl, failure⟩

end Retrieval

theorem Source.rendering_of_fits {σ : Type} [Source σ] {s : σ} {modes : OutputModes} {size : Int}
    {record : Record} (dumps : ∀ record, Source.dump s record = record.dump)
    (printable : record.Printable) (fits : ∀ e ∈ record.entries modes, e.Fits size) :
    Source.rendering s modes size record = .ok ((record.entries modes).map Entry.text) := by
  obtain ⟨left, dumped, elements⟩ : ∃ left, Source.dumpLines s modes record =
      (.ok (if modes.bgpdump then record.offered.map Element.dumpText else []), left) ∧
        left.elements.1 = .ok (record.listed modes) := by
    unfold Source.dumpLines Record.listed
    by_cases asked : modes.bgpdump
    · obtain ⟨left, dumped, again⟩ := printable.dump
      simp only [asked, if_true, dumps, dumped]
      exact ⟨left, congrArg (·, left) (mapM_encode_strings _), again⟩
    · obtain ⟨es, elements, _⟩ := printable.elements
      simp only [asked, Bool.false_eq_true, if_false]
      exact ⟨record, rfl, by rw [elements, Record.offered_eq elements]⟩
  unfold Source.rendering Record.entries at *
  rw [printable.headLines]
  cases valid : record.isValid with
  | false =>
    simp only [Bool.false_eq_true, if_false]
    cases modes.records <;> rfl
  | true =>
    simp only [valid, if_true] at fits ⊢
    have listed : left.elementLines modes size =
        .ok (if modes.elements then (record.listed modes).map Element.text else []) := by
      unfold Record.elementLines
      by_cases asked : modes.elements
      · simp only [asked, if_true] at fits ⊢
        rw [elements]
        refine mapM_of_ok fun e he => ?_
        exact (printable.listed modes e he).line_fits (fits (.element e) (by simp [he]))
      · simp only [asked, Bool.false_eq_true, if_false]
    rw [dumped, listed]
    simp only [List.map_append, apply_ite (List.map Entry.text), List.map_map, List.map_cons,
      List.map_nil]
    rfl

end RouteFeed
