import RouteFeed.Proofs.Computation
import RouteFeed.Retrieval

/-! What a retrieval writes of a record: entries one after another, up to the first element that
does not fit the buffer. -/
namespace RouteFeed

namespace Value

def Printable (v : Value) : Prop := ∃ s : String, v.shown = .ok ↑s

def written (v : Value) : String := v.plain.string?.getD ""

variable {v : Value}

theorem shown_eq_ok_iff {ps : Points} : v.shown = .ok ps ↔ v.isLegible = true ∧ v.plain = ps := by
  unfold shown
  cases v.isLegible <;> simp

theorem printable_iff : v.Printable ↔ v.isLegible = true ∧ ∃ s : String, v.plain = s := by
  simp [Printable, shown_eq_ok_iff]

theorem Printable.plain (h : v.Printable) : v.plain = v.written := by
  obtain ⟨-, s, plain⟩ := printable_iff.mp h
  rw [written, plain, Points.string?_ofString, Option.getD_some]

theorem Printable.shown (h : v.Printable) : v.shown = .ok v.written := by
  rw [shown_of_isLegible (printable_iff.mp h).1, h.plain]

@[simp] theorem printable_null : Printable .null := printable_iff.mpr ⟨rfl, _, rfl⟩

@[simp] theorem printable_text (s : String) : Printable (.text s) := printable_iff.mpr ⟨rfl, s, rfl⟩

@[simp] theorem written_text (s : String) : written (.text s) = s :=
  congrArg (·.getD "") (Points.string?_ofString s)

@[simp] theorem printable_int_iff {n : Int} : Printable (.int n) ↔ isShort n = true :=
  printable_iff.trans (and_iff_left ⟨_, rfl⟩)

@[simp] theorem written_int (n : Int) : written (.int n) = Text.decimal n :=
  congrArg (·.getD "") (Points.string?_ofString _)

end Value

def lineText (line : Except Failure Points) : String := (line.toOption.bind Points.string?).getD ""

@[simp] theorem lineText_ok (s : String) : lineText (.ok s) = s := by
  simp [lineText, Except.toOption]

namespace Element

/-- The fields that are written as they are have to be texts, a path that is no empty text has a
word, and whatever else the line shows can be printed. -/
structure Printable (e : Element) : Prop where
  address : ∃ s : String, e.peerAddress = .text s
  communities : ∃ ss : List String, e.communities = Value.texts (ss.map Points.ofString)
  path : e.asPath = .null ∨
    ∃ s : String, e.asPath = .text s ∧ (s = "" ∨ ∃ c ∈ s.toList, Text.isBlank c = false)
  others : ∀ v ∈ [e.time, e.peerAsn, e.network, e.nextHop, e.oldState, e.newState], v.Printable

def originText (e : Element) : String :=
  match e.asPath with
  | .text s => (s.words.getLastD []).string?.getD ""
  | _ => ""

def communityText (e : Element) : String :=
  match e.communities with
  | .list items => String.intercalate " " (items.map Value.written)
  | _ => ""

theorem communityText_of_texts {e : Element} {ss : List String}
    (given : e.communities = Value.texts (ss.map Points.ofString)) :
    e.communityText = String.intercalate " " ss := by
  have written : Value.written ∘ Value.text ∘ Points.ofString = id :=
    funext fun s => Value.written_text s
  simp only [communityText, given, Value.texts, List.map_map, written, List.map_id]

/-- What a field that may be missing shows. -/
def cell : Value → String
  | .null => ""
  | v => v.written

@[simp] theorem cell_text (s : String) : cell (.text s) = s := Value.written_text s

def cells (e : Element) : List String := [
  e.type.letter, e.time.written, e.peerAddress.written, e.peerAsn.written, cell e.network,
  cell e.nextHop, cell e.asPath, e.originText, e.communityText, cell e.oldState, cell e.newState]

def text (e : Element) : String := String.intercalate "|" e.cells

def dumpCells (e : Element) : List String :=
  let route (table letter : String) : List String := [
    table, e.time.written, letter, e.peerAddress.written, e.peerAsn.written, cell e.network,
    cell e.asPath, cell e.origin, cell e.nextHop, "0", "0", e.communityText, "NAG", "", ""]
  match e.type with
  | .rib => route "TABLE_DUMP2" "B"
  | .announcement => route "BGP4MP" "A"
  | .withdrawal =>
    ["BGP4MP", e.time.written, "W", e.peerAddress.written, e.peerAsn.written, cell e.network]
  | .peerState =>
    ["BGP4MP", e.time.written, "STATE", e.peerAddress.written, e.peerAsn.written, cell e.oldState,
      cell e.newState]

def dumpText (e : Element) : String := String.intercalate "|" e.dumpCells

/-- The line of an element fits a buffer that also holds its terminator. -/
def Fits (size : Int) (e : Element) : Prop := (Text.byteCount e.text.toList : Int) ≤ size - 1

instance (size : Int) : DecidablePred (Fits size) :=
  fun e => inferInstanceAs (Decidable ((Text.byteCount e.text.toList : Int) ≤ size - 1))

namespace Printable

variable {e : Element}

theorem joinWords (h : e.Printable) : e.communities.joinWords = .ok e.communityText := by
  obtain ⟨ss, given⟩ := h.communities
  rw [communityText_of_texts given, given, Value.joinWords_texts, Points.ofString_intercalate]

theorem originAsn (h : e.Printable) :
    ∃ v, e.originAsn = .ok v ∧ fieldText v = .ok e.originText := by
  unfold Element.originAsn originText
  rcases h.path with path | ⟨s, path, word⟩
  · rw [path]
    exact ⟨.null, rfl, rfl⟩
  · rw [path]
    by_cases empty : s = ""
    · subst empty
      exact ⟨.null, rfl, rfl⟩
    · have present : (Value.text s).isPresent = true := by
        simp [Value.isPresent, empty]
      have words : Text.words s.toList ≠ [] := by
        rw [Text.words, Ne, Text.wordsBy_eq_nil_iff]
        intro blank
        rcases word with word | ⟨c, hc, visible⟩
        · exact empty word
        · rw [blank c hc] at visible
          cases visible
      have last := List.getLast?_eq_some_getLast words
      simp only [present, Bool.not_true, Bool.false_eq_true, if_false, Points.words_ofString,
        List.getLast?_map, last, Option.map_some]
      refine ⟨_, rfl, ?_⟩
      rw [List.getLastD_eq_getLast?, List.getLast?_map, last]
      simp [fieldText, Points.string?]

theorem fieldText {v : Value} (h : v.Printable) : Element.fieldText v = .ok (cell v) := by
  cases v with
  | null => rfl
  | _ => exact h.shown

theorem asPath (h : e.Printable) : e.asPath.Printable := by
  rcases h.path with path | ⟨s, path, _⟩
  · exact path ▸ Value.printable_null
  · exact path ▸ Value.printable_text s

theorem shows (h : e.Printable) : e.time.Printable ∧ e.peerAsn.Printable ∧ e.network.Printable ∧
    e.nextHop.Printable ∧ e.oldState.Printable ∧ e.newState.Printable := by
  simpa using h.others

theorem fullLine (h : e.Printable) : e.fullLine = .ok e.text := by
  obtain ⟨v, origin, originText⟩ := h.originAsn
  obtain ⟨s, address⟩ := h.address
  obtain ⟨time, asn, network, nextHop, oldState, newState⟩ := h.shows
  have fields : e.lineFields = .ok (e.cells.map Points.ofString) := by
    rw [lineFields, time.shown, asn.shown, fieldText network, fieldText nextHop,
      fieldText h.asPath, origin, h.joinWords, fieldText oldState, fieldText newState, cells, address,
      Value.written_text]
    simp only [bind, Except.bind, originText]
    rfl
  rw [Element.fullLine, fields, Except.bind, ← Points.ofString_intercalate, Points.encode_ofString,
    text]

theorem dumpFields (h : e.Printable) (origin : e.origin.Printable) :
    e.dumpFields e.communityText = .ok (e.dumpCells.map Points.ofString) := by
  have address : e.peerAddress.Printable := by
    obtain ⟨s, address⟩ := h.address
    exact address ▸ Value.printable_text s
  obtain ⟨time, asn, network, nextHop, oldState, newState⟩ := h.shows
  unfold Element.dumpFields dumpCells
  simp only [time.shown, address.shown, asn.shown, fieldText network, fieldText h.asPath,
    fieldText origin, fieldText nextHop, fieldText oldState, fieldText newState, bind, Except.bind]
  cases e.type <;> rfl

theorem dumpLine (h : e.Printable) (origin : e.origin.Printable) :
    e.dumpLine = .ok e.dumpText := by
  rw [Element.dumpLine, h.joinWords, dumpText, Points.ofString_intercalate]
  simp only [bind, Except.bind, h.dumpFields origin]
  rfl

theorem line_fits (h : e.Printable) {size : Int} (fits : e.Fits size) :
    e.line size = .ok e.text := by
  rw [Element.line, h.fullLine, Except.bind]
  exact if_pos fits

theorem line_cut (h : e.Printable) {size : Int} (cut : ¬ e.Fits size) :
    ∃ truncated, e.line size = .error (.elementTooLong truncated) := by
  rw [Element.line, h.fullLine, Except.bind]
  exact ⟨_, if_neg cut⟩

end Printable
end Element

/-- One line of a retrieval: one that is always written, or that of an element. -/
inductive Entry where
  | line (text : String)
  | element (e : Element)

namespace Entry

def text : Entry → String
  | line text => text
  | element e => e.text

def Fits (size : Int) : Entry → Prop
  | line _ => True
  | element e => e.Fits size

instance (size : Int) : DecidablePred (Fits size)
  | line _ => inferInstanceAs (Decidable True)
  | element e => inferInstanceAs (Decidable (e.Fits size))

/-- The lines of entries up to the first that does not fit. -/
def written (size : Int) (entries : List Entry) : List String :=
  (entries.takeWhile fun e => e.Fits size).map text

/-- The writing of entries in order, up to the first that does not fit. -/
inductive Writes (size : Int) : List Entry → List String → Option Failure → Prop
  | done : Writes size [] [] none
  | next {e es lines failure} (fits : e.Fits size) (rest : Writes size es lines failure) :
    Writes size (e :: es) (e.text :: lines) failure
  | cut {e es truncated} (cut : ¬ e.Fits size) :
    Writes size (e :: es) [] (some (.elementTooLong truncated))

namespace Writes

variable {size : Int} {es es' : List Entry} {lines lines' : List String}
  {failure : Option Failure}

theorem lines_eq (h : Writes size es lines failure) : lines = written size es := by
  induction h with
  | done => rfl
  | next fits rest ih => simp [written, fits, ih]
  | cut cut => simp [written, cut]

theorem fits_iff (h : Writes size es lines failure) :
    failure = none ↔ ∀ e ∈ es, e.Fits size := by
  induction h with
  | done => simp
  | next fits rest ih => simpa [fits] using ih
  | cut cut => simp [cut]

theorem failure_eq {f : Failure} (h : Writes size es lines (some f)) :
    ∃ truncated, f = .elementTooLong truncated := by
  generalize hf : some f = failure at h
  induction h with
  | done => cases hf
  | next fits rest ih => exact ih hf
  | @cut e es truncated cut =>
    cases hf
    exact ⟨truncated, rfl⟩

theorem append (h : Writes size es lines none) (h' : Writes size es' lines' failure) :
    Writes size (es ++ es') (lines ++ lines') failure := by
  generalize hn : (none : Option Failure) = nothing at h
  induction h with
  | done => exact h'
  | next fits rest ih => exact .next fits (ih hn)
  | cut cut => cases hn

/-- Behind the first entry that does not fit nothing is written. -/
theorem stop {f : Failure} (h : Writes size es lines (some f)) (more : List Entry) :
    Writes size (es ++ more) lines (some f) := by
  generalize hf : some f = failure at h ⊢
  induction h with
  | done => cases hf
  | next fits rest ih => exact .next fits (ih hf)
  | cut cut => exact .cut cut

theorem ofLines (lines : List String) : Writes size (lines.map .line) lines none := by
  induction lines with
  | nil => exact .done
  | cons l lines ih => exact .next trivial ih

end Writes
end Entry

namespace Rendering

theorem of_ok {α : Type} {render : Element → Except Failure α} {text : Element → α}
    {es : List Element} (h : ∀ e ∈ es, render e = .ok (text e)) :
    of render es = ⟨es.map text, none, []⟩ := by
  induction es with
  | nil => rfl
  | cons e es ih =>
    have rest := ih fun e he => h e (List.mem_cons_of_mem _ he)
    simp [of, h e List.mem_cons_self, rest]

theorem of_line (size : Int) {es : List Element} (h : ∀ e ∈ es, e.Printable) :
    Entry.Writes size (es.map .element) (of (Element.line size) es).lines
      (of (Element.line size) es).failure := by
  induction es with
  | nil => exact .done
  | cons e es ih =>
    have printable := h e List.mem_cons_self
    have rest := ih fun e he => h e (List.mem_cons_of_mem _ he)
    by_cases fits : e.Fits size
    · rw [of, printable.line_fits fits]
      exact .next fits rest
    · obtain ⟨truncated, cut⟩ := printable.line_cut fits
      rw [of, cut]
      exact .cut fits

end Rendering

@[simp] theorem upToGap_some (es : List Element) : upToGap (es.map some) = es := by
  induction es with
  | nil => rfl
  | cons e es ih => simp [upToGap, ih]

namespace Record

/-- The elements that a first cursor on the record yields. -/
def offered (r : Record) : List Element :=
  match r.elements.1 with
  | .ok es => es
  | .error _ => []

/-- The elements that a second cursor yields: a feed is used up by the first. -/
def offeredAgain (r : Record) : List Element :=
  match r.payload with
  | .feed => []
  | _ => r.offered

/-- The elements that are left for their lines. -/
def listed (modes : OutputModes) (r : Record) : List Element :=
  if modes.bgpdump then r.offeredAgain else r.offered

/-- The record has a line and elements, and all of it can be written. -/
structure Printable (r : Record) : Prop where
  line : ∃ s : String, r.line = .ok ↑s
  elements : ∃ es, r.elements.1 = .ok es ∧ ∀ e ∈ es, e.Printable ∧ e.origin.Printable

theorem line_of_strings {r : Record} {project collector : String} (ofProject : r.project = project)
    (ofCollector : r.collector = collector) (time : Value.isShort r.time = true)
    (dumpTime : Value.isShort r.dumpTime = true) : ∃ s : String, r.line = .ok ↑s := by
  refine ⟨String.intercalate "|" [Text.decimal r.time, project, collector, r.dumpType.name,
    r.status.name, Text.decimal r.dumpTime, r.dumpPosition.name] ++ "|", ?_⟩
  rw [Points.ofString_append, Points.ofString_intercalate, line,
    Value.shown_of_isLegible (v := .int r.time) time,
    Value.shown_of_isLegible (v := .int r.dumpTime) dumpTime, ofProject, ofCollector]
  rfl

/-- What belongs to a record: its line, and if it is valid, its dump and its elements. -/
def entries (modes : OutputModes) (r : Record) : List Entry :=
  (if modes.records then [.line (lineText r.line)] else []) ++
    if r.isValid then
      (if modes.bgpdump then r.offered.map fun e => .line e.dumpText else []) ++
        (if modes.elements then (r.listed modes).map .element else [])
    else []

variable {r : Record} {es : List Element}

theorem offered_eq (h : r.elements.1 = .ok es) : r.offered = es := by
  rw [offered, h]

theorem mem_offered_of_listed {modes : OutputModes} {e : Element} (h : e ∈ r.listed modes) :
    e ∈ r.offered := by
  unfold listed offeredAgain at h
  split at h
  · split at h
    · cases h
    · exact h
  · exact h

end Record
end RouteFeed
