import RouteFeed.Proofs.Computation
import RouteFeed.Render

/-! Elements whose fields have their declared types. If the joined fields are characters, whether such
an element has a line is decided by their bytes alone, unless its path is there but has no word, or an
integer is too long to be shown. -/
namespace RouteFeed

/-- An element whose fields have their declared types. -/
structure PlainElement where
  type : ElementType
  time : Int := 0
  peerAddress : Points := []
  peerAsn : Int := 0
  network : Option Points := none
  nextHop : Option Points := none
  asPath : Option Points := none
  communities : List Points := []
  oldState : Option Points := none
  newState : Option Points := none
  origin : Option Points := none

namespace PlainElement

def toElement (p : PlainElement) : Element where
  type := p.type
  time := .int p.time
  peerAddress := .text p.peerAddress
  peerAsn := .int p.peerAsn
  network := .ofText? p.network
  nextHop := .ofText? p.nextHop
  asPath := .ofText? p.asPath
  communities := .texts p.communities
  oldState := .ofText? p.oldState
  newState := .ofText? p.newState
  origin := .ofText? p.origin

def lastHop (p : PlainElement) : Option Points := (p.asPath.getD []).words.getLast?

def BlankPath (p : PlainElement) : Prop :=
  ∃ path, p.asPath = some path ∧ path ≠ [] ∧ ∀ c ∈ path, c.isBlank = true

/-- The integers have no more digits than are shown. -/
structure IsShort (p : PlainElement) : Prop where
  time : Value.isShort p.time = true
  asn : Value.isShort p.peerAsn = true

def fields (p : PlainElement) : List Points := [
  p.type.letter, Text.decimal p.time, p.peerAddress, Text.decimal p.peerAsn, p.network.getD [],
  p.nextHop.getD [], p.asPath.getD [], p.lastHop.getD [], Points.intercalate " " p.communities,
  p.oldState.getD [], p.newState.getD []]

/-- The line, however long, and whether or not it can be written. -/
def joined (p : PlainElement) : Points := Points.intercalate "|" p.fields

end PlainElement

@[simp] theorem Element.fieldText_ofText? (s? : Option Points) :
    fieldText (.ofText? s?) = .ok (s?.getD []) := by
  cases s? with
  | none => rfl
  | some s => exact Value.shown_text s

theorem Value.shown_int (n : Int) :
    (int n).shown = if isShort n then .ok ↑(Text.decimal n) else .error .tooLongToShow := rfl

theorem Value.isShort_of_shown {n : Int} {ps : Points} (shown : (int n).shown = .ok ps) :
    isShort n = true := by
  rw [shown_int] at shown
  split at shown
  · assumption
  · cases shown

theorem Text.byteCount_toList (s : String) : byteCount s.toList = s.utf8ByteSize := by
  have counts (cs : List Char) : byteCount cs = (String.ofList cs).utf8ByteSize := by
    induction cs with
    | nil => rfl
    | cons c cs ih =>
      have first : String.ofList (c :: cs) = String.singleton c ++ String.ofList cs := by
        simp [String.ofList_cons]
      rw [byteCount_cons, ih, first, String.utf8ByteSize_append, String.utf8ByteSize_singleton]
  rw [counts, String.ofList_toList]

namespace PlainElement

variable {p : PlainElement}

theorem IsShort.shown (short : p.IsShort) :
    p.toElement.time.shown = .ok (Text.decimal p.time) ∧
      p.toElement.peerAsn.shown = .ok (Text.decimal p.peerAsn) :=
  ⟨Value.shown_of_isLegible short.time, Value.shown_of_isLegible short.asn⟩

theorem originAsn_toElement (visible : ¬ p.BlankPath) :
    p.toElement.originAsn = .ok (.ofText? p.lastHop) := by
  unfold Element.originAsn lastHop
  cases path : p.asPath with
  | none => simp [toElement, path, Value.ofText?, Value.isPresent, Points.words]
  | some s =>
    by_cases empty : s = []
    · simp [toElement, path, Value.ofText?, Value.isPresent, empty, Points.words]
    · have words : s.words ≠ [] := by
        rw [Points.words, Ne, Text.wordsBy_eq_nil_iff]
        exact fun blanks => visible ⟨s, path, empty, blanks⟩
      have last := List.getLast?_eq_some_getLast words
      simp [toElement, path, Value.ofText?, Value.isPresent, empty, last]

theorem lineFields_toElement (short : p.IsShort) (visible : ¬ p.BlankPath) :
    p.toElement.lineFields = .ok p.fields := by
  obtain ⟨time, asn⟩ := short.shown
  rw [Element.lineFields, time, asn, originAsn_toElement visible]
  simp [toElement, bind, Except.bind, Value.asTexts, Except.map, fields]

theorem fullLine_toElement (short : p.IsShort) (visible : ¬ p.BlankPath) :
    p.toElement.fullLine = p.joined.encode := by
  rw [Element.fullLine, lineFields_toElement short visible]
  rfl

theorem line_of_long (long : ¬ p.IsShort) (size : Int) :
    p.toElement.line size = .error .tooLongToShow := by
  have fails : p.toElement.lineFields = .error .tooLongToShow := by
    by_cases time : Value.isShort p.time = true
    · have asn : Value.isShort p.peerAsn = false :=
        Bool.eq_false_iff.mpr fun asn => long ⟨time, asn⟩
      simp [Element.lineFields, toElement, Value.shown_int, time, asn, bind, Except.bind]
    · simp [Element.lineFields, toElement, Value.shown_int, time, bind, Except.bind]
  rw [Element.line, Element.fullLine, fails]
  rfl

theorem line_of_blankPath (short : p.IsShort) (blank : p.BlankPath) (size : Int) :
    p.toElement.line size = .error ⟨.noPosition, "list index out of range"⟩ := by
  obtain ⟨s, path, nonempty, blanks⟩ := blank
  have words : s.words = [] := (Text.wordsBy_eq_nil_iff _).mpr blanks
  have origin : p.toElement.originAsn = .error ⟨.noPosition, "list index out of range"⟩ := by
    simp [Element.originAsn, toElement, path, Value.ofText?, Value.isPresent, nonempty, words]
  obtain ⟨time, asn⟩ := short.shown
  have fails : p.toElement.lineFields = .error ⟨.noPosition, "list index out of range"⟩ := by
    rw [Element.lineFields, time, asn, origin]
    simp [toElement, bind, Except.bind]
  rw [Element.line, Element.fullLine, fails]
  rfl

/-- Whether an element has a line in a buffer goes by the bytes of the line alone. -/
structure GoesBySize (p : PlainElement) (line : String) (size : Int) : Prop where
  /-- The line is returned exactly if it fits beside its terminator. -/
  returned : p.toElement.line size = .ok line ↔ (line.utf8ByteSize : Int) ≤ size - 1
  only : ∀ other, p.toElement.line size = .ok other → other = line
  /-- It is refused as too long exactly if it does not fit. -/
  refused : (∃ truncated, p.toElement.line size = .error (.elementTooLong truncated)) ↔
    size - 1 < line.utf8ByteSize
  nothingElse : ∀ f, p.toElement.line size = .error f → ∃ truncated, f = .elementTooLong truncated

theorem goesBySize_of_fullLine {line : String} (full : p.toElement.fullLine = .ok line)
    (size : Int) : p.GoesBySize line size := by
  have fit : p.toElement.line size = Element.fitLine size line := by
    rw [Element.line, full]
    rfl
  unfold Element.fitLine at fit
  rw [Text.byteCount_toList] at fit
  by_cases fits : (line.utf8ByteSize : Int) ≤ size - 1
  · rw [if_pos fits] at fit
    constructor
    case returned => exact ⟨fun _ => fits, fun _ => fit⟩
    case only =>
      intro other given
      injection given.symm.trans fit
    case refused =>
      refine iff_of_false (fun refused => ?_) (by omega)
      obtain ⟨truncated, cut⟩ := refused
      cases fit.symm.trans cut
    case nothingElse =>
      intro f fails
      cases fit.symm.trans fails
  · rw [if_neg fits] at fit
    constructor
    case returned => exact iff_of_false (fun returned => by cases fit.symm.trans returned) fits
    case only =>
      intro other given
      cases fit.symm.trans given
    case refused => exact ⟨fun _ => by omega, fun _ => ⟨_, fit⟩⟩
    case nothingElse =>
      intro f fails
      cases fit.symm.trans fails
      exact ⟨_, rfl⟩

/-- Of fields that are characters: in every buffer the line of the element goes by its bytes alone,
exactly if its integers have no more digits than are shown, and its path is missing, empty or has a
word. Otherwise it fails for its integers, or for want of a last hop, whatever the buffer. -/
theorem line_goes_by_size_iff {p : PlainElement} {line : String} (joined : p.joined = line)
    (size : Int) :
    (p.GoesBySize line size ↔ p.IsShort ∧ ¬ p.BlankPath) ∧
      (¬ p.IsShort → p.toElement.line size = .error .tooLongToShow) ∧
      (p.IsShort → p.BlankPath →
        p.toElement.line size = .error ⟨.noPosition, "list index out of range"⟩) := by
  refine ⟨⟨fun goes => ?_, fun ⟨short, visible⟩ => ?_⟩, fun long => line_of_long long size,
    fun short blank => line_of_blankPath short blank size⟩
  · have short : p.IsShort := Classical.byContradiction fun long => by
      obtain ⟨truncated, same⟩ := goes.nothingElse _ (line_of_long long size)
      cases same
    refine ⟨short, fun blank => ?_⟩
    obtain ⟨truncated, same⟩ := goes.nothingElse _ (line_of_blankPath short blank size)
    cases same
  · refine goesBySize_of_fullLine ?_ size
    rw [fullLine_toElement short visible, joined, Points.encode_ofString]

def foreign : PlainElement := { type := .withdrawal, peerAddress := ↑"é" }

theorem line_goes_by_size_foreign :
    foreign.joined = ↑"W|0|é|0|||||||" ∧ foreign.GoesBySize "W|0|é|0|||||||" 15 ∧
      foreign.toElement.line 15 ≠ .ok "W|0|é|0|||||||" ∧
      foreign.toElement.line 16 = .ok "W|0|é|0|||||||" := by
  have joined : foreign.joined = ↑"W|0|é|0|||||||" := by decide +kernel
  have sound : foreign.IsShort ∧ ¬ foreign.BlankPath := by
    refine ⟨⟨by decide, by decide⟩, ?_⟩
    rintro ⟨path, given, _⟩
    cases given
  have goes (size : Int) := (line_goes_by_size_iff joined size).1.mpr sound
  have bytes : "W|0|é|0|||||||".utf8ByteSize = 15 := by decide +kernel
  refine ⟨joined, goes 15, ?_, (goes 16).returned.mpr ?_⟩
  · rw [Ne, (goes 15).returned, bytes]
    decide
  · rw [bytes]
    decide

def spaced : PlainElement := { type := .announcement, asPath := some ↑" " }

/-- Its fields would fit, but it has no line. -/
theorem blank_path_has_no_line :
    spaced.joined = ↑"A|0||0||| ||||" ∧ ("A|0||0||| ||||".utf8ByteSize : Int) ≤ 65536 - 1 ∧
      spaced.toElement.line 65536 = .error ⟨.noPosition, "list index out of range"⟩ ∧
      ¬ spaced.GoesBySize "A|0||0||| ||||" 65536 := by
  have short : spaced.IsShort := ⟨by decide, by decide⟩
  have blank : spaced.BlankPath := ⟨↑" ", rfl, by decide, List.forall_mem_singleton.mpr rfl⟩
  have fails := line_of_blankPath short blank 65536
  refine ⟨by decide +kernel, by decide +kernel, fails, fun goes => ?_⟩
  obtain ⟨truncated, same⟩ := goes.nothingElse _ fails
  cases same

end PlainElement
end RouteFeed
