import RouteFeed.Proofs.Number
import RouteFeed.Proofs.Retrieval.Declared
import RouteFeed.Proofs.Retrieval.Writing
import RouteFeed.Proofs.Text.Words

/-! Lines split at their bars. If no text that is written holds a bar, the parts of a line are its
fields, in order and number; so lines that are the same agree in every field. -/
namespace RouteFeed

namespace Points

def parts (line : Points) : List Points := line.splitOn (.char '|')

def IsBarless (s : Points) : Prop := .char '|' ∉ s

instance (s : Points) : Decidable (IsBarless s) := inferInstanceAs (Decidable (_ ∉ s))

/-- Fields without a bar that are joined by bars are the parts of the line. -/
theorem parts_intercalate {fields : List Points} (some : fields ≠ [])
    (barless : ∀ s ∈ fields, IsBarless s) : parts (intercalate "|" fields) = fields :=
  List.splitOn_intercalate _ barless some

theorem isBarless_decimal (n : Int) : IsBarless ↑(Text.decimal n) := by
  rw [IsBarless, char_mem_ofString]
  intro mem
  rcases Text.isDigit_of_mem_decimal mem with same | digit
  · cases same
  · cases digit

theorem isBarless_words {words : List Points} (barless : ∀ s ∈ words, IsBarless s) :
    IsBarless (intercalate " " words) := by
  induction words with
  | nil => exact List.not_mem_nil
  | cons word words ih =>
    obtain ⟨first, others⟩ := List.forall_mem_cons.mp barless
    have rest := ih others
    unfold IsBarless intercalate at *
    cases words with
    | nil => simpa using first
    | cons next words =>
      rw [List.intercalate_cons_cons]
      simp [first, rest]

end Points

open Points (IsBarless)

theorem DumpType.ofValue_name (t : DumpType) : ofValue (.text t.name) = .ok t := by
  cases t <;> rfl

theorem DumpType.name_injective : Function.Injective name :=
  injective_of_reads (fun s => ofValue (.text s)) ofValue_name

theorem DumpPosition.ofValue_name (p : DumpPosition) : ofValue (.text p.name) = .ok p := by
  cases p <;> rfl

theorem DumpPosition.name_injective : Function.Injective name :=
  injective_of_reads (fun s => ofValue (.text s)) ofValue_name

theorem RecordStatus.ofValue_name (s : RecordStatus) : ofValue (.text s.name) = .ok s := by
  cases s <;> rfl

theorem RecordStatus.name_injective : Function.Injective name :=
  injective_of_reads (fun s => ofValue (.text s)) ofValue_name

namespace Record

/-- The texts that a record is given hold no bar. -/
def Barless (r : Record) : Prop := IsBarless r.project ∧ IsBarless r.collector

/-- The times have no more digits than are shown. -/
structure IsShort (r : Record) : Prop where
  time : Value.isShort r.time = true
  dumpTime : Value.isShort r.dumpTime = true

/-- The fields of the line of a record; the last one is empty. -/
def fields (r : Record) : List Points := [
  Text.decimal r.time, r.project, r.collector, r.dumpType.name, r.status.name,
  Text.decimal r.dumpTime, r.dumpPosition.name, []]

theorem line_of_isShort {r : Record} (short : r.IsShort) :
    r.line = .ok (Points.intercalate "|" r.fields) := by
  rw [line, Value.shown_int, Value.shown_int, short.time, short.dumpTime]
  simp [bind, Except.bind, pure, Except.pure, Points.intercalate, fields,
    List.intercalate_cons_cons]

/-- Only a record whose times can be shown has a line. -/
theorem isShort_of_line {r : Record} {line : Points} (given : r.line = .ok line) : r.IsShort := by
  obtain ⟨time, first, given⟩ := bind_ok given
  obtain ⟨dumpTime, second, _⟩ := bind_ok given
  exact ⟨Value.isShort_of_shown first, Value.isShort_of_shown second⟩

theorem parts_line {r : Record} (barless : r.Barless) {line : Points} (given : r.line = .ok line) :
    line.parts = r.fields := by
  have dumpType : IsBarless r.dumpType.name := by cases r.dumpType <;> decide
  have status : IsBarless r.status.name := by cases r.status <;> decide
  have position : IsBarless r.dumpPosition.name := by cases r.dumpPosition <;> decide
  have ending : IsBarless [] := by decide
  obtain rfl : Points.intercalate "|" r.fields = line :=
    Except.ok.inj ((line_of_isShort (isShort_of_line given)).symm.trans given)
  refine Points.parts_intercalate (by simp [fields]) ?_
  simp [fields, Points.isBarless_decimal, barless.1, barless.2, dumpType, status, position, ending]

theorem metadata_of_line {r r' : Record} (barless : r.Barless) (barless' : r'.Barless)
    {line : Points} (given : r.line = .ok line) (same : r'.line = .ok line) :
    r.time = r'.time ∧ r.project = r'.project ∧ r.collector = r'.collector ∧
      r.dumpType = r'.dumpType ∧ r.status = r'.status ∧ r.dumpTime = r'.dumpTime ∧
      r.dumpPosition = r'.dumpPosition := by
  have fields : r.fields = r'.fields :=
    (parts_line barless given).symm.trans (parts_line barless' same)
  simp only [Record.fields, List.cons.injEq, and_true, Points.ofString_inj] at fields
  obtain ⟨time, project, collector, dumpType, status, dumpTime, position⟩ := fields
  exact ⟨Text.decimal_injective time, project, collector, DumpType.name_injective dumpType,
    RecordStatus.name_injective status, Text.decimal_injective dumpTime,
    DumpPosition.name_injective position⟩

end Record

theorem ElementType.ofValue_letter (t : ElementType) : ofValue (.text t.letter) = .ok t := by
  cases t <;> rfl

theorem ElementType.letter_injective : Function.Injective letter :=
  injective_of_reads (fun s => ofValue (.text s)) ofValue_letter

namespace PlainElement

def texts (p : PlainElement) : List Points :=
  p.peerAddress :: p.communities ++
    [p.network, p.nextHop, p.asPath, p.oldState, p.newState, p.origin].filterMap id

/-- They hold no bar. -/
def Barless (p : PlainElement) : Prop := ∀ s ∈ p.texts, IsBarless s

def dumpParts (p : PlainElement) : List Points :=
  let route (table letter : String) : List Points := [
    table, Text.decimal p.time, letter, p.peerAddress, Text.decimal p.peerAsn, p.network.getD [],
    p.asPath.getD [], p.origin.getD [], p.nextHop.getD [], "0", "0",
    Points.intercalate " " p.communities, "NAG", [], []]
  match p.type with
  | .rib => route "TABLE_DUMP2" "B"
  | .announcement => route "BGP4MP" "A"
  | .withdrawal =>
    ["BGP4MP", Text.decimal p.time, "W", p.peerAddress, Text.decimal p.peerAsn, p.network.getD []]
  | .peerState =>
    ["BGP4MP", Text.decimal p.time, "STATE", p.peerAddress, Text.decimal p.peerAsn,
      p.oldState.getD [], p.newState.getD []]

variable {p q : PlainElement}

theorem dumpLine_toElement (short : p.IsShort) :
    p.toElement.dumpLine = .ok (Points.intercalate "|" p.dumpParts) := by
  obtain ⟨time, asn⟩ := short.shown
  have communities : p.toElement.communities.joinWords =
      .ok (Points.intercalate " " p.communities) := Value.joinWords_texts _
  have fields : p.toElement.dumpFields (Points.intercalate " " p.communities) = .ok p.dumpParts := by
    rw [Element.dumpFields, time, asn, dumpParts]
    simp only [toElement, Value.shown_text, Element.fieldText_ofText?, bind, Except.bind]
    cases p.type <;> rfl
  rw [Element.dumpLine, communities]
  simp only [bind, Except.bind, fields]
  rfl

theorem joined_of_dumpLine {line : Points} (given : p.toElement.dumpLine = .ok line) :
    line = Points.intercalate "|" p.dumpParts := by
  obtain ⟨communities, _, made⟩ := bind_ok given
  obtain ⟨fields, made, _⟩ := bind_ok made
  obtain ⟨time, first, made⟩ := bind_ok made
  obtain ⟨address, _, made⟩ := bind_ok made
  obtain ⟨asn, second, _⟩ := bind_ok made
  have short : p.IsShort := ⟨Value.isShort_of_shown first, Value.isShort_of_shown second⟩
  exact (Except.ok.inj ((dumpLine_toElement short).symm.trans given)).symm

namespace Barless

variable (h : p.Barless)

include h

theorem given (s? : Option Points)
    (mem : s? ∈ [p.network, p.nextHop, p.asPath, p.oldState, p.newState, p.origin]) :
    IsBarless (s?.getD []) := by
  cases s? with
  | none => exact List.not_mem_nil
  | some s => exact h s (List.mem_append_right _ (List.mem_filterMap.mpr ⟨some s, mem, rfl⟩))

theorem address : IsBarless p.peerAddress := h _ (by simp [texts])

theorem communities : IsBarless (Points.intercalate " " p.communities) :=
  Points.isBarless_words fun s mem => h s (by simp [texts, mem])

theorem lastHop : IsBarless (p.lastHop.getD []) := by
  cases last : p.lastHop with
  | none => exact List.not_mem_nil
  | some hop =>
    exact fun mem => h.given p.asPath (by simp) ((Text.isLastWord_of_words last).mem mem)

theorem fields : ∀ s ∈ p.fields, IsBarless s := by
  have letter : IsBarless p.type.letter := by cases p.type <;> decide
  simp [PlainElement.fields, letter, Points.isBarless_decimal, h.address, h.communities, h.lastHop,
    h.given p.network, h.given p.nextHop, h.given p.asPath, h.given p.oldState, h.given p.newState]

theorem dumpParts : ∀ s ∈ p.dumpParts, IsBarless s := by
  have marks : ∀ s ∈ ["TABLE_DUMP2", "BGP4MP", "B", "A", "W", "STATE", "0", "NAG"],
      IsBarless s := by decide
  have empty : IsBarless [] := List.not_mem_nil
  simp only [List.forall_mem_cons] at marks
  unfold PlainElement.dumpParts
  cases p.type <;>
    simp [marks, empty, Points.isBarless_decimal, h.address, h.communities, h.given p.network,
      h.given p.nextHop, h.given p.asPath, h.given p.oldState, h.given p.newState, h.given p.origin]

end Barless

/-- Two elements agree in every field of their lines. -/
structure SameFields (p q : PlainElement) : Prop where
  type : p.type = q.type
  time : p.time = q.time
  address : p.peerAddress = q.peerAddress
  asn : p.peerAsn = q.peerAsn
  network : p.network.getD [] = q.network.getD []
  nextHop : p.nextHop.getD [] = q.nextHop.getD []
  path : p.asPath.getD [] = q.asPath.getD []
  lastHop : p.lastHop.getD [] = q.lastHop.getD []
  communities : Points.intercalate " " p.communities = Points.intercalate " " q.communities
  oldState : p.oldState.getD [] = q.oldState.getD []
  newState : p.newState.getD [] = q.newState.getD []

/-- Two elements agree in every field of their lines in the layout of a dump, which has those that
belong to their type. -/
structure SameDumpFields (p q : PlainElement) : Prop where
  type : p.type = q.type
  time : p.time = q.time
  address : p.peerAddress = q.peerAddress
  asn : p.peerAsn = q.peerAsn
  network : p.type ≠ .peerState → p.network.getD [] = q.network.getD []
  route : p.type = .rib ∨ p.type = .announcement →
    p.asPath.getD [] = q.asPath.getD [] ∧ p.origin.getD [] = q.origin.getD [] ∧
      p.nextHop.getD [] = q.nextHop.getD [] ∧
      Points.intercalate " " p.communities = Points.intercalate " " q.communities
  states : p.type = .peerState →
    p.oldState.getD [] = q.oldState.getD [] ∧ p.newState.getD [] = q.newState.getD []

theorem sameFields_of_fields (same : p.fields = q.fields) : p.SameFields q := by
  simp only [fields, List.cons.injEq, and_true, Points.ofString_inj] at same
  obtain ⟨letter, time, address, asn, network, nextHop, path, lastHop, communities, oldState,
    newState⟩ := same
  exact ⟨ElementType.letter_injective letter, Text.decimal_injective time, address,
    Text.decimal_injective asn, network, nextHop, path, lastHop, communities, oldState, newState⟩

theorem sameDumpFields_of_dumpParts (same : p.dumpParts = q.dumpParts) : p.SameDumpFields q := by
  unfold dumpParts at same
  have injective (m n : Int) : Text.decimal m = Text.decimal n ↔ m = n :=
    Text.decimal_injective.eq_iff
  -- lines of different types differ in their number of parts, or in a mark
  cases first : p.type <;> cases second : q.type <;>
    simp only [first, second, List.cons.injEq, Points.ofString_inj, injective] at same <;>
    simp at same
  case rib.rib | announcement.announcement =>
    obtain ⟨time, address, asn, network, path, origin, nextHop, communities⟩ := same
    exact ⟨first.trans second.symm, time, address, asn, fun _ => network,
      fun _ => ⟨path, origin, nextHop, communities⟩, by simp [first]⟩
  case withdrawal.withdrawal =>
    obtain ⟨time, address, asn, network⟩ := same
    exact ⟨first.trans second.symm, time, address, asn, fun _ => network, by simp [first],
      by simp [first]⟩
  case peerState.peerState =>
    obtain ⟨time, address, asn, states⟩ := same
    exact ⟨first.trans second.symm, time, address, asn, by simp [first], by simp [first],
      fun _ => states⟩

theorem joined_of_line {size : Int} {line : String} (returned : p.toElement.line size = .ok line) :
    ↑line = p.joined := by
  have short : p.IsShort := Classical.byContradiction fun long => by
    cases (line_of_long long size).symm.trans returned
  have visible : ¬ p.BlankPath := by
    intro blank
    cases (line_of_blankPath short blank size).symm.trans returned
  obtain ⟨whole, full, fitted⟩ := bind_ok returned
  rw [fullLine_toElement short visible] at full
  have goes := goesBySize_of_fullLine ((fullLine_toElement short visible).trans full) size
  rw [goes.only line returned]
  exact (Points.encode_eq_ok_iff.mp full).symm

theorem parts_joined (barless : p.Barless) : p.joined.parts = p.fields :=
  Points.parts_intercalate (List.cons_ne_nil _ _) barless.fields

theorem lastHop_isLastWord (visible : ¬ p.BlankPath) :
    (p.asPath.getD [] = [] ∧ p.lastHop = none) ∨
      ∃ hop, p.lastHop = some hop ∧ Text.IsLastWord CodePoint.isBlank (p.asPath.getD []) hop := by
  cases last : p.lastHop with
  | some hop => exact .inr ⟨hop, rfl, Text.isLastWord_of_words last⟩
  | none =>
    have blanks := (Text.wordsBy_eq_nil_iff _).mp (List.getLast?_eq_none_iff.mp last)
    refine .inl ⟨?_, rfl⟩
    cases path : p.asPath with
    | none => rfl
    | some s =>
      rw [path] at blanks
      exact Classical.byContradiction fun nonempty => visible ⟨s, path, nonempty, blanks⟩

end PlainElement

/-- Lines are made of their fields. These are given back when a line is split at its bars, if no
text that is written holds one. -/
structure LinesSplitBack : Prop where
  record : ∀ (r : Record) (line : Points), r.Barless → r.line = .ok line →
    line.parts = r.fields ∧ r.fields.length = 7 + 1
  /-- Only a time with too many digits keeps a record from having a line. -/
  recordLine : ∀ r : Record, (∃ line, r.line = .ok line) ↔ r.IsShort
  element : ∀ p : PlainElement, p.Barless → ∀ size (line : String),
    p.toElement.line size = .ok line → Points.parts line = p.fields ∧ p.fields.length = 11
  /-- An element whose fields are characters has a line unless its path has no word, or an integer in
  it too many digits. -/
  returned : ∀ (p : PlainElement) (line : String), p.joined = line → p.IsShort → ¬ p.BlankPath →
    ∃ size, p.toElement.line size = .ok line
  lastHop : ∀ p : PlainElement, ¬ p.BlankPath → (p.asPath.getD [] = [] ∧ p.lastHop = none) ∨
    ∃ hop, p.lastHop = some hop ∧ Text.IsLastWord CodePoint.isBlank (p.asPath.getD []) hop
  /-- A dump has a line for each element, in order, whatever holds the elements. -/
  dump : ∀ (r : Record) (ps : List PlainElement),
    r.elements.1 = .ok (ps.map PlainElement.toElement) → (∀ p ∈ ps, p.IsShort ∧ p.Barless) →
      ∃ lines, r.dump.1 = .ok lines ∧ lines.map Points.parts = ps.map PlainElement.dumpParts
  dumpCount : ∀ p : PlainElement, p.dumpParts.length =
    match p.type with
    | .rib | .announcement => 15
    | .withdrawal => 6
    | .peerState => 7
  sameRecord : ∀ r r' : Record, r.Barless → r'.Barless → ∀ line,
    r.line = .ok line → r'.line = .ok line →
      r.time = r'.time ∧ r.project = r'.project ∧ r.collector = r'.collector ∧
        r.dumpType = r'.dumpType ∧ r.status = r'.status ∧ r.dumpTime = r'.dumpTime ∧
        r.dumpPosition = r'.dumpPosition
  sameElement : ∀ p q : PlainElement, p.Barless → q.Barless → ∀ size size' line,
    p.toElement.line size = .ok line → q.toElement.line size' = .ok line → p.SameFields q
  sameDump : ∀ p q : PlainElement, p.Barless → q.Barless → ∀ line,
    p.toElement.dumpLine = .ok line → q.toElement.dumpLine = .ok line → p.SameDumpFields q

theorem lines_split_back : LinesSplitBack := by
  have parts {p : PlainElement} (barless : p.Barless) :
      (Points.intercalate "|" p.dumpParts).parts = p.dumpParts := by
    refine Points.parts_intercalate ?_ barless.dumpParts
    unfold PlainElement.dumpParts
    cases p.type <;> exact List.cons_ne_nil _ _
  constructor
  case record => exact fun r line barless given => ⟨Record.parts_line barless given, rfl⟩
  case recordLine =>
    exact fun r => ⟨fun ⟨line, given⟩ => Record.isShort_of_line given,
      fun short => ⟨_, Record.line_of_isShort short⟩⟩
  case element =>
    intro p barless size line returned
    rw [PlainElement.joined_of_line returned]
    exact ⟨PlainElement.parts_joined barless, rfl⟩
  case returned =>
    intro p line joined short visible
    -- room for the line and its terminator
    refine ⟨line.utf8ByteSize + 1, ?_⟩
    have full : p.toElement.fullLine = .ok line := by
      rw [PlainElement.fullLine_toElement short visible, joined, Points.encode_ofString]
    exact (PlainElement.goesBySize_of_fullLine full _).returned.mpr (by omega)
  case lastHop => exact fun p => PlainElement.lastHop_isLastWord
  case dump =>
    intro r ps given sound
    let text (e : Element) : Points := e.dumpLine.toOption.getD []
    have shown : ∀ p ∈ ps, text p.toElement = Points.intercalate "|" p.dumpParts := fun p mem => by
      simp [text, PlainElement.dumpLine_toElement (sound p mem).1, Except.toOption]
    have lines : ∀ e ∈ ps.map PlainElement.toElement, e.dumpLine = .ok (text e) :=
      List.forall_mem_map.mpr fun p mem => by
        rw [PlainElement.dumpLine_toElement (sound p mem).1, shown p mem]
    obtain ⟨left, done, _⟩ := Record.dump_of_elements given lines
    refine ⟨_, congrArg Prod.fst done, ?_⟩
    rw [List.map_map, List.map_map]
    refine List.map_congr_left fun p mem => ?_
    rw [Function.comp_apply, Function.comp_apply, shown p mem]
    exact parts (sound p mem).2
  case dumpCount =>
    intro p
    unfold PlainElement.dumpParts
    cases p.type <;> rfl
  case sameRecord => exact fun r r' barless barless' line => Record.metadata_of_line barless barless'
  case sameElement =>
    intro p q barless barless' size size' line first second
    refine PlainElement.sameFields_of_fields ?_
    rw [← PlainElement.parts_joined barless, ← PlainElement.parts_joined barless',
      ← PlainElement.joined_of_line first, ← PlainElement.joined_of_line second]
  case sameDump =>
    intro p q barless barless' line first second
    refine PlainElement.sameDumpFields_of_dumpParts ?_
    rw [← parts barless, ← parts barless', ← PlainElement.joined_of_dumpLine first,
      ← PlainElement.joined_of_dumpLine second]

/-- The parts of a line, with empty ones between bars and at its end. -/
example : Points.parts "S|50|192.0.2.1|65001||||||established|idle" =
    ["S", "50", "192.0.2.1", "65001", "", "", "", "", "", "established", "idle"] := by
  decide +kernel

end RouteFeed
