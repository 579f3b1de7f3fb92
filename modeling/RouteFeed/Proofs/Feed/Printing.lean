import RouteFeed.Proofs.Digits
import RouteFeed.Proofs.Feed.Line
import RouteFeed.Proofs.Retrieval.Fields

/-! Which elements of a live feed can be printed. A conversion makes integers of the time and the
number of a peer and texts of paths and communities; the address, networks, next hops and states are
what stands in the message. So a line can fail, or fall apart, for what stands there and was not
looked at. -/
namespace RouteFeed

/-- Neither a bar nor an end of a line nor half of a pair. -/
def CodePoint.Stays : CodePoint → Prop
  | .char c => c ≠ '|' ∧ Text.isLineEnd c = false
  | .half _ => False

theorem Points.stays_iff (s : String) : (∀ p ∈ ofString s, p.Stays) ↔ Text.IsField s := by
  simp [ofString, CodePoint.Stays, Text.IsField]

theorem Points.string_of_stays {ps : Points} (stays : ∀ p ∈ ps, p.Stays) :
    ∃ s : String, ps = s := by
  refine exists_string_iff.mpr fun p mem => ?_
  cases p with
  | char c => rfl
  | half place => exact (stays _ mem).elim

theorem Points.mem_intercalate {separator : String} {parts : List Points} {part : Points}
    (mem : part ∈ parts) {p : CodePoint} (inside : p ∈ part) : p ∈ intercalate separator parts := by
  induction parts with
  | nil => cases mem
  | cons first parts ih =>
    unfold intercalate at ih ⊢
    cases parts with
    | nil =>
      cases List.mem_singleton.mp mem
      simpa using inside
    | cons next parts =>
      rw [List.intercalate_cons_cons]
      rcases List.mem_cons.mp mem with rfl | mem
      · exact List.mem_append_left _ (List.mem_append_left _ inside)
      · exact List.mem_append_right _ (ih mem)

theorem Points.exists_strings {parts : List Points} (each : ∀ part ∈ parts, ∃ s : String, part = s) :
    ∃ ss : List String, parts = ss.map ofString := by
  induction parts with
  | nil => exact ⟨[], rfl⟩
  | cons part parts ih =>
    obtain ⟨⟨s, rfl⟩, others⟩ := List.forall_mem_cons.mp each
    obtain ⟨ss, rfl⟩ := ih others
    exact ⟨s :: ss, rfl⟩

theorem Points.strings_of_intercalate {separator whole : String} {parts : List Points}
    (joined : intercalate separator parts = whole) : ∃ ss : List String, parts = ss.map ofString :=
  exists_strings fun _ mem => exists_string_iff.mpr fun p inside =>
    exists_string_iff.mp ⟨whole, joined⟩ p (mem_intercalate mem inside)

theorem Text.isField_words_iff {words : List String} :
    IsField (String.intercalate " " words) ↔ ∀ s ∈ words, IsField s := by
  have space : ' ' ≠ '|' ∧ isLineEnd ' ' = false := by decide
  have joined : (String.intercalate " " words).toList =
      [' '].intercalate (words.map String.toList) := String.toList_intercalate
  rw [IsField, joined, forall_intercalate_iff _ space, List.forall_mem_map]
  rfl

theorem Value.Printable.stays_iff {v : Value} (h : v.Printable) :
    (∀ p ∈ v.plain, p.Stays) ↔ Text.IsField v.written := by
  rw [h.plain, Points.stays_iff]

namespace Element

theorem isField_cell_iff {v : Value} (h : v.Printable) :
    Text.IsField (cell v) ↔ ∀ p ∈ v.plain, p.Stays := by
  cases v with
  | null => exact iff_of_true nofun ((Points.stays_iff "None").mpr (by decide))
  | _ => exact h.stays_iff.symm

theorem printable_of_fieldText {v : Value} {s : String} (shown : fieldText v = .ok s) :
    v.Printable := by
  cases v with
  | null => exact Value.printable_null
  | _ => exact ⟨s, shown⟩

/-- The address is a text, and the path is none, or empty, or has a word. -/
structure HasTexts (e : Element) : Prop where
  address : ∃ s, e.peerAddress = .text s
  path : ∀ s, e.asPath = .text s → s = [] ∨ ∃ p ∈ s, p.isBlank = false

def told (e : Element) : List Value :=
  [e.peerAddress, e.network, e.nextHop, e.asPath, e.newState] ++ e.communities.parts?.getD []

/-- The values that come from a message stay within their fields, and are characters. -/
def Contained (e : Element) : Prop := ∀ v ∈ e.told, ∀ p ∈ v.plain, p.Stays

end Element

namespace Live

/-- What is known of every element of a message of a peer. Its integers can be shown. -/
structure Peer.Sends (p : Peer) (e : Element) : Prop where
  time : e.time = .int p.time
  asn : e.peerAsn = .int p.asn
  communities : ∃ ss, e.communities = Value.texts ss
  path : e.asPath = .null ∨ ∃ s, e.asPath = .text s
  oldState : e.oldState = .null
  inReach : ∀ v ∈ [e.time, e.peerAsn, e.network, e.nextHop, e.newState], v.InReach

variable {p : Peer} {data : Value} {e : Element} {es : List Element}

theorem communities_texts {pairs communities : List Value}
    (h : pairs.mapM communityText = .ok communities) :
    ∃ ss, Value.list communities = Value.texts ss := by
  induction pairs generalizing communities with
  | nil =>
    cases h
    exact ⟨[], rfl⟩
  | cons pair pairs ih =>
    rw [List.mapM_cons] at h
    obtain ⟨first, made, h⟩ := bind_ok h
    obtain ⟨others, rest, h⟩ := bind_ok h
    cases h
    obtain ⟨parts, _, rfl⟩ := map_ok made
    obtain ⟨ss, same⟩ := ih rest
    cases same
    exact ⟨_ :: ss, rfl⟩

structure Peer.IsShort (p : Peer) : Prop where
  time : Value.isShort p.time = true
  asn : Value.isShort p.asn = true

theorem Peer.IsShort.sends_plain (short : p.IsShort) (type : ElementType) {network newState : Value}
    (here : network.InReach) (there : newState.InReach) :
    p.Sends { p.element type with network, newState } :=
  ⟨rfl, rfl, ⟨[], rfl⟩, .inl rfl, rfl, by
    simp [Peer.element, here, there, Value.InReach.int short.time, Value.InReach.int short.asn,
      Value.InReach.null]⟩

section Announced

variable {route : Route} (short : p.IsShort)
  (communities : ∃ ss, route.communities = Value.texts ss) (path : ∃ s, route.path = .text s)

include short communities path

theorem announced_sends {announcement : Value} (inside : announcement.InReach)
    (h : announced p route announcement = .ok es) : ∀ e ∈ es, p.Sends e := by
  obtain ⟨prefixes, named, h⟩ := bind_ok h
  obtain ⟨networks, listed, h⟩ := bind_ok h
  obtain ⟨nextHop, hop, h⟩ := bind_ok h
  cases h
  have each := (inside.get (.list (List.forall_mem_nil _)) named).parts listed
  have reach := inside.get .null hop
  intro e he
  obtain ⟨network, mem, rfl⟩ := List.mem_map.mp he
  refine ⟨rfl, rfl, communities, .inr path, rfl, ?_⟩
  simp [Peer.element, each network mem, reach, Value.InReach.int short.time,
    Value.InReach.int short.asn, Value.InReach.null]

theorem allAnnounced_sends {announcements : List Value}
    (inside : ∀ announcement ∈ announcements, announcement.InReach)
    (h : allAnnounced p route announcements = .ok es) : ∀ e ∈ es, p.Sends e := by
  induction announcements generalizing es with
  | nil =>
    cases h
    nofun
  | cons announcement announcements ih =>
    obtain ⟨first, here, h⟩ := bind_ok h
    obtain ⟨others, rest, h⟩ := bind_ok h
    cases h
    obtain ⟨head, tail⟩ := List.forall_mem_cons.mp inside
    exact List.forall_mem_append.mpr
      ⟨announced_sends short communities path head here, ih tail rest⟩

end Announced

theorem withdrawn_sends (short : p.IsShort) {networks : List Value}
    (inside : ∀ network ∈ networks, network.InReach) : ∀ e ∈ withdrawn p networks, p.Sends e := by
  intro e he
  obtain ⟨network, mem, rfl⟩ := List.mem_map.mp he
  exact short.sends_plain .withdrawal (inside network mem) .null

section Message

variable (inside : data.InReach)

include inside

theorem updateElements_sends (short : p.IsShort) (h : updateElements p data = .ok es) :
    ∀ e ∈ es, p.Sends e := by
  have nothing : Value.InReach (.list []) := .list (List.forall_mem_nil _)
  obtain ⟨path, _, h⟩ := bind_ok h
  obtain ⟨hops, _, h⟩ := bind_ok h
  obtain ⟨community, _, h⟩ := bind_ok h
  obtain ⟨pairs, _, h⟩ := bind_ok h
  obtain ⟨communities, made, h⟩ := bind_ok h
  obtain ⟨origin, _, h⟩ := bind_ok h
  obtain ⟨list, given, h⟩ := bind_ok h
  obtain ⟨announcements, items, h⟩ := bind_ok h
  obtain ⟨first, announced, h⟩ := bind_ok h
  obtain ⟨others, taken, h⟩ := bind_ok h
  obtain ⟨networks, listed, h⟩ := bind_ok h
  cases h
  exact List.forall_mem_append.mpr
    ⟨allAnnounced_sends short (communities_texts made) ⟨_, rfl⟩
        ((inside.get nothing given).parts items) announced,
      withdrawn_sends short ((inside.get nothing taken).parts listed)⟩

theorem elements_sends (short : p.IsShort) (h : elements p data = .ok es) :
    ∀ e ∈ es, p.Sends e := by
  obtain ⟨type, _, h⟩ := bind_ok h
  split at h
  · exact updateElements_sends inside short h
  · obtain ⟨state, told, h⟩ := bind_ok h
    cases h
    exact List.forall_mem_singleton.mpr
      (short.sends_plain .peerState .null (inside.get .null told))
  · cases h
    nofun

theorem content_sends (h : content data = .ok (p, es)) : ∀ e ∈ es, p.Sends e := by
  obtain ⟨timestamp, stamped, h⟩ := bind_ok h
  obtain ⟨time, timed, h⟩ := bind_ok h
  obtain ⟨address, _, h⟩ := bind_ok h
  obtain ⟨number, numbered, h⟩ := bind_ok h
  obtain ⟨asn, counted, h⟩ := bind_ok h
  obtain ⟨found, made, h⟩ := bind_ok h
  cases h
  have zero : Value.InReach (.int 0) := .int (by decide)
  exact elements_sends inside
    ⟨(inside.get zero stamped).isShort_of_toInteger timed,
      (inside.get zero numbered).isShort_of_toInteger counted⟩ made

theorem convert_sends {r : Record} (h : convert data = .ok r) :
    r.status = .valid ∧ ∃ p es, r.elements.1 = .ok es ∧ ∀ e ∈ es, Peer.Sends p e := by
  unfold convert at h
  split at h
  · cases h
  · rename_i p es converted
    split at h
    · cases h
    · cases h
      refine ⟨rfl, p, es, ?_, content_sends inside converted⟩
      simp [Record.elements, Record.openCursor, Record.drain, Record.isValid, makeRecord]

end Message

namespace Peer.Sends

variable (h : p.Sends e)

include h

/-- An element has a line only if everything in it is characters, its address is a text, and its path
is no blank text. -/
theorem printable {line : String} (full : e.fullLine = .ok line) : e.Printable ∧ e.HasTexts := by
  -- there is a line, so that each of its fields was shown
  obtain ⟨fields, made, encoded⟩ := bind_ok full
  obtain ⟨time, timeShown, made⟩ := bind_ok made
  obtain ⟨asn, asnShown, made⟩ := bind_ok made
  obtain ⟨network, networkShown, made⟩ := bind_ok made
  obtain ⟨nextHop, nextHopShown, made⟩ := bind_ok made
  obtain ⟨path, pathShown, made⟩ := bind_ok made
  obtain ⟨origin, found, made⟩ := bind_ok made
  obtain ⟨hop, _, made⟩ := bind_ok made
  obtain ⟨communities, joined, made⟩ := bind_ok made
  obtain ⟨oldState, oldShown, made⟩ := bind_ok made
  obtain ⟨newState, newShown, made⟩ := bind_ok made
  obtain ⟨s, address⟩ : ∃ s, e.peerAddress = .text s := by
    cases address : e.peerAddress with
    | text s => exact ⟨s, rfl⟩
    | _ => simp [address, Value.asTexts, Except.map] at made
  -- a line in UTF-8 has no half of a pair in any field
  obtain ⟨strings, same⟩ := Points.strings_of_intercalate (Points.encode_eq_ok_iff.mp encoded)
  have each : ∀ part ∈ fields, ∃ s : String, part = s := by
    rw [same]
    exact List.forall_mem_map.mpr fun s _ => ⟨s, rfl⟩
  have shown : fields = [↑e.type.letter, time, s, asn, network, nextHop, path, hop, communities,
      oldState, newState] := by
    simpa [address, Value.asTexts, Except.map] using made.symm
  simp only [shown, List.forall_mem_cons, List.not_mem_nil, false_imp_iff, implies_true] at each
  obtain ⟨-, ⟨_, rfl⟩, ⟨_, rfl⟩, ⟨_, rfl⟩, ⟨_, rfl⟩, ⟨_, rfl⟩, ⟨_, rfl⟩, -, ⟨_, rfl⟩, ⟨_, rfl⟩,
    ⟨_, rfl⟩, -⟩ := each
  refine ⟨⟨⟨_, address⟩, ?_, ?_, ?_⟩, ⟨_, address⟩, fun s path => Element.path_visible path found⟩
  · obtain ⟨parts, given⟩ := h.communities
    rw [given, Value.joinWords_texts] at joined
    obtain ⟨ss, rfl⟩ := Points.strings_of_intercalate (Except.ok.inj joined)
    exact ⟨ss, given⟩
  · rcases h.path with none | ⟨s, given⟩
    · exact .inl none
    · rw [given] at pathShown
      obtain rfl : s = _ := by simpa [Element.fieldText] using pathShown
      refine .inr ⟨_, given, ?_⟩
      simpa [CodePoint.isBlank, Points.ofString] using Element.path_visible given found
  · simp only [List.forall_mem_cons, List.not_mem_nil, false_imp_iff, implies_true, and_true]
    exact ⟨⟨_, timeShown⟩, ⟨_, asnShown⟩, Element.printable_of_fieldText networkShown,
      Element.printable_of_fieldText nextHopShown, Element.printable_of_fieldText oldShown,
      Element.printable_of_fieldText newShown⟩

/-- The line of an element falls apart only for a value that comes from its message. -/
theorem hasFields_iff (printable : e.Printable) : Text.HasFields 11 e.text ↔ e.Contained := by
  obtain ⟨ss, given⟩ := printable.communities
  have peer : e.peerAddress.Printable := by
    obtain ⟨s, address⟩ := printable.address
    exact address ▸ Value.printable_text s
  obtain ⟨_, _, network, nextHop, _, newState⟩ := printable.shows
  have letter : Text.IsField e.type.letter := by cases e.type <;> decide
  have time : Text.IsField e.time.written := by
    rw [h.time, Value.written_int]
    exact Text.isField_decimal _
  have asn : Text.IsField e.peerAsn.written := by
    rw [h.asn, Value.written_int]
    exact Text.isField_decimal _
  have oldState : Text.IsField (Element.cell e.oldState) := by
    rw [h.oldState]
    exact List.forall_mem_nil _
  have communities : Text.IsField e.communityText ↔
      ∀ v ∈ e.communities.parts?.getD [], ∀ p ∈ v.plain, p.Stays := by
    rw [Element.communityText_of_texts given, Text.isField_words_iff, given]
    simp [Value.texts, Value.parts?, Value.plain, Points.stays_iff]
  have origin (path : Text.IsField (Element.cell e.asPath)) : Text.IsField e.originText := by
    rcases printable.path with none | ⟨s, text, _⟩
    · rw [Element.originText, none]
      exact List.forall_mem_nil _
    · rw [text, Element.cell_text] at path
      exact fun c mem => path c (Element.mem_path_of_mem_originText text mem)
  rw [e.hasFields_text_iff]
  unfold Element.Contained Element.told
  simp only [Element.cells, List.forall_mem_append, List.forall_mem_cons, List.not_mem_nil,
    false_imp_iff, implies_true, letter, time, asn, oldState, communities,
    Element.isField_cell_iff network, Element.isField_cell_iff nextHop,
    Element.isField_cell_iff newState, ← Element.isField_cell_iff printable.asPath, peer.stays_iff]
  tauto

theorem printable_of_contained (texts : e.HasTexts) (contained : e.Contained) : e.Printable := by
  unfold Element.Contained Element.told at contained
  simp only [List.forall_mem_append, List.forall_mem_cons] at contained
  obtain ⟨⟨address, network, nextHop, path, newState, -⟩, communities⟩ := contained
  have shows {v : Value} (reach : v.InReach) (stays : ∀ p ∈ v.plain, p.Stays) : v.Printable :=
    Value.printable_iff.mpr ⟨reach.isLegible, Points.string_of_stays stays⟩
  have reach := h.inReach
  simp only [List.forall_mem_cons] at reach
  obtain ⟨time, asn, ownNetwork, ownHop, ownState, -⟩ := reach
  constructor
  case address =>
    obtain ⟨s, given⟩ := texts.address
    rw [given] at address
    obtain ⟨t, rfl⟩ := Points.string_of_stays address
    exact ⟨t, given⟩
  case communities =>
    obtain ⟨parts, given⟩ := h.communities
    rw [given] at communities
    have each : ∀ part ∈ parts, ∃ s : String, part = s := fun part mem =>
      Points.string_of_stays (communities _ (List.mem_map_of_mem mem))
    obtain ⟨ss, rfl⟩ := Points.exists_strings each
    exact ⟨ss, given⟩
  case path =>
    rcases h.path with none | ⟨s, given⟩
    · exact .inl none
    · rw [given] at path
      obtain ⟨t, rfl⟩ := Points.string_of_stays path
      refine .inr ⟨t, given, ?_⟩
      simpa [CodePoint.isBlank, Points.ofString] using texts.path _ given
  case others =>
    have number {n : Int} (reach : (Value.int n).InReach) : (Value.int n).Printable := by
      cases reach with
      | int short => exact Value.printable_int_iff.mpr short
    rw [h.time] at time
    rw [h.asn] at asn
    rw [h.time, h.asn, h.oldState]
    simp only [List.forall_mem_cons, List.not_mem_nil, false_imp_iff, implies_true, and_true]
    exact ⟨number time, number asn, shows ownNetwork network, shows ownHop nextHop,
      Value.printable_null, shows ownState newState⟩

theorem prints_iff : e.Prints ↔ e.HasTexts ∧ e.Contained := by
  rw [Element.prints_iff]
  constructor
  · rintro ⟨line, full, fields⟩
    obtain ⟨printable, texts⟩ := h.printable full
    obtain rfl : e.text = line := by injection printable.fullLine.symm.trans full
    exact ⟨texts, (h.hasFields_iff printable).mp fields⟩
  · rintro ⟨texts, contained⟩
    have printable := h.printable_of_contained texts contained
    exact ⟨e.text, printable.fullLine, (h.hasFields_iff printable).mpr contained⟩

end Peer.Sends

/-- A line that is read as a record gives a valid record with all its elements. Such an element can
be printed in every buffer exactly if its address is a text, its path is no blank text, and in the
values that come from the message there is no bar, no end of a line and no half of a pair. -/
theorem converted_element_prints_iff {line : List Char} {r : Record} (h : reading line = .record r) :
    r.status = .valid ∧ ∃ es, r.elements.1 = .ok es ∧
      ∀ e ∈ es, e.Prints ↔ e.HasTexts ∧ e.Contained := by
  obtain ⟨fields, m, converted⟩ := wellFormed?_eq_some_iff.mp (wellFormed_of_reading h)
  obtain ⟨_, parsed, _⟩ := message?_eq_some_iff.mp m
  have inside : (dataOf fields).InReach :=
    (Value.inReach_of_parse parsed).getD _ (.object (List.forall_mem_nil _))
  obtain ⟨status, p, es, elements, sends⟩ := convert_sends inside converted
  exact ⟨status, es, elements, fun e he => (sends e he).prints_iff⟩

def printed (line : List Char) : Option (List (Option String)) :=
  match reading line with
  | .record r => r.elements.1.toOption.map (List.map fun e => e.fullLine.toOption)
  | _ => none

theorem printed_singleton {line : List Char} {text? : Option String}
    (h : printed line = some [text?]) :
    ∃ r e, reading line = .record r ∧ r.elements.1 = .ok [e] ∧ e.fullLine.toOption = text? := by
  unfold printed at h
  split at h
  · rename_i r read
    obtain ⟨es, elements, texts⟩ := Option.map_eq_some_iff.mp h
    obtain ⟨e, rfl, text⟩ := List.map_eq_singleton_iff.mp texts
    refine ⟨r, e, read, ?_, text⟩
    cases made : r.elements.1 with
    | error f => simp [made, Except.toOption] at elements
    | ok es => simpa [made, Except.toOption] using elements
  · cases h

/-- A message with one withdrawn network, from a peer whose address stands there as it is given. -/
def withdrawalFrom (address : String) : List Char :=
  ("\x7b\"type\":\"ris_message\",\"data\":\x7b\"type\":\"UPDATE\",\"peer\":" ++ address ++
    ",\"withdrawals\":[\"10.0.0.0/8\"]\x7d\x7d").toList

theorem converted_element_prints_iff_named :
    ∃ r e, reading (withdrawalFrom "\"192.0.2.1\"") = .record r ∧ r.elements.1 = .ok [e] ∧
      e.fullLine = .ok "W|0|192.0.2.1|0|10.0.0.0/8||||||" ∧
      e.Prints ∧ e.HasTexts ∧ e.Contained := by
  obtain ⟨r, e, read, elements, text⟩ := printed_singleton
    (by decide +kernel : printed (withdrawalFrom "\"192.0.2.1\"") =
      some [some "W|0|192.0.2.1|0|10.0.0.0/8||||||"])
  obtain ⟨_, es, same, prints_iff⟩ := converted_element_prints_iff read
  obtain rfl : [e] = es := by injection elements.symm.trans same
  have full : e.fullLine = .ok "W|0|192.0.2.1|0|10.0.0.0/8||||||" := by
    cases made : e.fullLine with
    | error f => simp [made, Except.toOption] at text
    | ok line => simpa [made, Except.toOption] using text
  have prints : e.Prints := Element.prints_iff.mpr ⟨_, full, by decide⟩
  exact ⟨r, e, read, elements, full, prints, (prints_iff e List.mem_cons_self).mp prints⟩

/-- An address that is half of a pair has no form in UTF-8. -/
example : printed (withdrawalFrom "\"\\ud800\"") = some [none] := by decide +kernel

/-- A number for the address of a peer is taken over, and its element has no line. -/
theorem numbered_peer_fails :
    ∃ r e, reading (withdrawalFrom "5") = .record r ∧ r.status = .valid ∧ r.elements.1 = .ok [e] ∧
      ¬ e.Prints := by
  obtain ⟨r, e, read, elements, text⟩ := printed_singleton
    (by decide +kernel : printed (withdrawalFrom "5") = some [none])
  refine ⟨r, e, read, wellFormed_status (wellFormed_of_reading read), elements, fun prints => ?_⟩
  obtain ⟨line, full, _⟩ := Element.prints_iff.mp prints
  rw [full] at text
  cases text

end Live
end RouteFeed
