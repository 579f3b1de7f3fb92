import RouteFeed.Proofs.Number
import RouteFeed.Proofs.Retrieval.Entries
import RouteFeed.Proofs.Text.Words
import RouteFeed.Text.Cut
import RouteFeed.Text.Lines

/-! The fields of the lines that are written. A text takes up one field of one line exactly if it
holds neither a bar nor an end of a line; a line is made of its fields, and nothing else, exactly if
each of them is such a text. -/
namespace RouteFeed

namespace Text

/-- A text that stays within one field of one line. -/
def IsField (s : String) : Prop := ∀ c ∈ s.toList, c ≠ '|' ∧ isLineEnd c = false

instance (s : String) : Decidable (IsField s) :=
  decidable_of_iff (s.toList.all fun c => c != '|' && !isLineEnd c) (by simp [IsField])

structure HasFields (n : Nat) (line : String) : Prop where
  count : (splitAll '|' line.toList).length = n
  single : ∀ c ∈ line.toList, isLineEnd c = false

instance (n : Nat) (line : String) : Decidable (HasFields n line) :=
  decidable_of_iff ((splitAll '|' line.toList).length = n ∧
      (line.toList.all fun c => !isLineEnd c) = true)
    ⟨fun h => ⟨h.1, by simpa using h.2⟩, fun h => ⟨h.count, by simpa using h.single⟩⟩

/-- A joined text has the separators between its parts, and no others exactly if there are none in the
parts. -/
theorem count_intercalate (separator : Char) (parts : List (List Char)) (some : parts ≠ []) :
    parts.length ≤ ([separator].intercalate parts).count separator + 1 ∧
      (([separator].intercalate parts).count separator + 1 = parts.length ↔
        ∀ part ∈ parts, separator ∉ part) := by
  induction parts with
  | nil => exact absurd rfl some
  | cons part parts ih =>
    cases parts with
    | nil => simp [List.count_eq_zero]
    | cons next parts =>
      obtain ⟨least, exact⟩ := ih (List.cons_ne_nil next parts)
      rw [List.intercalate_cons_cons, List.forall_mem_cons, ← exact, ← List.count_eq_zero]
      simp only [List.count_append, List.count_singleton_self, List.length_cons] at least ⊢
      omega

/-- What is true of a separator is true of a joined text exactly if it is true of its parts. -/
theorem forall_intercalate_iff (p : Char → Prop) {separator : Char} (h : p separator)
    (parts : List (List Char)) :
    (∀ c ∈ [separator].intercalate parts, p c) ↔ ∀ part ∈ parts, ∀ c ∈ part, p c := by
  induction parts with
  | nil => simp
  | cons part parts ih =>
    cases parts with
    | nil => simp
    | cons next parts =>
      rw [List.intercalate_cons_cons, List.forall_mem_cons, ← ih]
      simp only [List.mem_append, List.mem_singleton]
      constructor
      · intro all
        exact ⟨fun c hc => all c (.inl (.inl hc)), fun c hc => all c (.inr hc)⟩
      · rintro ⟨first, others⟩ c ((hc | rfl) | hc)
        · exact first c hc
        · exact h
        · exact others c hc

/-- Texts joined by bars are a line of so many fields exactly if each stays within its field. -/
theorem hasFields_intercalate_iff {fields : List String} (some : fields ≠ []) :
    HasFields fields.length (String.intercalate "|" fields) ↔ ∀ s ∈ fields, IsField s := by
  have bars := (count_intercalate '|' (fields.map String.toList) (by simpa using some)).2
  have bar : isLineEnd '|' = false := by decide
  have single := forall_intercalate_iff (isLineEnd · = false) bar (fields.map String.toList)
  have joined : (String.intercalate "|" fields).toList =
      ['|'].intercalate (fields.map String.toList) := String.toList_intercalate
  rw [List.length_map, List.forall_mem_map, ← length_splitAll, ← joined] at bars
  rw [List.forall_mem_map, ← joined] at single
  constructor
  · rintro ⟨number, lines⟩ s hs c hc
    refine ⟨?_, single.mp lines s hs c hc⟩
    rintro rfl
    exact bars.mp number s hs hc
  · intro within
    exact ⟨bars.mpr fun s hs hc => (within s hs _ hc).1 rfl,
      single.mpr fun s hs c hc => (within s hs c hc).2⟩

theorem digit_stays {c : Char} (h : c.isDigit = true) : c ≠ '|' ∧ isLineEnd c = false := by
  have bounds : 48 ≤ c.val ∧ c.val ≤ 57 := by simpa [Char.isDigit] using h
  constructor
  · rintro rfl
    exact absurd bounds.2 (by decide)
  · unfold isLineEnd
    grind

theorem isField_decimal (n : Int) : IsField (decimal n) := by
  intro c mem
  rcases isDigit_of_mem_decimal mem with rfl | digit
  · decide
  · exact digit_stays digit

end Text

/-- A failure other than that of a line that is too long for the buffer. -/
def Failure.Uncut (f : Failure) : Prop := ∀ truncated, f.kind ≠ .render truncated

theorem Points.encode_uncut (ps : Points) : FailsOnly Failure.Uncut ps.encode := by
  unfold Points.encode
  split
  · exact .ok _
  · exact .error nofun

namespace Value

theorem asTexts_uncut (i : Nat) (vs : List Value) : FailsOnly Failure.Uncut (asTexts i vs) := by
  induction vs generalizing i with
  | nil => exact .ok []
  | cons v vs ih =>
    cases v with
    | text s => exact (ih (i + 1)).map _
    | _ => exact .error nofun

theorem shown_uncut (v : Value) : FailsOnly Failure.Uncut v.shown := by
  unfold shown
  split
  · exact .ok _
  · exact .error nofun

theorem joinWords_uncut (v : Value) : FailsOnly Failure.Uncut v.joinWords := by
  unfold joinWords
  split
  · exact .error nofun
  · exact (asTexts_uncut 0 _).map _

end Value

namespace Element

/-- In every buffer the element is a single line of eleven fields, or too long for it. -/
def Prints (e : Element) : Prop :=
  ∀ size, (∃ line, e.line size = .ok line ∧ Text.HasFields 11 line) ∨
    ∃ truncated, e.line size = .error (.elementTooLong truncated)

theorem fieldText_uncut (v : Value) : FailsOnly Failure.Uncut (fieldText v) := by
  cases v with
  | null => exact .ok []
  | _ => exact Value.shown_uncut _

theorem originAsn_uncut (e : Element) : FailsOnly Failure.Uncut e.originAsn := by
  unfold originAsn
  split
  · exact .ok _
  · split
    · split
      · exact .ok _
      · exact .error nofun
    · exact .error nofun

open Value in
theorem fullLine_uncut (e : Element) : FailsOnly Failure.Uncut e.fullLine := by
  -- the fields are shown in their order
  refine .bind ?_ fun fields _ => Points.encode_uncut _
  refine .bind (shown_uncut _) fun time _ => .bind (shown_uncut _) fun asn _ => ?_
  refine .bind (fieldText_uncut _) fun network _ => .bind (fieldText_uncut _) fun nextHop _ => ?_
  refine .bind (fieldText_uncut _) fun path _ => .bind e.originAsn_uncut fun hop _ => ?_
  refine .bind (fieldText_uncut _) fun hop _ => .bind (joinWords_uncut _) fun communities _ => ?_
  exact .bind (fieldText_uncut _) fun oldState _ => .bind (fieldText_uncut _) fun newState _ =>
    asTexts_uncut 0 _

theorem prints_iff {e : Element} :
    e.Prints ↔ ∃ line, e.fullLine = .ok line ∧ Text.HasFields 11 line := by
  constructor
  · intro prints
    cases full : e.fullLine with
    | error f =>
      have fails : e.line 0 = .error f := by rw [line, full]; rfl
      rcases prints 0 with ⟨line, given, _⟩ | ⟨truncated, cut⟩
      · cases given.symm.trans fails
      · have same : f = .elementTooLong truncated := by injection fails.symm.trans cut
        exact absurd (congrArg Failure.kind same) (e.fullLine_uncut f full truncated)
    | ok whole =>
      have fits : e.line (Text.byteCount whole.toList + 1) = .ok whole := by
        rw [line, full]
        exact if_pos (by omega)
      rcases prints (Text.byteCount whole.toList + 1) with ⟨line, given, fields⟩ | ⟨truncated, cut⟩
      · obtain rfl : whole = line := by injection fits.symm.trans given
        exact ⟨whole, rfl, fields⟩
      · cases fits.symm.trans cut
  · rintro ⟨whole, full, fields⟩ size
    rw [line, full]
    by_cases fits : (Text.byteCount whole.toList : Int) ≤ size - 1
    · exact .inl ⟨whole, if_pos fits, fields⟩
    · exact .inr ⟨_, if_neg fits⟩

/-- The line of an element has its fields exactly if each value stays within its own. -/
theorem hasFields_text_iff (e : Element) :
    Text.HasFields 11 e.text ↔ ∀ s ∈ e.cells, Text.IsField s := by
  have some : e.cells ≠ [] := List.cons_ne_nil _ _
  exact Text.hasFields_intercalate_iff some

theorem path_visible {e : Element} {s : Points} (path : e.asPath = .text s) {origin : Value}
    (found : e.originAsn = .ok origin) : s = [] ∨ ∃ p ∈ s, p.isBlank = false := by
  by_cases empty : s = []
  · exact .inl empty
  · have present : (Value.text s).isPresent = true := by simp [Value.isPresent, empty]
    have words : s.words ≠ [] := by
      intro none
      simp [originAsn, path, present, none] at found
    rw [Points.words, Ne, Text.wordsBy_eq_nil_iff] at words
    simpa using Or.inr words

theorem mem_path_of_mem_originText {e : Element} {s : String} (path : e.asPath = .text s) {c : Char}
    (mem : c ∈ e.originText.toList) : c ∈ s.toList := by
  simp only [originText, path, Points.words_ofString, List.getLastD_eq_getLast?,
    List.getLast?_map] at mem
  cases last : (Text.words s.toList).getLast? with
  | none => simp [last, Points.string?, Points.chars?] at mem
  | some word =>
    simp only [last, Option.map_some, Option.getD_some, Points.string?, Points.chars?_map_char,
      String.toList_ofList] at mem
    exact (Text.isLastWord_of_words last).mem mem

end Element
end RouteFeed
