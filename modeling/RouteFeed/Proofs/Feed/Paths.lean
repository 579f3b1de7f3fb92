import RouteFeed.Proofs.Digits
import RouteFeed.Proofs.Feed.Bulletin
import RouteFeed.Proofs.Retrieval.Fields

/-! The texts of paths. Hops stand between spaces and the numbers of a set between commas, and no number
holds a blank, a comma or a brace. So no two paths have the same text, and the origin of an element, which
is the last word of its path, is the whole last hop. -/
namespace RouteFeed

namespace Text

theorem isBlank_of_isDigit {c : Char} (h : c.isDigit = true) : isBlank c = false := by
  have bounds : 48 ≤ c.val.toNat ∧ c.val.toNat ≤ 57 := by
    simpa [Char.isDigit, UInt32.le_iff_toNat_le] using h
  simp only [isBlank, isWhiteSpace_of_isDigit h, Bool.false_or, Bool.and_eq_false_iff,
    decide_eq_false_iff_not, UInt32.le_iff_toNat_le, UInt32.reduceToNat]
  omega

theorem visible_decimal (n : Int) : ∀ c ∈ (decimal n).toList, isBlank c = false := by
  intro c mem
  rcases isDigit_of_mem_decimal mem with rfl | digit
  · rfl
  · exact isBlank_of_isDigit digit

theorem not_mem_decimal {c : Char} (minus : c ≠ '-') (noDigit : c.isDigit = false) (n : Int) :
    c ∉ (decimal n).toList := by
  intro mem
  rcases isDigit_of_mem_decimal mem with same | digit
  · exact minus same
  · rw [noDigit] at digit
    cases digit

/-- Parts that hold no separator, none of which is empty, are what stands between the separators of the
joined text, empty stretches aside. -/
theorem filter_splitOn_intercalate {separator : Char} {parts : List (List Char)}
    (each : ∀ part ∈ parts, part ≠ [] ∧ separator ∉ part) :
    (([separator].intercalate parts).splitOn separator).filter (· ≠ []) = parts := by
  by_cases none : parts = []
  · subst none
    rfl
  · rw [List.splitOn_intercalate separator (fun part mem => (each part mem).2) none]
    exact List.filter_eq_self.mpr fun part mem => by simpa using (each part mem).1

theorem toList_decimal_injective : Function.Injective fun n : Int => (decimal n).toList := by
  intro m n same
  exact decimal_injective (String.toList_inj.mp same)

variable {α β γ : Type} {text : α → γ}

theorem toList_intercalate_map {separator : String} {c : Char} (single : separator.toList = [c])
    (text : α → String) (items : List α) :
    (String.intercalate separator (items.map text)).toList =
      [c].intercalate (items.map fun item => (text item).toList) := by
  rw [String.toList_intercalate, single, List.map_map]
  rfl

theorem injective_of_texts (told : Function.Injective text) {made : List α → β}
    (find : β → List γ) (finds : ∀ items, find (made items) = items.map text) :
    Function.Injective made := by
  intro items others same
  refine List.map_injective_iff.mpr told ?_
  rw [← finds items, ← finds others, same]

end Text

theorem Element.originAsn_of_words {e : Element} {s word : Points}
    (path : e.asPath = .text s) (last : s.words.getLast? = some word) :
    e.originAsn = .ok (.text word) := by
  have present : s ≠ [] := by
    rintro rfl
    cases last
  simp [originAsn, path, Value.isPresent, present, last]

namespace Live

open Number Text Value

namespace Hop

theorem toList_set (asns : List Int) : (set asns).text.toList =
    '\x7b' :: ([','].intercalate (asns.map fun asn => (decimal asn).toList) ++ ['\x7d']) := by
  rw [← toList_intercalate_map (by decide : ",".toList = [','])]
  simp [text]

/-- The numbers of a set can be told from the text between its braces. -/
theorem numbers_injective : Function.Injective fun asns : List Int =>
    [','].intercalate (asns.map fun asn => (decimal asn).toList) := by
  refine injective_of_texts toList_decimal_injective
    (fun cs => (cs.splitOn ',').filter (· ≠ [])) fun asns => ?_
  refine filter_splitOn_intercalate (List.forall_mem_map.mpr fun asn _ => ?_)
  exact ⟨decimal_toList_ne_nil asn, not_mem_decimal (by decide) (by decide) asn⟩

theorem isWord_text (hop : Hop) : IsWord isBlank hop.text.toList := by
  cases hop with
  | one asn => exact ⟨decimal_toList_ne_nil asn, visible_decimal asn⟩
  | set asns =>
    have comma : isBlank ',' = false := by decide
    have numbers := (forall_intercalate_iff (isBlank · = false) comma _).mpr
      (List.forall_mem_map.mpr fun asn (_ : asn ∈ asns) => visible_decimal asn)
    rw [toList_set]
    refine ⟨List.cons_ne_nil _ _, List.forall_mem_cons.mpr ⟨by decide, ?_⟩⟩
    exact List.forall_mem_append.mpr ⟨numbers, List.forall_mem_singleton.mpr (by decide)⟩

theorem one_ne_set (asn : Int) (asns : List Int) : (one asn).text ≠ (set asns).text := by
  intro same
  have brace : '\x7b' ∈ (one asn).text.toList := by
    rw [same, toList_set]
    exact List.mem_cons_self
  exact not_mem_decimal (by decide) (by decide) asn brace

theorem text_injective : Function.Injective text := by
  intro hop other same
  cases hop with
  | one asn =>
    cases other with
    | one number => rw [decimal_injective same]
    | set asns => exact absurd same (one_ne_set asn asns)
  | set asns =>
    cases other with
    | one asn => exact absurd same.symm (one_ne_set asn asns)
    | set numbers =>
      have inside := congrArg String.toList same
      rw [toList_set, toList_set, List.cons.injEq, List.append_cancel_right_eq] at inside
      rw [numbers_injective inside.2]

end Hop

theorem words_pathText (hops : List Hop) :
    (pathText (hops.map Hop.written)).words = hops.map fun hop => Points.ofString hop.text := by
  have words : Text.words (String.intercalate " " (hops.map Hop.text)).toList =
      hops.map fun hop => hop.text.toList := by
    rw [toList_intercalate_map (by decide : " ".toList = [' '])]
    exact words_intercalate (by decide) (List.forall_mem_map.mpr fun hop _ => hop.isWord_text)
  rw [pathText_written, Points.words_ofString, words, List.map_map]
  rfl

theorem pathText_injective :
    Function.Injective fun hops : List Hop => pathText (hops.map Hop.written) := by
  have told : Function.Injective fun hop : Hop => Points.ofString hop.text := fun hop other same =>
    Hop.text_injective (Points.ofString_inj.mp same)
  exact injective_of_texts told Points.words words_pathText

theorem originAsn_of_pathText {e : Element} {hops : List Hop}
    (path : e.asPath = .text (pathText (hops.map Hop.written))) :
    e.originAsn = .ok (.ofText? (hops.getLast?.map fun hop => hop.text)) := by
  cases ending : hops.getLast? with
  | none =>
    have empty : hops = [] := List.getLast?_eq_none_iff.mp ending
    subst empty
    have blank : e.asPath = .text [] := path
    simp [Element.originAsn, blank, Value.isPresent, Value.ofText?]
  | some hop =>
    have last : (pathText (hops.map Hop.written)).words.getLast? = some ↑hop.text := by
      rw [words_pathText, List.getLast?_map, ending]
      rfl
    rw [Element.originAsn_of_words path last]
    rfl

def bearing (e : Element) (hops : List Hop) : Element :=
  { e with asPath := .text (pathText (hops.map Hop.written)) }

structure PathTextTells : Prop where
  path : Function.Injective fun hops : List Hop => pathText (hops.map Hop.written)
  /-- An element that bears it has no origin exactly if the path is empty. -/
  noOrigin : ∀ (e : Element) (hops : List Hop), (bearing e hops).originAsn = .ok .null ↔ hops = []
  /-- Otherwise its origin is the last hop, and not a part of it. -/
  origin : ∀ (e : Element) (before : List Hop) (hop : Hop),
    (bearing e (before ++ [hop])).originAsn = .ok (.text hop.text)
  visible : ∀ hop : Hop, ∀ c ∈ hop.text.toList, isBlank c = false

theorem pathText_tells : PathTextTells := by
  have known (e : Element) (hops : List Hop) :
      (bearing e hops).originAsn = .ok (.ofText? (hops.getLast?.map fun hop => hop.text)) :=
    originAsn_of_pathText rfl
  constructor
  case path => exact pathText_injective
  case noOrigin =>
    intro e hops
    rw [known, ← List.getLast?_eq_none_iff]
    cases hops.getLast? with
    | none => exact ⟨fun _ => rfl, fun _ => rfl⟩
    | some hop => exact ⟨nofun, nofun⟩
  case origin =>
    intro e before hop
    rw [known, List.getLast?_concat]
    rfl
  case visible => exact fun hop => hop.isWord_text.visible

/-- Two numbers and a set. -/
example : pathText ([.one 65001, .one 65002, .set [65003, 65004]].map Hop.written) =
    "65001 65002 \x7b65003,65004\x7d" := by
  decide +kernel

theorem originAsn_of_describes {b : Bulletin} {fields : Fields} (d : b.Describes fields)
    {p : Peer} {es : List Element} (made : content (.object fields) = .ok (p, es)) :
    ∀ e ∈ es, e.originAsn = .ok (match e.type with
      | .announcement => .ofText? ((b.path.getD []).getLast?.map fun hop => hop.text)
      | _ => .null) := by
  have short : ∀ n ∈ b.peerNumber, n.IsShort := by
    intro n found
    refine Classical.byContradiction fun long => ?_
    cases (content_of_long d found long).symm.trans made
  have same := (content_of_describes d short).symm.trans made
  cases same
  intro e mem
  cases tells_of_mem mem with
  | announces nextHop network =>
    exact originAsn_of_pathText (congrArg Value.text (pathText_written _).symm)
  | withdraws network => rfl
  | changes => rfl

namespace Hop

def numbers : Hop → List Int
  | one asn => [asn]
  | set asns => asns

theorem isShort_numbers {hop : Hop} (h : hop.written.InReach) :
    ∀ n ∈ hop.numbers, isShort n = true := by
  cases hop with
  | one asn =>
    cases h with
    | int short => exact List.forall_mem_singleton.mpr short
  | set asns =>
    intro n mem
    cases h.each _ (List.mem_map_of_mem mem) with
    | int short => exact short

end Hop

theorem readInteger_of_describes {line : List Char} {fields inner : Fields} {b : Bulletin}
    (m : message? "ris_message" line = some fields) (data : dataOf fields = .object inner)
    (d : b.Describes inner) :
    ∀ hop ∈ b.path.getD [], ∀ n ∈ hop.numbers, readInteger (decimal n).toList = .ok n := by
  obtain ⟨_, parsed, _⟩ := message?_eq_some_iff.mp m
  have inside : InReach (dataOf fields) :=
    (inReach_of_parse parsed).getD ↑"data" (.object (List.forall_mem_nil _))
  rw [data] at inside
  have path := inside.getD ↑"path" (.list (List.forall_mem_nil _))
  rw [d.path] at path
  intro hop mem n member
  cases given : b.path with
  | none =>
    rw [given] at mem
    cases mem
  | some hops =>
    rw [given] at mem path
    have reach : hop.written.InReach := path.each _ (List.mem_map_of_mem mem)
    exact readInteger_decimal (Hop.isShort_numbers reach n member)

end Live
end RouteFeed
