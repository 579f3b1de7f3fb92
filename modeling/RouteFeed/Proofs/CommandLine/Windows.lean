import RouteFeed.CommandLine.Window
import RouteFeed.Proofs.Number
import RouteFeed.Proofs.Numerals

/-! The texts that write a time window: two integers with one comma between them. Every other text is
refused as it stands. -/
namespace RouteFeed

namespace Number

theorem Spaced.comma_free {body : List Char} {ds : List Nat} (spaced : Spaced body ds) :
    ',' ∉ body := by
  have digit {c : Char} {d : Nat} (value : Text.digitValue? c = some d) : ',' ≠ c := by
    rintro rfl
    have none : Text.digitValue? ',' = none := by decide
    cases none.symm.trans value
  induction spaced with
  | last value => exact List.not_mem_cons_of_ne_of_not_mem (digit value) List.not_mem_nil
  | digit value _ ih => exact List.not_mem_cons_of_ne_of_not_mem (digit value) ih
  | gap value _ ih =>
    exact List.not_mem_cons_of_ne_of_not_mem (digit value)
      (List.not_mem_cons_of_ne_of_not_mem (by decide) ih)

theorem Writes.comma_free {cs : List Char} {n : Int} (writes : Writes cs n) : ',' ∉ cs := by
  have blank {cs : List Char} (blanks : ∀ c ∈ cs, Text.isWhiteSpace c = true) : ',' ∉ cs :=
    fun comma => absurd (blanks _ comma) (by decide)
  cases writes with
  | @intro left sign body right factor ds before signed digits few behind =>
    have unsigned : ',' ∉ sign := by cases signed <;> decide
    simp only [List.mem_append, not_or]
    exact ⟨⟨⟨blank before, unsigned⟩, digits.comma_free⟩, blank behind⟩

end Number

namespace TimeWindow

structure Written (cs : List Char) (w : TimeWindow) : Prop where
  comma : cs.count ',' = 1
  sides : ∃ a b, cs = a ++ ',' :: b ∧ Number.Writes a w.start ∧ Number.Writes b w.finish

theorem written_of_sides {a b : List Char} {w : TimeWindow} (start : Number.Writes a w.start)
    (finish : Number.Writes b w.finish) : Written (a ++ ',' :: b) w := by
  refine ⟨?_, a, b, rfl, start, finish⟩
  rw [List.count_append, List.count_cons_self, List.count_eq_zero.mpr start.comma_free,
    List.count_eq_zero.mpr finish.comma_free]

theorem ofText?_of_cut {a b : List Char} {w : TimeWindow} (free : ',' ∉ a) :
    ofText? (a ++ ',' :: b) = some w ↔
      Number.readInteger a = .ok w.start ∧ Number.readInteger b = .ok w.finish := by
  have cut := (Text.cutFirst?_eq_some_iff ',' (a ++ ',' :: b) a b).mpr ⟨rfl, free⟩
  obtain ⟨start, finish⟩ := w
  unfold ofText?
  rw [cut]
  dsimp only
  cases Number.readInteger a <;> cases Number.readInteger b <;> simp

theorem parse_eq_ok_iff {text : String} {w : TimeWindow} :
    parse text = .ok w ↔ Written text.toList w := by
  have read : parse text = .ok w ↔ ofText? text.toList = some w := by
    unfold parse
    cases ofText? text.toList <;> simp
  rw [read]
  generalize text.toList = cs
  constructor
  · intro read
    cases cut : Text.cutFirst? ',' cs with
    | none => simp [ofText?, cut] at read
    | some parts =>
      obtain ⟨rfl, free⟩ := (Text.cutFirst?_eq_some_iff ',' cs parts.1 parts.2).mp cut
      obtain ⟨first, second⟩ := (ofText?_of_cut free).mp read
      exact written_of_sides (Number.readInteger_eq_ok_iff.mp first)
        (Number.readInteger_eq_ok_iff.mp second)
  · rintro ⟨_, a, b, rfl, start, finish⟩
    exact (ofText?_of_cut start.comma_free).mpr
      ⟨Number.readInteger_eq_ok_iff.mpr start, Number.readInteger_eq_ok_iff.mpr finish⟩

theorem writes_decimal {n : Int} (few : (Text.decimalDigits n.natAbs).length ≤ Number.digitLimit) :
    Number.Writes (Text.decimal n).toList n := by
  rw [← Number.readInteger_eq_ok_iff, Number.readInteger_decimal, if_neg (Nat.not_lt.mpr few)]

/-- Two integers in decimal with a comma between them are read as the window between them, if neither
has too many digits. A window is read from a text exactly if there is one comma in it, with texts on
both sides that write the bounds, and any other text is refused by a failure that quotes it. -/
theorem parse_written :
    (∀ s e : Int, (Text.decimalDigits s.natAbs).length ≤ Number.digitLimit →
      (Text.decimalDigits e.natAbs).length ≤ Number.digitLimit →
      parse (Text.decimal s ++ "," ++ Text.decimal e) = .ok ⟨s, e⟩) ∧
    (∀ text w, parse text = .ok w ↔ text.toList.count ',' = 1 ∧
      ∃ a b, text.toList = a ++ ',' :: b ∧ Number.Writes a w.start ∧ Number.Writes b w.finish) ∧
    ∀ text, (∀ w, parse text ≠ .ok w) → parse text =
      .error ⟨.badArgument, "Malformed time window (" ++ text ++ "). Expecting start,end"⟩ := by
  refine ⟨fun s e fewStart fewEnd => ?_, fun text w => ?_, fun text refused => ?_⟩
  · have sides : (Text.decimal s ++ "," ++ Text.decimal e).toList =
        (Text.decimal s).toList ++ ',' :: (Text.decimal e).toList := by simp
    rw [parse_eq_ok_iff, sides]
    exact written_of_sides (writes_decimal fewStart) (writes_decimal fewEnd)
  · rw [parse_eq_ok_iff]
    exact ⟨fun h => ⟨h.comma, h.sides⟩, fun h => ⟨h.1, h.2⟩⟩
  · cases given : ofText? text.toList with
    | none =>
      rw [parse, given]
      rfl
    | some w => exact absurd (by rw [parse, given]) (refused w)

/-- The theorem at a plain text, at one with blanks, a sign, an underscore and a digit of another script,
and at one with too many commas. -/
theorem parse_written_thrice : parse "12,-3" = .ok ⟨12, -3⟩ ∧ parse " +1_0 ,-٣" = .ok ⟨10, -3⟩ ∧
    parse "1,2,3" =
      .error ⟨.badArgument, "Malformed time window (1,2,3). Expecting start,end"⟩ := by
  obtain ⟨decimal, writes, refused⟩ := parse_written
  have text : Text.decimal 12 ++ "," ++ Text.decimal (-3) = "12,-3" := by cbv
  refine ⟨text ▸ decimal 12 (-3) (by decide) (by decide), (writes _ _).mpr ?_,
    refused _ fun w read => ?_⟩
  · have blank : ∀ c ∈ [' '], Text.isWhiteSpace c = true := List.forall_mem_singleton.mpr rfl
    have none : ∀ c ∈ [], Text.isWhiteSpace c = true := List.forall_mem_nil _
    have start : Number.Writes " +1_0 ".toList 10 :=
      @Number.Writes.intro [' '] ['+'] ['1', '_', '0'] [' '] 1 [1, 0] blank .plus
        (.gap rfl (.last rfl)) (by decide) blank
    have finish : Number.Writes "-٣".toList (-3) :=
      @Number.Writes.intro [] ['-'] ['٣'] [] (-1) [3] none .minus (.last rfl) (by decide) none
    exact ⟨by decide, _, _, rfl, start, finish⟩
  · exact absurd ((writes _ w).mp read).1 (by decide)

end TimeWindow
end RouteFeed
