import RouteFeed.Proofs.Retrieval.Fields
import RouteFeed.Proofs.Text.Encoding

/-! Lines that do not fit a buffer. What is reported of them is their longest start, in whole
characters, that does. -/
namespace RouteFeed

namespace Text

/-- The longest start of a text, in whole characters, with at most `limit` bytes. -/
structure IsLongestStart (limit : Nat) (cs start : List Char) : Prop where
  begins : start <+: cs
  within : (utf8Bytes start).length ≤ limit
  longest : ∀ other, other <+: cs → (utf8Bytes other).length ≤ limit → other <+: start

theorem takeBytes_isLongestStart (limit : Nat) (cs : List Char) :
    IsLongestStart limit cs (takeBytes limit cs) := by
  refine ⟨takeBytes_isPrefix limit cs, ?_, fun other begins within => ?_⟩
  · rw [length_utf8Bytes]
    exact byteCount_takeBytes_le limit cs
  · rw [length_utf8Bytes] at within
    exact isPrefix_takeBytes begins within

/-- Bytes that are cut off behind the longest start of a text begin a character that is broken. -/
structure Cuts (limit : Nat) (cs start : List Char) (broken : List Nat) : Prop where
  bytes : (utf8Bytes cs).take limit = utf8Bytes start ++ broken
  limit : (utf8Bytes start).length + broken.length = limit
  few : broken.length ≤ 3

theorem takeBytes_cuts {limit : Nat} {cs : List Char} (long : limit ≤ byteCount cs) :
    ∃ broken, Cuts limit cs (takeBytes limit cs) broken := by
  have begins := utf8Bytes_isPrefix (takeBytes_isPrefix limit cs)
  have within := byteCount_takeBytes_le limit cs
  have lost := limit_le_byteCount_takeBytes long
  have before : utf8Bytes (takeBytes limit cs) <+: (utf8Bytes cs).take limit := by
    refine List.prefix_of_prefix_length_le begins (List.take_prefix _ _) ?_
    rw [List.length_take, length_utf8Bytes, length_utf8Bytes]
    omega
  obtain ⟨broken, cut⟩ := before
  have lengths := congrArg List.length cut
  rw [List.length_append, List.length_take, length_utf8Bytes, length_utf8Bytes] at lengths
  refine ⟨broken, cut.symm, ?_, by omega⟩
  rw [length_utf8Bytes]
  omega

end Text

namespace Element

variable {e : Element} {size : Int} {f : Failure} {truncated : String}

theorem fitLine_of_long {line : String} (long : size - 1 < Text.byteCount line.toList) :
    fitLine size line = .error
      (.elementTooLong (String.ofList (Text.takeBytes (size - 1).toNat line.toList))) := by
  rw [← Text.wholeChars_take_utf8Bytes]
  exact if_neg (by omega)

/-- Only a line that is too long is cut; what is left of it are the whole characters that fit. -/
theorem cut_of_line (fails : e.line size = .error f) (cut : f.kind = .render truncated) :
    ∃ whole, e.fullLine = .ok whole ∧ size - 1 < Text.byteCount whole.toList ∧
      truncated.toList = Text.takeBytes (size - 1).toNat whole.toList := by
  rcases bind_error fails with failed | ⟨whole, full, tooLong⟩
  · exact absurd cut (e.fullLine_uncut f failed truncated)
  · by_cases fits : (Text.byteCount whole.toList : Int) ≤ size - 1
    · cases (if_pos fits).symm.trans tooLong
    · have long : size - 1 < Text.byteCount whole.toList := by omega
      cases (fitLine_of_long long).symm.trans tooLong
      cases cut
      exact ⟨whole, full, long, String.toList_ofList⟩

/-- Whatever the size of the buffer: of a line that is too long for it, its longest start in whole
characters is reported that fits beside the terminator. At most three bytes of the buffer are lost,
those of a character that the cut goes through. -/
theorem truncated_longest (fails : e.line size = .error f) (cut : f.kind = .render truncated) :
    ∃ fields, ∃ joined : String, e.lineFields = .ok fields ∧
      Points.intercalate "|" fields = joined ∧
      let whole := joined.toList
      let limit := (max (size - 1) 0).toNat
      Text.IsLongestStart limit whole truncated.toList ∧
        ∃ broken, Text.Cuts limit whole truncated.toList broken := by
  obtain ⟨line, full, long, start⟩ := cut_of_line fails cut
  obtain ⟨fields, given, encoded⟩ := bind_ok full
  refine ⟨fields, line, given, Points.encode_eq_ok_iff.mp encoded, ?_⟩
  intro whole limit
  have limit_eq : (size - 1).toNat = limit := by omega
  have long : limit ≤ Text.byteCount whole := by
    simp only [limit, whole]
    omega
  rw [start, limit_eq]
  exact ⟨Text.takeBytes_isLongestStart limit whole, Text.takeBytes_cuts long⟩

/-- An element whose address has a character of four bytes. -/
def wide : Element := { type := .withdrawal, peerAddress := .text "😀" }

/-- The cut goes through that character, whose first three bytes are lost. -/
theorem truncated_longest_wide :
    wide.line 8 = .error (.elementTooLong "W|0|") ∧
      ∃ fields, ∃ joined : String, wide.lineFields = .ok fields ∧
        Points.intercalate "|" fields = joined ∧
        let whole := joined.toList
        Text.IsLongestStart 7 whole "W|0|".toList ∧
          ∃ broken, Text.Cuts 7 whole "W|0|".toList broken := by
  have zero : Value.isShort 0 = true := by decide
  have printable : wide.Printable := ⟨⟨_, rfl⟩, ⟨[], rfl⟩, .inl rfl, by simp [wide, zero]⟩
  have long : 8 - 1 < (Text.byteCount wide.text.toList : Int) := by decide +kernel
  have cut : String.ofList (Text.takeBytes 7 wide.text.toList) = "W|0|" := by decide +kernel
  have fails : wide.line 8 = .error (.elementTooLong "W|0|") := by
    rw [line, printable.fullLine, Except.bind, ← cut]
    exact fitLine_of_long long
  exact ⟨fails, truncated_longest fails rfl⟩

end Element
end RouteFeed
