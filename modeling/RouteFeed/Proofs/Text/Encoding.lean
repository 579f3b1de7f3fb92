import RouteFeed.Text.Charset.Utf8
import RouteFeed.Text.Utf8

/-! Texts encoded in UTF-8 are decoded to themselves. Of an encoded text that is cut at any byte, the
whole characters before the cut are left. -/
namespace RouteFeed.Text

/-- The bytes of a character by its number: a first one, and six bits in each that follows. -/
theorem charBytes_eq (c : Char) :
    charBytes c =
      if c.toNat ≤ 0x7f then [c.toNat]
      else if c.toNat ≤ 0x7ff then [c.toNat / 64 + 0xc0, c.toNat % 64 + 0x80]
      else if c.toNat ≤ 0xffff then
        [c.toNat / 4096 + 0xe0, c.toNat / 64 % 64 + 0x80, c.toNat % 64 + 0x80]
      else
        [c.toNat / 262144 + 0xf0, c.toNat / 4096 % 64 + 0x80, c.toNat / 64 % 64 + 0x80,
          c.toNat % 64 + 0x80] := by
  have valid : c.toNat < 0x110000 := by
    have := c.valid
    simp only [UInt32.isValidChar, Nat.isValidChar] at this
    change c.val.toNat < _
    omega
  have number : c.val.toNat = c.toNat := rfl
  unfold charBytes String.utf8EncodeChar
  simp only [number]
  split
  · simp only [List.map_cons, List.map_nil, UInt8.toNat_ofNat', List.cons.injEq, and_true]
    omega
  · split
    · simp only [List.map_cons, List.map_nil, UInt8.toNat_ofNat', List.cons.injEq, and_true]
      omega
    · split
      · simp only [List.map_cons, List.map_nil, UInt8.toNat_ofNat', List.cons.injEq, and_true]
        omega
      · simp only [List.map_cons, List.map_nil, UInt8.toNat_ofNat', List.cons.injEq, and_true]
        omega

namespace Utf8Decoder

theorem begin_two {bits : Nat} (least : 2 ≤ bits) (greatest : bits < 0x20) :
    begin (bits + 0xc0) = ([], ⟨bits, 1, 0x80, 0xbf⟩) := by
  unfold begin
  rw [if_neg (by omega), if_neg (by omega), if_pos (by omega), Nat.add_sub_cancel]

theorem begin_three {bits : Nat} (greatest : bits < 0x10) :
    begin (bits + 0xe0) = ([], ⟨bits, 2, if bits = 0 then 0xa0 else 0x80, 0xbf⟩) := by
  by_cases first : bits = 0
  · simp [first, begin]
  · unfold begin
    rw [if_neg (by omega), if_neg (by omega), if_neg (by omega), if_neg (by simpa using first),
      if_pos (by omega), Nat.add_sub_cancel, if_neg first]

theorem begin_four {bits : Nat} (greatest : bits ≤ 4) :
    begin (bits + 0xf0) = ([], ⟨bits, 3, if bits = 0 then 0x90 else 0x80,
      if bits = 4 then 0x8f else 0xbf⟩) := by
  have cases : bits = 0 ∨ bits = 1 ∨ bits = 2 ∨ bits = 3 ∨ bits = 4 := by omega
  rcases cases with rfl | rfl | rfl | rfl | rfl <;> rfl

/-- The bytes come one by one to a character, which is there behind the last one and not before. -/
inductive Reads : Utf8Decoder → List Nat → Char → Prop
  | last {d b c} (step : d.step b = ([c], {})) (completed : d.completed b = [c]) : Reads d [b] c
  | next {d left b bs c} (step : d.step b = ([], left)) (completed : d.completed b = [])
    (rest : Reads left bs c) : Reads d (b :: bs) c

namespace Reads

theorem ascii {c : Char} (small : c.toNat < 0x80) : Reads {} [c.toNat] c := by
  have step : step {} c.toNat = ([c], {}) := by
    change begin c.toNat = _
    rw [begin, if_pos small, Char.ofNat_toNat]
  exact .last step (by rw [completed, if_pos small, Char.ofNat_toNat])

theorem first {left : Utf8Decoder} {b : Nat} {bs : List Nat} {c : Char} (longer : 0x80 ≤ b)
    (begins : begin b = ([], left)) (rest : Reads left bs c) : Reads {} (b :: bs) c :=
  .next begins (by rw [completed, if_neg (by omega), if_neg (by simp)]) rest

theorem middle {bits need low high more : Nat} {bs : List Nat} {c : Char}
    (least : low ≤ more + 0x80) (greatest : more + 0x80 ≤ high)
    (rest : Reads ⟨bits * 64 + more, need + 1, 0x80, 0xbf⟩ bs c) :
    Reads ⟨bits, need + 2, low, high⟩ ((more + 0x80) :: bs) c := by
  have step : step ⟨bits, need + 2, low, high⟩ (more + 0x80) =
      ([], ⟨bits * 64 + more, need + 1, 0x80, 0xbf⟩) := by
    simp [step, isSurrogate, least, greatest]
  exact .next step (by rw [completed, if_neg (by omega), if_neg (by simp)]) rest

theorem ending {bits low high more : Nat} {c : Char} (sound : ¬ (0x360 ≤ bits ∧ bits < 0x380))
    (least : low ≤ more + 0x80) (greatest : more + 0x80 ≤ high)
    (whole : bits * 64 + more = c.toNat) : Reads ⟨bits, 1, low, high⟩ [more + 0x80] c := by
  have whole : Char.ofNat (bits * 64 + more) = c := by rw [whole, Char.ofNat_toNat]
  have paired : isSurrogate ⟨bits, 1, low, high⟩ = false := by simpa [isSurrogate] using sound
  refine .last ?_ ?_
  · simp [step, paired, least, greatest, whole]
  · rw [completed, if_neg (by omega), if_pos ⟨rfl, paired, least, greatest⟩, Nat.add_sub_cancel,
      whole]

variable {d : Utf8Decoder} {bs : List Nat} {c : Char}

theorem feed (h : Reads d bs c) : d.feed bs = ([c], {}) := by
  induction h with
  | last step completed => simp [Utf8Decoder.feed, step]
  | next step completed rest ih => simp [Utf8Decoder.feed, step, ih]

theorem sift_take (h : Reads d bs c) (n : Nat) :
    d.sift (bs.take n) = if n < bs.length then [] else [c] := by
  induction h generalizing n with
  | last step completed =>
    cases n with
    | zero => rfl
    | succ n => simp [sift, completed]
  | next step completed rest ih =>
    cases n with
    | zero => simp [sift]
    | succ n => simp [sift, step, completed, ih]

end Reads

theorem reads_charBytes (c : Char) : Reads {} (charBytes c) c := by
  have valid : c.toNat < 0xd800 ∨ 0xdfff < c.toNat ∧ c.toNat < 0x110000 := c.valid
  rw [charBytes_eq]
  split
  · next one => exact .ascii (by omega)
  · split
    · next one two =>
      exact .first (by omega) (begin_two (by omega) (by omega))
        (.ending (by omega) (by omega) (by omega) (by omega))
    · split
      · next one two three =>
        exact .first (by omega) (begin_three (by omega))
          (.middle (by split <;> omega) (by omega)
            (.ending (by omega) (by omega) (by omega) (by omega)))
      · next one two three =>
        exact .first (by omega) (begin_four (by omega))
          (.middle (by split <;> omega) (by split <;> omega)
            (.middle (by omega) (by omega)
              (.ending (by omega) (by omega) (by omega) (by omega))))

theorem feed_utf8Bytes (cs : List Char) : feed {} (utf8Bytes cs) = (cs, {}) := by
  induction cs with
  | nil => rfl
  | cons c cs ih =>
    rw [utf8Bytes_cons, feed_append, (reads_charBytes c).feed, ih]
    rfl

theorem sift_append (d : Utf8Decoder) (xs ys : List Nat) :
    d.sift (xs ++ ys) = d.sift xs ++ (d.feed xs).2.sift ys := by
  induction xs generalizing d with
  | nil => rfl
  | cons b bs ih => rw [List.cons_append, sift, sift, ih, List.append_assoc, feed]

end Utf8Decoder

/-- Of the first bytes of an encoded text the longest start in whole characters is left. -/
theorem wholeChars_take_utf8Bytes (limit : Nat) (cs : List Char) :
    wholeChars ((utf8Bytes cs).take limit) = takeBytes limit cs := by
  unfold wholeChars
  induction cs generalizing limit with
  | nil => rw [utf8Bytes, List.flatMap_nil, List.take_nil, takeBytes, Utf8Decoder.sift]
  | cons c cs ih =>
    have size : (charBytes c).length = c.utf8Size := length_charBytes c
    have reads := Utf8Decoder.reads_charBytes c
    have first := reads.sift_take limit
    rw [utf8Bytes_cons, List.take_append]
    by_cases fits : c.utf8Size ≤ limit
    · have all : (charBytes c).take limit = charBytes c := List.take_of_length_le (by omega)
      rw [all, if_neg (by omega)] at first
      rw [all, Utf8Decoder.sift_append, first, reads.feed, size, ih, takeBytes, if_pos fits,
        List.singleton_append]
    · -- the cut goes through the first character, and nothing behind it is reached
      have rest : limit - (charBytes c).length = 0 := by omega
      rw [if_pos (by omega)] at first
      rw [rest, List.take_zero, List.append_nil, first, takeBytes, if_neg fits]

end RouteFeed.Text
