import RouteFeed.Text.Charset.Reading

/-! Decoding of UTF-8, a byte at a time. What is no character becomes U+FFFD: once for the longest
start of a character that went before, and once for every other stray byte. -/
namespace RouteFeed.Text

/-- A decoder of UTF-8 between two bytes. Of a character that has begun it holds the bits so far,
how many bytes it still needs, and the range of the next one. -/
structure Utf8Decoder where
  bits : Nat := 0
  need : Nat := 0
  low : Nat := 0
  high : Nat := 0
  deriving DecidableEq

namespace Utf8Decoder

def begin (b : Nat) : List Char × Utf8Decoder :=
  if b < 0x80 then ([Char.ofNat b], {})
  else if b < 0xc2 then ([replacement], {})
  else if b < 0xe0 then ([], ⟨b - 0xc0, 1, 0x80, 0xbf⟩)
  else if b == 0xe0 then ([], ⟨0, 2, 0xa0, 0xbf⟩)
  else if b < 0xf0 then ([], ⟨b - 0xe0, 2, 0x80, 0xbf⟩)
  else if b == 0xf0 then ([], ⟨0, 3, 0x90, 0xbf⟩)
  else if b < 0xf4 then ([], ⟨b - 0xf0, 3, 0x80, 0xbf⟩)
  else if b == 0xf4 then ([], ⟨4, 3, 0x80, 0x8f⟩)
  else ([replacement], {})

/-- Two bytes that begin half of a surrogate pair, which is no character. They wait for the third
byte all the same. -/
def isSurrogate (d : Utf8Decoder) : Bool := d.need = 1 && 0x360 ≤ d.bits && d.bits < 0x380

/-- Take the next byte: the characters that it completes, and the decoder behind it. -/
def step (d : Utf8Decoder) (b : Nat) : List Char × Utf8Decoder :=
  match d.need with
  | 0 => begin b
  | need + 1 =>
    if d.isSurrogate then
      let (cs, d) := begin b
      (replacement :: replacement :: cs, d)
    else if d.low ≤ b ∧ b ≤ d.high then
      let bits := d.bits * 64 + (b - 0x80)
      if need = 0 then ([Char.ofNat bits], {}) else ([], ⟨bits, need, 0x80, 0xbf⟩)
    else
      let (cs, d) := begin b
      (replacement :: cs, d)

def feed (d : Utf8Decoder) : List Nat → List Char × Utf8Decoder
  | [] => ([], d)
  | b :: bs =>
    let (cs, d) := d.step b
    let (more, d) := d.feed bs
    (cs ++ more, d)

def completed (d : Utf8Decoder) (b : Nat) : List Char :=
  if b < 0x80 then [Char.ofNat b]
  else if d.need = 1 ∧ d.isSurrogate = false ∧ d.low ≤ b ∧ b ≤ d.high then
    [Char.ofNat (d.bits * 64 + (b - 0x80))]
  else []

/-- Take a piece of bytes and leave out what is no character. -/
def sift (d : Utf8Decoder) : List Nat → List Char
  | [] => []
  | b :: bs => d.completed b ++ (d.step b).2.sift bs

def flush (d : Utf8Decoder) : List Char :=
  if d.need = 0 then [] else if d.isSurrogate then [replacement, replacement] else [replacement]

theorem feed_append (d : Utf8Decoder) (xs ys : List Nat) :
    d.feed (xs ++ ys) =
      ((d.feed xs).1 ++ ((d.feed xs).2.feed ys).1, ((d.feed xs).2.feed ys).2) := by
  induction xs generalizing d with
  | nil => simp [feed]
  | cons b bs ih => simp [feed, ih, List.append_assoc]

end Utf8Decoder

def ofUtf8 (bytes : List Nat) : List Char :=
  let (text, rest) := Utf8Decoder.feed {} bytes
  text ++ rest.flush

/-- The whole characters among bytes in UTF-8; all else is left out, also at the end. -/
def wholeChars (bytes : List Nat) : List Char := Utf8Decoder.sift {} bytes

end RouteFeed.Text
