import RouteFeed.Text.Charset.Bytewise.National
import RouteFeed.Text.Charset.Chinese
import RouteFeed.Text.Charset.Japanese
import RouteFeed.Text.Charset.Korean

/-! Reading of the character sets that switch between graphic sets by escape sequences. -/
namespace RouteFeed.Text

/-- Graphic sets that an escape sequence can designate. -/
inductive GraphicSet where
  | ascii
  | latin
  | greek
  | roman
  | kana
  | jisX0208
  | jisX0212
  | jisX0213 (edition : Edition)
  | jisX0213Second
  | ksX1001
  | gb2312
  deriving DecidableEq

namespace GraphicSet

def width : GraphicSet → Nat
  | ascii | latin | greek | roman | kana => 1
  | jisX0208 | jisX0212 | jisX0213 _ | jisX0213Second | ksX1001 | gb2312 => 2

def pairChars? (set : GraphicSet) (row cell : Nat) : Option (List Char) :=
  match set with
  | jisX0208 => (Plane.jisX0208.char? row cell).map fun c => [c]
  | jisX0212 => (Plane.jisX0212.char? row cell).map fun c => [c]
  | jisX0213 edition => edition.chars? row cell
  | jisX0213Second => (Plane.jisX0213Second.char? row cell).map fun c => [c]
  | ksX1001 => (Plane.ksX1001.char? row cell).map fun c => [c]
  | gb2312 => (Plane.gb2312.char? row cell).map fun c => [c]
  | ascii | latin | greek | roman | kana => none

/-- The character of one byte. The upper halves of other sets are reached by a single shift only. -/
def char? : GraphicSet → Nat → Option Char
  | ascii, b => some (Char.ofNat b)
  | roman, b => some (romanChar b)
  | kana, b => halfKana? (b + 0x80)
  | _, _ => none

def read (set : GraphicSet) : List Nat → Reading
  | [] => .unfinished
  | a :: bytes =>
    if set.width = 1 then .ofChar? 1 (set.char? a)
    else
      match bytes with
      | [] => .unfinished
      | b :: _ =>
        match set.pairChars? (a - 0x20) (b - 0x20) with
        | some cs => .chars cs 2
        | none => .stray 2

/-- The character of the upper half of the Greek set, in which three places are empty that have been
filled since. -/
def greekChar? (b : Nat) : Option Char :=
  if [0xa4, 0xa5, 0xaa].contains b then none
  else some (Bytewise.iso8859Part7.char b) |>.filter (· != replacement)

/-- What a single shift reads; only three sets can be shifted to. -/
def readShifted (set : GraphicSet) (b : Nat) : Reading :=
  let only (c : Option Char) : Reading :=
    match c with
    | some c => .chars [c] 3
    | none => .stray 3
  match set with
  | ascii => only (if b < 0x80 then some (Char.ofNat b) else none)
  | latin => only (if b < 0x80 then some (Char.ofNat (b + 0x80)) else none)
  | greek => only (if b < 0x80 then greekChar? (b + 0x80) else some (Char.ofNat (b - 0x80)))
  | _ => .refused ⟨.runtime, "internal codec error"⟩

end GraphicSet

/-- A character set that switches between graphic sets. -/
structure Switching where
  /-- The graphic sets with the last bytes of their designations; those of two bytes are marked. -/
  sets : List ((Bool × Nat) × GraphicSet)
  /-- Two controls shift between the first two designated sets. -/
  hasShifts : Bool := false
  /-- A single shift leads to the third designated set. -/
  hasSingleShift : Bool := false
  /-- A designation may have a prefix that names a revision. -/
  hasRevisions : Bool := true
  deriving DecidableEq

structure Switch where
  first : GraphicSet := .ascii
  second : GraphicSet := .ascii
  third : GraphicSet := .ascii
  isShifted : Bool := false
  /-- An unknown escape sequence is passed through. -/
  isPassing : Bool := false
  deriving DecidableEq

namespace Switching

def japanese : List ((Bool × Nat) × GraphicSet) := [
  ((true, 0x42), .jisX0208), ((false, 0x4a), .roman), ((true, 0x40), .jisX0208)]

def japaneseMore : List ((Bool × Nat) × GraphicSet) := ((true, 0x44), .jisX0212) :: japanese

def iso2022Kr : Switching where
  sets := [((true, 0x43), .ksX1001)]
  hasShifts := true
  hasRevisions := false

def iso2022Jp : Switching := { sets := japanese }

def iso2022Jp1 : Switching := { sets := japaneseMore }

def iso2022Jp2 : Switching where
  sets := japaneseMore ++ [
    ((true, 0x43), .ksX1001), ((true, 0x41), .gb2312), ((false, 0x41), .latin),
    ((false, 0x46), .greek)]
  hasSingleShift := true

def iso2022Jp3 : Switching where
  sets := [((true, 0x42), .jisX0208), ((true, 0x4f), .jisX0213 .first),
    ((true, 0x50), .jisX0213Second)]

def iso2022Jp2004 : Switching where
  sets := [((true, 0x42), .jisX0208), ((true, 0x51), .jisX0213 .second),
    ((true, 0x50), .jisX0213Second)]

def iso2022JpExt : Switching := { sets := ((false, 0x49), .kana) :: japaneseMore }

/-- The last byte of an escape sequence. -/
def isFinal (b : Nat) : Bool := 0x40 ≤ b && b ≤ 0x5a

/-- The second byte of an escape sequence that designates a set. -/
def isDesignating (b : Nat) : Bool := [0x28, 0x29, 0x24, 0x2e, 0x26].contains b

def maxSequence : Nat := 16

/-- The length of the escape sequence whose first `size` bytes have been read: zero if it is too
long, nothing if its end has not come. The next `passed` bytes do not end it. -/
def sequenceSize? (s : Switching) (size passed : Nat) : List Nat → Option Nat
  | [] => if maxSequence ≤ size then some 0 else none
  | b :: bytes =>
    if maxSequence ≤ size then some 0
    else if passed = 0 && isFinal b then some (size + 1)
    else
      let isRevision := passed = 0 && s.hasRevisions && b = 0x26 && bytes.head? = some 0x40
      s.sequenceSize? (size + 1) (if isRevision then 2 else passed - 1) bytes

def designated? (s : Switching) (sequence : List Nat) : Option (Nat × Bool × Nat) :=
  match sequence with
  | [_, 0x24, final] => some (0, true, final)
  | [_, 0x28, final] => some (0, false, final)
  | [_, 0x29, final] => some (1, false, final)
  | [_, 0x2e, final] => if s.hasSingleShift then some (2, false, final) else none
  | [_, 0x24, 0x28, final] => some (0, true, final)
  | [_, 0x24, 0x29, final] => some (1, true, final)
  | [_, _, _, 0x1b, 0x24, 0x42] => if s.hasRevisions then some (0, true, 0x42) else none
  | _ => none

def set? (s : Switching) (isPair : Bool) (final : Nat) : Option GraphicSet :=
  if !isPair && final = 0x42 then some .ascii
  else (s.sets.find? (·.1 == (isPair, final))).map Prod.snd

def readSequence (s : Switching) (state : Switch) (bytes : List Nat) : Reading × Switch :=
  match s.sequenceSize? 1 0 (bytes.drop 1) with
  | none => (.unfinished, state)
  | some 0 => (.stray 1, state)
  | some size =>
    match (s.designated? (bytes.take size)).bind fun (place, isPair, final) =>
        (s.set? isPair final).map (place, ·) with
    | some (0, set) => (.chars [] size, { state with first := set })
    | some (1, set) => (.chars [] size, { state with second := set })
    | some (_, set) => (.chars [] size, { state with third := set })
    | none => (.stray size, state)

def readEscape (s : Switching) (state : Switch) (bytes : List Nat) : Reading × Switch :=
  match bytes.drop 1 with
  | [] => (.unfinished, state)
  | b :: others =>
    if isDesignating b then s.readSequence state bytes
    else if s.hasSingleShift && b = 0x4e then
      match others with
      | [] => (.unfinished, state)
      | c :: _ => (state.third.readShifted c, state)
    else (.chars ['\x1b'] 1, { state with isPassing := true })

/-- Read what comes next, with the state behind it. A line feed ends a shift. -/
def read (s : Switching) (state : Switch) : List Nat → Reading × Switch
  | [] => (.unfinished, state)
  | a :: bytes =>
    let itself : Reading := .chars [Char.ofNat a] 1
    if state.isPassing then (itself, { state with isPassing := !isFinal a })
    else if a = 0x1b then s.readEscape state (a :: bytes)
    else if s.hasShifts && a = 0x0f then (.chars [] 1, { state with isShifted := false })
    else if s.hasShifts && a = 0x0e then (.chars [] 1, { state with isShifted := true })
    else if a = 0x0a then (itself, { state with isShifted := false })
    else if a < 0x20 then (itself, state)
    else if 0x80 ≤ a then (.stray 1, state)
    else ((if state.isShifted then state.second else state.first).read (a :: bytes), state)

end Switching
end RouteFeed.Text
