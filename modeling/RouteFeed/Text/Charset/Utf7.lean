import RouteFeed.Text.Charset.Wide

/-! Reading of UTF-7. A plus sign begins a section in base 64, which holds units of UTF-16; all else
is ASCII. -/
namespace RouteFeed.Text

def base64Value? (b : Nat) : Option Nat :=
  if 0x41 ≤ b ∧ b ≤ 0x5a then some (b - 0x41)
  else if 0x61 ≤ b ∧ b ≤ 0x7a then some (b - 0x61 + 26)
  else if 0x30 ≤ b ∧ b ≤ 0x39 then some (b - 0x30 + 52)
  else if b = 0x2b then some 62
  else if b = 0x2f then some 63
  else none

structure Base64Section where
  /-- Bits that do not make a unit yet, and how many. -/
  bits : Nat := 0
  count : Nat := 0
  half : Option Nat := none
  text : List Char := []
  /-- The number of bytes so far, with the plus sign. -/
  size : Nat := 1

namespace Base64Section

def takeUnit (s : Base64Section) (unit : Nat) : Base64Section :=
  match s.half with
  | some high =>
    if isLowHalf unit then
      { s with half := none, text := Char.ofNat (joinHalves high unit) :: s.text }
    else
      let s := { s with half := none, text := replacement :: s.text }
      if isHighHalf unit then { s with half := some unit }
      else { s with text := Char.ofNat unit :: s.text }
  | none =>
    if isHighHalf unit then { s with half := some unit }
    else { s with text := (if isLowHalf unit then replacement else Char.ofNat unit) :: s.text }

def takeDigit (s : Base64Section) (digit : Nat) : Base64Section :=
  let bits := s.bits * 64 + digit
  let count := s.count + 6
  let s := { s with size := s.size + 1 }
  if 16 ≤ count then
    let left := count - 16
    let unit := Nat.pow 2 left
    { s with bits := bits % unit, count := left }.takeUnit (bits / unit)
  else { s with bits, count }

def scan (s : Base64Section) : List Nat → Base64Section × Option Nat
  | [] => (s, none)
  | b :: bytes =>
    match base64Value? b with
    | some digit => (s.takeDigit digit).scan bytes
    | none => (s, some b)

/-- The bits that are left are more than the padding of a unit. -/
def isRagged (s : Base64Section) : Bool := 6 ≤ s.count || s.bits != 0

/-- What a section comes to with the byte that ends it. The byte belongs to it if it is a hyphen, or
if the section is broken. -/
def close (s : Base64Section) (terminator : Nat) : Reading :=
  let text := s.text.reverse
  if s.isRagged then .chars (text ++ [replacement]) (s.size + 1)
  else
    let half := if s.half.isSome && terminator < 0x80 then [replacement] else []
    .chars (text ++ half) (if terminator = 0x2d then s.size + 1 else s.size)

def finish (s : Base64Section) : List Char :=
  s.text.reverse ++ if s.isRagged || s.half.isSome then [replacement] else []

end Base64Section

def readUtf7 : List Nat → Reading
  | [] => .unfinished
  | 0x2b :: bytes =>
    match bytes with
    | [] => .unfinished
    | b :: _ =>
      if b = 0x2d then .chars ['+'] 2
      else if (base64Value? b).isNone then .stray 2
      else
        match Base64Section.scan {} bytes with
        | (_, none) => .unfinished
        | (s, some terminator) => s.close terminator
  | b :: _ => if b < 0x80 then .chars [Char.ofNat b] 1 else .stray 1

/-- What bytes of UTF-7 come to at the end of the text, if they begin with a section. -/
def finishUtf7 (bytes : List Nat) : List Char := (Base64Section.scan {} (bytes.drop 1)).1.finish

end RouteFeed.Text
