import RouteFeed.Text.Charset.Plane.KsX1001

/-! Reading of the Korean character sets: EUC-KR, its unified extension and the combining set. -/
namespace RouteFeed.Text

def initialLetters : List Char := "ㄱㄲㄴㄷㄸㄹㅁㅂㅃㅅㅆㅇㅈㅉㅊㅋㅌㅍㅎ".toList

def medialLetters : List Char := "ㅏㅐㅑㅒㅓㅔㅕㅖㅗㅘㅙㅚㅛㅜㅝㅞㅟㅠㅡㅢㅣ".toList

def finalLetters : List Char := "ㄱㄲㄳㄴㄵㄶㄷㄹㄺㄻㄼㄽㄾㄿㅀㅁㅂㅄㅅㅆㅇㅈㅊㅋㅌㅍㅎ".toList

/-- A syllable by the numbers of its parts; the number of no final letter is zero. -/
def hangul (initial medial final : Nat) : Char :=
  Char.ofNat (0xac00 + initial * 588 + medial * 28 + final)

def eucKrChar? (a b : Nat) : Option Char := Plane.ksX1001.char? (a - 0xa0) (b - 0xa0)

/-- The first bytes of a syllable that EUC-KR spells out: the filler of four letters. -/
def isSpelling (a b : Nat) : Bool := a = 0xa4 && b = 0xd4

/-- The syllable that three letters of EUC-KR spell out; a filler stands for no final letter. -/
def spelled? : List Nat → Option Char
  | [0xa4, x, 0xa4, y, 0xa4, z] => do
    let letter (b : Nat) : Char := Char.ofNat (0x3130 + (b - 0xa0))
    let initial ← initialLetters.idxOf? (letter x)
    let medial ← medialLetters.idxOf? (letter y)
    let final ← if z = 0xd4 then some 0 else (finalLetters.idxOf? (letter z)).map (· + 1)
    return hangul initial medial final
  | _ => none

def readEucKr : List Nat → Reading := .asciiOr fun a bytes =>
  match bytes with
  | [] => .unfinished
  | b :: letters =>
    if isSpelling a b then
      if letters.length < 6 then .unfinished else .ofChar? 8 (spelled? (letters.take 6))
    else .ofChar? 2 (eucKrChar? a b)

/-- The syllables that EUC-KR has no two bytes for, in order. -/
def furtherHangul : Array Char := Plane.ksX1001.absent 0xac00 11172

/-- The place of two bytes among the codes of further syllables. -/
def furtherHangulIndex? (a b : Nat) : Option Nat := do
  let cell ←
    if 0x41 ≤ b ∧ b ≤ 0x5a then some (b - 0x41)
    else if 0x61 ≤ b ∧ b ≤ 0x7a then some (b - 0x61 + 26)
    else if 0x81 ≤ b ∧ b ≤ 0xfe then some (b - 0x81 + 52)
    else none
  if 0x81 ≤ a ∧ a ≤ 0xa0 then some ((a - 0x81) * 178 + cell)
  else if 0xa1 ≤ a ∧ a ≤ 0xc6 ∧ cell < 84 then some (32 * 178 + (a - 0xa1) * 84 + cell)
  else none

/-- Read the unified Korean set, which has two bytes for every syllable. -/
def readUnifiedKorean : List Nat → Reading := .asciiOr <| .pairOr fun a b =>
  (eucKrChar? a b).or ((furtherHangulIndex? a b).bind (furtherHangul[·]?))

/-- A part of a syllable in the combining set: none, or one with a number. -/
abbrev HangulPart := Option Nat

/-- The part that five bits stand for; `runs` holds the first bits of each run of parts, the number
of its first part and its length. -/
def hangulPart? (filler : Nat) (runs : List (Nat × Nat × Nat)) (bits : Nat) : Option HangulPart :=
  if bits = filler then some none
  else
    (runs.find? fun (first, _, count) => first ≤ bits && bits < first + count).map
      fun (first, number, _) => some (number + (bits - first))

/-- The character that the parts of a syllable come to: the syllable, or a single part. -/
def combined? (initial medial final : HangulPart) : Option Char :=
  match initial, medial, final with
  | some i, some m, f => some (hangul i m ((f.map (· + 1)).getD 0))
  | some i, none, none => initialLetters[i]?
  | none, some m, none => medialLetters[m]?
  | none, none, some f => finalLetters[f]?
  | none, none, none => some '\u3000'
  | _, _, _ => none

/-- The syllable of two bytes, which hold three parts of five bits. -/
def combiningHangul? (a b : Nat) : Option Char := do
  let initial ← hangulPart? 1 [(2, 0, 19)] (a / 4 % 32)
  let medial ← hangulPart? 2 [(3, 0, 5), (10, 5, 6), (18, 11, 6), (26, 17, 4)]
    (a * 8 % 32 + b / 32)
  let final ← hangulPart? 1 [(2, 0, 16), (19, 16, 11)] (b % 32)
  combined? initial medial final

/-- The symbol or Hanja of two bytes in the combining set. Letters and syllables have no second
code. -/
def combiningSymbol? (a b : Nat) : Option Char :=
  if a = 0xdf || 0xf9 < a || b < 0x31 || (0x80 ≤ b && b < 0x91) || b % 0x80 = 0x7f ||
      (a = 0xda && 0xa1 ≤ b && b ≤ 0xd3) then
    none
  else
    let pair := if a < 0xe0 then 2 * (a - 0xd9) + 1 else 2 * (a - 0xe0) + 42
    let cell := if b < 0x91 then b - 0x31 else b - 0x43
    if a = 0xd8 then none else Plane.ksX1001.char? (pair + cell / 94) (cell % 94 + 1)

def readJohab : List Nat → Reading := .asciiOr <| .pairOr fun a b =>
  if a < 0xd8 then combiningHangul? a b else combiningSymbol? a b

end RouteFeed.Text
