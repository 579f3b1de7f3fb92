import RouteFeed.Text.Charset.Plane.Cp932
import RouteFeed.Text.Charset.Plane.JisX0208
import RouteFeed.Text.Charset.Plane.JisX0212
import RouteFeed.Text.Charset.Plane.JisX0213
import RouteFeed.Text.Charset.Plane.JisX0213Second

/-! Reading of the Japanese character sets: Shift JIS and EUC-JP with their variants. -/
namespace RouteFeed.Text

def halfKana? (b : Nat) : Option Char :=
  if 0xa1 ≤ b ∧ b ≤ 0xdf then some (Char.ofNat (0xfec0 + b)) else none

/-- The Roman set of Japan: two characters differ from ASCII. -/
def romanChar (b : Nat) : Char :=
  if b = 0x5c then '¥' else if b = 0x7e then '\u203e' else Char.ofNat b

/-- A first byte of two in Shift JIS, up to a last one. -/
def isShiftedLead (last a : Nat) : Bool := (0x81 ≤ a && a ≤ 0x9f) || (0xe0 ≤ a && a ≤ last)

/-- The row and the cell of two bytes in Shift JIS. -/
def shiftedCell? (a b : Nat) : Option (Nat × Nat) :=
  if b < 0x40 || b = 0x7f || 0xfc < b then none
  else
    let place := if b < 0x80 then b - 0x40 else b - 0x41
    let pair := if a < 0xe0 then a - 0x81 else a - 0xc1
    some (2 * pair + 1 + place / 94, place % 94 + 1)

def readShiftJis : List Nat → Reading := .asciiOr fun a bytes =>
  if isShiftedLead 0xea a then
    .pairOr (fun a b => (shiftedCell? a b).bind fun (row, cell) => Plane.jisX0208.char? row cell)
      a bytes
  else .ofChar? 1 (halfKana? a)

/-- The characters of JIS X 0208 that are others in the code page for Shift JIS. -/
def cp932Change? : Nat → Nat → Option Char
  | 1, 33 => some '～'
  | 1, 34 => some '∥'
  | 1, 61 => some '－'
  | 1, 81 => some '￠'
  | 1, 82 => some '￡'
  | 2, 44 => some '￢'
  | _, _ => none

/-- The character of two bytes in the code page for Shift JIS. Some rows are for private use. -/
def cp932Char? (a b : Nat) : Option Char := do
  let (row, cell) ← shiftedCell? a b
  if 95 ≤ row ∧ row < 115 then
    some (Char.ofNat (0xe000 + 94 * (row - 95) + (cell - 1)))
  else
    ((cp932Change? row cell).or (Plane.cp932.char? row cell)).or (Plane.jisX0208.char? row cell)

/-- Read the code page for Shift JIS. -/
def readCp932 : List Nat → Reading := .asciiOr fun a bytes =>
  if a = 0x80 then .chars ['\x80'] 1
  else if a = 0xa0 then .chars ['\uf8f0'] 1
  else if 0xfd ≤ a then .chars [Char.ofNat (0xf8f1 + (a - 0xfd))] 1
  else
    match halfKana? a with
    | some c => .chars [c] 1
    | none => .pairOr cp932Char? a bytes

/-- Read EUC-JP with some reading of two bytes, and another of the two bytes behind a single shift
to the second plane. -/
def readEucJpWith (first second : Nat → Nat → Reading) : List Nat → Reading :=
  .asciiOr fun a bytes =>
    match a, bytes with
    | 0x8e, b :: _ => .ofChar? 2 (halfKana? b)
    | 0x8f, b :: c :: _ => second (b - 0xa0) (c - 0xa0)
    | 0x8f, _ => .unfinished
    | _, b :: _ => first (a - 0xa0) (b - 0xa0)
    | _, [] => .unfinished

def readEucJp : List Nat → Reading :=
  readEucJpWith (fun row cell => .ofChar? 2 (Plane.jisX0208.char? row cell))
    fun row cell => .ofChar? 3 (Plane.jisX0212.char? row cell)

inductive Edition where
  | first
  | second
  deriving DecidableEq

namespace Edition

/-- The characters of JIS X 0213 that are combined of two, by their row and cell. -/
def combined? : Nat → Nat → Option (List Char)
  | 4, 87 => some ['\u304b', '\u309a']
  | 4, 88 => some ['\u304d', '\u309a']
  | 4, 89 => some ['\u304f', '\u309a']
  | 4, 90 => some ['\u3051', '\u309a']
  | 4, 91 => some ['\u3053', '\u309a']
  | 5, 87 => some ['\u30ab', '\u309a']
  | 5, 88 => some ['\u30ad', '\u309a']
  | 5, 89 => some ['\u30af', '\u309a']
  | 5, 90 => some ['\u30b1', '\u309a']
  | 5, 91 => some ['\u30b3', '\u309a']
  | 5, 92 => some ['\u30bb', '\u309a']
  | 5, 93 => some ['\u30c4', '\u309a']
  | 5, 94 => some ['\u30c8', '\u309a']
  | 6, 88 => some ['\u31f7', '\u309a']
  | 11, 36 => some ['\xe6', '\u0300']
  | 11, 40 => some ['\u0254', '\u0300']
  | 11, 41 => some ['\u0254', '\u0301']
  | 11, 42 => some ['\u028c', '\u0300']
  | 11, 43 => some ['\u028c', '\u0301']
  | 11, 44 => some ['\u0259', '\u0300']
  | 11, 45 => some ['\u0259', '\u0301']
  | 11, 46 => some ['\u025a', '\u0300']
  | 11, 47 => some ['\u025a', '\u0301']
  | 11, 69 => some ['\u02e9', '\u02e5']
  | 11, 70 => some ['\u02e5', '\u02e9']
  | _, _ => none

/-- The characters that only the second edition has. -/
def isLate (row cell : Nat) : Bool :=
  [(14, 1), (15, 94), (47, 52), (47, 94), (84, 7), (94, 90), (94, 91), (94, 92), (94, 93),
    (94, 94)].contains (row, cell)

def chars? (edition : Edition) (row cell : Nat) : Option (List Char) :=
  if edition = .first && isLate row cell then none
  else
    (((Plane.jisX0208.char? row cell).or (Plane.jisX0213.char? row cell)).map fun c => [c]).or
      (combined? row cell)

/-- Read a character of the first plane in two bytes. What only a later edition has is passed over
as a whole. -/
def read (edition : Edition) (row cell : Nat) : Reading :=
  if edition = .first && isLate row cell then .stray 2 else .ofChars? 2 (edition.chars? row cell)

def secondChar? (edition : Edition) (row cell : Nat) : Option Char :=
  if edition = .first && row = 93 && cell = 27 then some '\u9b1d'
  else Plane.jisX0213Second.char? row cell

/-- Read EUC-JP with an edition of JIS X 0213. In the first plane a tilde has its full width; in the
second one characters of JIS X 0212 fill the gaps. -/
def readEuc (edition : Edition) : List Nat → Reading :=
  readEucJpWith
    (fun row cell =>
      if row = 2 && cell = 18 then .chars ['～'] 2 else edition.read row cell)
    fun row cell =>
      .ofChar? 3 ((edition.secondChar? row cell).or (Plane.jisX0212.char? row cell))

/-- The rows of the second plane that Shift JIS reaches, in order. -/
def shiftedRows : List Nat := [1, 8, 3, 4, 5, 12, 13, 14, 15] ++ (List.range 17).map (· + 78)

def readShifted (edition : Edition) : List Nat → Reading
  | [] => .unfinished
  | a :: bytes =>
    if a < 0x80 then .chars [romanChar a] 1
    else if isShiftedLead 0xfc a then
      match bytes with
      | [] => .unfinished
      | b :: _ =>
        match shiftedCell? a b with
        | none => .stray 1
        | some (row, cell) =>
          if row ≤ 94 then
            if row = 1 && cell = 32 then .chars ['\\'] 2 else edition.read row cell
          else
            .ofChar? 2 ((shiftedRows[row - 95]?).bind fun row => edition.secondChar? row cell)
    else .ofChar? 1 (halfKana? a)

end Edition
end RouteFeed.Text
