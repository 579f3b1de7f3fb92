import RouteFeed.Text.Charset.Reading
import RouteFeed.Text.Digit

/-! Reading of texts in Latin-1 in which a backslash leads into the number of a character. -/
namespace RouteFeed.Text

def readHexEscape (size : Nat) : (digits : Nat) → (number : Nat) → List Nat → Reading
  | 0, n, _ => .ofNumber size n
  | _ + 1, _, [] => .unfinished
  | digits + 1, n, b :: bytes =>
    match hexValue? (Char.ofNat b) with
    | some value => readHexEscape (size + 1) digits (n * 16 + value) bytes
    | none => .stray size

/-- The value of up to so many octal digits, and how many there are. -/
def octalRun : (most : Nat) → (value : Nat) → List Nat → Nat × Nat
  | 0, value, _ => (value, 0)
  | _ + 1, value, [] => (value, 0)
  | most + 1, value, b :: bytes =>
    if 0x30 ≤ b && b ≤ 0x37 then
      let (value, count) := octalRun most (value * 8 + (b - 0x30)) bytes
      (value, count + 1)
    else (value, 0)

/-- The control that a letter behind a backslash stands for, or the mark that it guards. -/
def simpleEscape? (b : Nat) : Option Char :=
  match Char.ofNat b with
  | '\\' => some '\\'
  | '\'' => some '\''
  | '"' => some '"'
  | 'a' => some '\x07'
  | 'b' => some '\x08'
  | 'f' => some '\x0c'
  | 'n' => some '\n'
  | 'r' => some '\r'
  | 't' => some '\t'
  | 'v' => some '\x0b'
  | _ => none

def readNameEscape : List Nat → Reading
  | [] => .unfinished
  | b :: bytes =>
    if b = 0x7b then
      match bytes.idxOf? 0x7d with
      | none => .unfinished
      | some 0 => .stray 3
      | some n => .stray (n + 4)
    else .stray 2

def readEscape (b : Nat) (bytes : List Nat) : Reading :=
  match simpleEscape? b with
  | some c => .chars [c] 2
  | none =>
    match Char.ofNat b with
    | '\n' => .chars [] 2
    | 'x' => readHexEscape 2 2 0 bytes
    | 'u' => readHexEscape 2 4 0 bytes
    | 'U' => readHexEscape 2 8 0 bytes
    | 'N' => readNameEscape bytes
    | c =>
      let (value, count) := octalRun 3 0 (b :: bytes)
      if count = 0 then .chars ['\\', c] 2 else .chars [Char.ofNat value] (count + 1)

/-- Read a text with escapes. If it is raw, only the numbers of characters are escapes. -/
def readEscaped (isRaw : Bool) : List Nat → Reading
  | [] => .unfinished
  | 0x5c :: bytes =>
    match bytes with
    | [] => .unfinished
    | b :: bytes =>
      if isRaw then
        match Char.ofNat b with
        | 'u' => readHexEscape 2 4 0 bytes
        | 'U' => readHexEscape 2 8 0 bytes
        | c => .chars ['\\', c] 2
      else readEscape b bytes
  | b :: _ => .chars [Char.ofNat b] 1

end RouteFeed.Text
