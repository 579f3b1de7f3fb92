import RouteFeed.Text.Charset.Reading

/-! Reading of UTF-16 and UTF-32, in either order of bytes. -/
namespace RouteFeed.Text

def ofBytes (bigEndian : Bool) (bytes : List Nat) : Nat :=
  (if bigEndian then bytes else bytes.reverse).foldl (fun n b => n * 256 + b) 0

/-- A unit of UTF-16 that is the first half of a pair. -/
def isHighHalf (n : Nat) : Bool := 0xd800 ≤ n && n < 0xdc00

/-- A unit of UTF-16 that is the second half of a pair. -/
def isLowHalf (n : Nat) : Bool := 0xdc00 ≤ n && n < 0xe000

def joinHalves (high low : Nat) : Nat := 0x10000 + (high - 0xd800) * 0x400 + (low - 0xdc00)

def readUtf16 (bigEndian : Bool) : List Nat → Reading
  | a :: b :: bytes =>
    let unit := ofBytes bigEndian [a, b]
    if isHighHalf unit then
      match bytes with
      | c :: d :: _ =>
        let low := ofBytes bigEndian [c, d]
        if isLowHalf low then .ofNumber 4 (joinHalves unit low) else .stray 2
      | _ => .unfinished
    else .ofNumber 2 unit
  | _ => .unfinished

def readUtf32 (bigEndian : Bool) : List Nat → Reading
  | a :: b :: c :: d :: _ => .ofNumber 4 (ofBytes bigEndian [a, b, c, d])
  | _ => .unfinished

/-- The order of bytes of a text in units of so many bytes that begins with a mark. -/
def markedOrder? (size : Nat) (bytes : List Nat) : Option Bool :=
  [false, true].find? fun bigEndian =>
    bytes.length = size && ofBytes bigEndian bytes = 0xfeff

end RouteFeed.Text
