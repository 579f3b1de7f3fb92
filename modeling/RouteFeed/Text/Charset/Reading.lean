import RouteFeed.Failure

/-! What the bytes at the head of a text come to while it is decoded. -/
namespace RouteFeed.Text

def replacement : Char := '\ufffd'

inductive Reading where
  | unfinished
  | chars (cs : List Char) (size : Nat)
  | stray (size : Nat)
  | refused (failure : Failure)

namespace Reading

def ofChars? (size : Nat) : Option (List Char) → Reading
  | some cs => .chars cs size
  | none => .stray 1

/-- A character in so many bytes, or a first byte that begins none. -/
def ofChar? (size : Nat) (c : Option Char) : Reading := ofChars? size (c.map fun c => [c])

/-- The character with a number in so many bytes, or so many bytes that are none. -/
def ofNumber (size n : Nat) : Reading :=
  if n.isValidChar then .chars [Char.ofNat n] size else .stray size

def asciiOr (longer : Nat → List Nat → Reading) : List Nat → Reading
  | [] => .unfinished
  | a :: bytes => if a < 0x80 then .chars [Char.ofNat a] 1 else longer a bytes

def pairOr (char? : Nat → Nat → Option Char) (a : Nat) : List Nat → Reading
  | [] => .unfinished
  | b :: _ => ofChar? 2 (char? a b)

end Reading
end RouteFeed.Text
