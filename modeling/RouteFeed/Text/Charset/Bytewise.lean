import RouteFeed.Text.Charset.Reading

/-! Character sets with one byte for each character. -/
namespace RouteFeed.Text

/-- A character set with one byte for each character: the characters of the bytes in order. -/
structure Bytewise where
  table : Array Char
  deriving DecidableEq

namespace Bytewise

def full (chars : String) : Bytewise := ⟨chars.toList.toArray⟩

def consecutive (first count : Nat) : String :=
  String.ofList ((List.range count).map fun i => Char.ofNat (first + i))

def aboveAscii (chars : String) : Bytewise := full (consecutive 0 0x80 ++ chars)

/-- A set that begins with ASCII and a second block of controls. -/
def aboveControls (chars : String) : Bytewise := full (consecutive 0 0xa0 ++ chars)

def char (t : Bytewise) (b : Nat) : Char := t.table.getD b replacement

def ascii : Bytewise := aboveAscii ""

def latin1 : Bytewise := full (consecutive 0 0x100)

end Bytewise
end RouteFeed.Text
