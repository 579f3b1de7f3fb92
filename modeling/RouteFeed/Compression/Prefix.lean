import RouteFeed.Compression.Bits

/-! Prefix codes that are given by the lengths of their words. Words of one length go to the symbols
in order, and shorter words come before longer ones. -/
namespace RouteFeed.Compression

/-- A prefix code: for each length from one on, the symbols whose words have it. -/
structure PrefixCode where
  levels : List (Array Nat)

namespace PrefixCode

def level (lengths : List Nat) (length : Nat) : Array Nat :=
  (lengths.zipIdx.filterMap fun (l, symbol) => if l = length then some symbol else none).toArray

/-- The words of some length that are left behind the levels; nothing if there are too many
symbols. -/
def left? : (left : Nat) → List (Array Nat) → Option Nat
  | left, [] => some left
  | left, symbols :: levels =>
    if 2 * left < symbols.size then none else left? (2 * left - symbols.size) levels

/-- The code with the lengths of its words; a length of zero stands for no word. Words may be left
over only in a code of one symbol with one bit, if that is admitted. A code without symbols reads a
bit in vain. -/
def ofLengths? (admitsSingle : Bool) (lengths : List Nat) : Option PrefixCode :=
  let longest := lengths.foldl max 0
  let levels := (List.range longest).map fun i => level lengths (i + 1)
  if longest = 0 then some ⟨[#[]]⟩
  else
    match left? 1 levels with
    | none => none
    | some left => if left = 0 || (admitsSingle && longest = 1) then some ⟨levels⟩ else none

/-- Read the rest of a word: the words of the next level begin with number `first`, and the bits so
far have number `word`. -/
def readFrom (first word : Nat) : List (Array Nat) → BitReader (Option Nat)
  | [] => return none
  | symbols :: levels => do
    let word := 2 * word + (← BitReader.bit)
    let first := 2 * first
    match symbols[word - first]? with
    | some symbol => return some symbol
    | none => readFrom (first + symbols.size) word levels

def read (c : PrefixCode) : BitReader (Option Nat) := readFrom 0 0 c.levels

end PrefixCode
end RouteFeed.Compression
