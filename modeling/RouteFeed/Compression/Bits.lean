/-! Reading of bits: the bytes of a stream hold them from the lowest on. -/
namespace RouteFeed.Compression

/-- The bytes of a stream that have come, and how many of their bits have been read. -/
structure Bits where
  bytes : Array Nat := #[]
  position : Nat := 0

inductive Stop where
  | short
  | broken (message : String)
  /-- The stream goes on from a dictionary that it does not bring. -/
  | unprimed
  deriving DecidableEq

/-- What a stop is reported as, unless more bytes can help. -/
def Stop.report? : Stop → Option String
  | short => none
  | broken message => some s!"Error -3 while decompressing data: {message}"
  | unprimed => some "Error 2 while decompressing data"

abbrev BitReader := StateT Bits (Except Stop)

namespace BitReader

def fail {α : Type} (message : String) : BitReader α := throw (.broken message)

def bit : BitReader Nat := do
  let s ← get
  match s.bytes[s.position / 8]? with
  | none => throw .short
  | some b =>
    set { s with position := s.position + 1 }
    return b / Nat.pow 2 (s.position % 8) % 2

/-- The number in so many bits, the lowest one first. -/
def number : (count : Nat) → BitReader Nat
  | 0 => return 0
  | count + 1 => do
    let low ← bit
    let high ← number count
    return low + 2 * high

def alignByte : BitReader Unit :=
  modify fun s => { s with position := (s.position + 7) / 8 * 8 }

def byteRun : (count : Nat) → BitReader (List Nat)
  | 0 => return []
  | count + 1 => do
    let first ← number 8
    let rest ← byteRun count
    return first :: rest

end BitReader
end RouteFeed.Compression
