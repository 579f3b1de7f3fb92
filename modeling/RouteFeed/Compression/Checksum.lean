/-! Checksums of bytes. -/
namespace RouteFeed.Compression

/-- Adler-32: two sums modulo a prime, the second one above the first. -/
def adler32 (bytes : Array Nat) : Nat :=
  let (a, b) := bytes.foldl (fun (a, b) byte =>
    let a := (a + byte) % 65521
    (a, (b + a) % 65521)) (1, 0)
  b * 65536 + a

def crcBit (crc : Nat) : Nat := if crc % 2 = 1 then (crc / 2) ^^^ 0xedb88320 else crc / 2

def crcByte (crc byte : Nat) : Nat :=
  (List.range 8).foldl (fun crc _ => crcBit crc) (crc ^^^ byte)

def crc32 (bytes : Array Nat) : Nat := bytes.foldl crcByte 0xffffffff ^^^ 0xffffffff

end RouteFeed.Compression
