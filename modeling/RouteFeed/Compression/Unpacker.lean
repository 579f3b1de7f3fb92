import RouteFeed.Compression.Checksum
import RouteFeed.Compression.Inflate

/-! Unpacking of a compressed stream that arrives in pieces. A stream has a head, compressed blocks
and checksums; what stands behind them is passed over. -/
namespace RouteFeed.Compression

inductive Format where
  | raw
  | zlib
  | gzip
  deriving DecidableEq

inductive Part where
  | head
  | blocks
  | sums
  | over
  deriving DecidableEq

structure Unpacker where
  format : Format
  part : Part := .head
  inflation : Inflation := {}
  given : Nat := 0

namespace Unpacker

def skipText : (most : Nat) → BitReader Unit
  | 0 => return ()
  | most + 1 => do if (← BitReader.number 8) ≠ 0 then skipText most

/-- Check the first bytes against their checksum. -/
def checkHead : BitReader Unit := do
  let s ← get
  let sum := crc32 (s.bytes.take (s.position / 8))
  if (← BitReader.number 16) ≠ sum % 0x10000 then BitReader.fail "header crc mismatch"

def readGzipHead : BitReader Unit := do
  if (← BitReader.number 16) ≠ 0x8b1f then BitReader.fail "incorrect header check"
  let flags ← BitReader.number 16
  if flags % 0x100 ≠ 8 then BitReader.fail "unknown compression method"
  if 0x20 ≤ flags / 0x100 then BitReader.fail "unknown header flags set"
  let has (bit : Nat) : Bool := flags.testBit (8 + bit)
  let _ ← BitReader.byteRun 6
  if has 2 then
    let _ ← BitReader.byteRun (← BitReader.number 16)
  if has 3 then skipText (← get).bytes.size
  if has 4 then skipText (← get).bytes.size
  if has 1 then checkHead

/-- Read the head of a zlib stream. A preset dictionary is asked for in vain. -/
def readZlibHead : BitReader Unit := do
  let first ← BitReader.number 8
  let second ← BitReader.number 8
  if (first * 256 + second) % 31 ≠ 0 then BitReader.fail "incorrect header check"
  if first % 16 ≠ 8 then BitReader.fail "unknown compression method"
  if 7 < first / 16 then BitReader.fail "invalid window size"
  if second.testBit 5 then
    let _ ← BitReader.byteRun 4
    throw .unprimed

def readHead : Format → BitReader Unit
  | .raw => return ()
  | .zlib => readZlibHead
  | .gzip => readGzipHead

/-- The number that some bytes give, the first one highest. -/
def bigEndian (bytes : List Nat) : Nat := bytes.foldl (fun n b => n * 256 + b) 0

/-- Read what follows the blocks, and check it against the output. -/
def readSums (output : Array Nat) : Format → BitReader Unit
  | .raw => return ()
  | .zlib => do
    BitReader.alignByte
    let sum := bigEndian (← BitReader.byteRun 4)
    if sum ≠ adler32 output then BitReader.fail "incorrect data check"
  | .gzip => do
    BitReader.alignByte
    if (← BitReader.number 32) ≠ crc32 output then BitReader.fail "incorrect data check"
    if (← BitReader.number 32) ≠ output.size % 0x100000000 then
      BitReader.fail "incorrect length check"

def onward (u : Unpacker) (reader : BitReader Unit) (next : Part) : Except Stop Unpacker := do
  let ((), source) ← reader.run u.inflation.source
  return { u with part := next, inflation := { u.inflation with source } }

/-- Go through a part of the stream: the unpacker behind it, or as far as it got. -/
def advance (u : Unpacker) : Unpacker × Option Stop :=
  let read (reader : BitReader Unit) (next : Part) : Unpacker × Option Stop :=
    match u.onward reader next with
    | .ok u => (u, none)
    | .error stop => (u, some stop)
  match u.part with
  | .head => read (readHead u.format) .blocks
  | .blocks =>
    let (inflation, stop) := u.inflation.run u.inflation.maxSteps
    ({ u with inflation, part := if stop.isNone then .sums else .blocks }, stop)
  | .sums => read (readSums u.inflation.output u.format) .over
  | .over => (u, none)

/-- Go through so many parts, up to the first that is not complete. -/
def advanceAll : (parts : Nat) → Unpacker → Unpacker × Option Stop
  | 0, u => (u, none)
  | parts + 1, u =>
    match u.advance with
    | (u, none) => advanceAll parts u
    | (u, some stop) => (u, some stop)

/-- Take a piece of the stream: what it adds to the output, or the report of a broken stream. -/
def feed (u : Unpacker) (piece : List Nat) : Except String (List Nat × Unpacker) :=
  let source := { u.inflation.source with bytes := u.inflation.source.bytes ++ piece.toArray }
  let (u, stop) := advanceAll 3 { u with inflation := { u.inflation with source } }
  match stop.bind Stop.report? with
  | some report => .error report
  | none =>
    let output := u.inflation.output
    .ok ((output.extract u.given output.size).toList, { u with given := output.size })

end Unpacker
end RouteFeed.Compression
