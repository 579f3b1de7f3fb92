import RouteFeed.Compression.Prefix

/-! Inflation: blocks of a compressed stream hold bytes as they are, or words of prefix codes for
bytes and for repetitions of what went before. -/
namespace RouteFeed.Compression

structure BlockCodes where
  literals : PrefixCode
  distances : PrefixCode

inductive Place where
  | blockHead
  | stored (left : Nat)
  | coded (codes : BlockCodes)
  /-- Nothing: the last block is over. -/
  | finished

structure Inflation where
  source : Bits := {}
  output : Array Nat := #[]
  place : Place := .blockHead
  isLast : Bool := false

namespace Inflation

/-- The lengths of the words for bytes and lengths in a block that does not give them. -/
def fixedLengths : List Nat :=
  List.replicate 144 8 ++ List.replicate 112 9 ++ List.replicate 24 7 ++ List.replicate 8 8

def fixedCodes : BlockCodes where
  literals := (PrefixCode.ofLengths? true fixedLengths).getD ⟨[]⟩
  distances := (PrefixCode.ofLengths? true (List.replicate 32 5)).getD ⟨[]⟩

def lengthOrder : List Nat :=
  [16, 17, 18, 0, 8, 7, 9, 6, 10, 5, 11, 4, 12, 3, 13, 2, 14, 1, 15]

def readShortLengths : (count : Nat) → BitReader (List Nat)
  | 0 => return []
  | count + 1 => do
    let first ← BitReader.number 3
    let rest ← readShortLengths count
    return first :: rest

/-- Read lengths of words until there are `total`; those so far are given, the last one first. Each
word gives one length at least. -/
def readLengths (code : PrefixCode) (total : Nat) :
    (most : Nat) → List Nat → BitReader (List Nat)
  | 0, lengths => return lengths.reverse
  | most + 1, lengths => do
    if total ≤ lengths.length then return lengths.reverse
    let symbol := (← code.read).getD 0
    let (length, count) ←
      match symbol with
      | 16 => do
        let count ← BitReader.number 2
        match lengths with
        | [] => BitReader.fail "invalid bit length repeat"
        | last :: _ => pure (last, 3 + count)
      | 17 => do pure (0, 3 + (← BitReader.number 3))
      | 18 => do pure (0, 11 + (← BitReader.number 7))
      | length => pure (length, 1)
    if total < lengths.length + count then BitReader.fail "invalid bit length repeat"
    readLengths code total most (List.replicate count length ++ lengths)

def demandCode (message : String) (admitsSingle : Bool) (lengths : List Nat) :
    BitReader PrefixCode :=
  match PrefixCode.ofLengths? admitsSingle lengths with
  | some code => return code
  | none => BitReader.fail message

def readCodes : BitReader BlockCodes := do
  let literalCount := 257 + (← BitReader.number 5)
  let distanceCount := 1 + (← BitReader.number 5)
  let lengthCount := 4 + (← BitReader.number 4)
  if 286 < literalCount || 30 < distanceCount then
    BitReader.fail "too many length or distance symbols"
  let given ← readShortLengths lengthCount
  let short := (List.range 19).map fun symbol => (given[lengthOrder.idxOf symbol]?).getD 0
  let lengthCode ← demandCode "invalid code lengths set" false short
  let total := literalCount + distanceCount
  let lengths ← readLengths lengthCode total total []
  if (lengths[256]?).getD 0 = 0 then BitReader.fail "invalid code -- missing end-of-block"
  let literals ← demandCode "invalid literal/lengths set" true (lengths.take literalCount)
  let distances ← demandCode "invalid distances set" true (lengths.drop literalCount)
  return ⟨literals, distances⟩

def readBlockHead : BitReader (Bool × Place) := do
  let isLast := (← BitReader.bit) = 1
  match ← BitReader.number 2 with
  | 0 =>
    BitReader.alignByte
    let size ← BitReader.number 16
    let check ← BitReader.number 16
    if size + check ≠ 0xffff then BitReader.fail "invalid stored block lengths"
    return (isLast, .stored size)
  | 1 => return (isLast, .coded fixedCodes)
  | 2 => return (isLast, .coded (← readCodes))
  | _ => BitReader.fail "invalid block type"

inductive Item where
  | literal (byte : Nat)
  | repetition (length distance : Nat)
  | blockEnd

/-- The shortest length of each symbol for lengths, with its number of further bits. -/
def lengthRanges : Array (Nat × Nat) := #[
  (3, 0), (4, 0), (5, 0), (6, 0), (7, 0), (8, 0), (9, 0), (10, 0), (11, 1), (13, 1), (15, 1),
  (17, 1), (19, 2), (23, 2), (27, 2), (31, 2), (35, 3), (43, 3), (51, 3), (59, 3), (67, 4), (83, 4),
  (99, 4), (115, 4), (131, 5), (163, 5), (195, 5), (227, 5), (258, 0)]

/-- The shortest distance of each symbol for distances, with its number of further bits. -/
def distanceRanges : Array (Nat × Nat) := #[
  (1, 0), (2, 0), (3, 0), (4, 0), (5, 1), (7, 1), (9, 2), (13, 2), (17, 3), (25, 3), (33, 4),
  (49, 4), (65, 5), (97, 5), (129, 6), (193, 6), (257, 7), (385, 7), (513, 8), (769, 8), (1025, 9),
  (1537, 9), (2049, 10), (3073, 10), (4097, 11), (6145, 11), (8193, 12), (12289, 12), (16385, 13),
  (24577, 13)]

def readRange (message : String) (range : Option (Nat × Nat)) : BitReader Nat :=
  match range with
  | some (least, count) => do return least + (← BitReader.number count)
  | none => BitReader.fail message

def readItem (codes : BlockCodes) : BitReader Item := do
  match ← codes.literals.read with
  | none => BitReader.fail "invalid literal/length code"
  | some symbol =>
    if symbol < 256 then return .literal symbol
    if symbol = 256 then return .blockEnd
    let length ← readRange "invalid literal/length code" lengthRanges[symbol - 257]?
    let range := (← codes.distances.read).bind fun symbol => distanceRanges[symbol]?
    let distance ← readRange "invalid distance code" range
    return .repetition length distance

/-- Put so many bytes behind the output, each the same as the one at a distance before it. -/
def repeated (output : Array Nat) (distance : Nat) : (length : Nat) → Array Nat
  | 0 => output
  | length + 1 => repeated (output.push (output.getD (output.size - distance) 0)) distance length

def behindBlock (isLast : Bool) : Place := if isLast then .finished else .blockHead

/-- Read one head, byte or item. -/
def step (s : Inflation) : Except Stop Inflation := do
  match s.place with
  | .blockHead =>
    let ((isLast, place), source) ← readBlockHead.run s.source
    return { s with source, isLast, place }
  | .stored 0 => return { s with place := behindBlock s.isLast }
  | .stored (left + 1) =>
    let (byte, source) ← (BitReader.number 8).run s.source
    return { s with source, output := s.output.push byte, place := .stored left }
  | .coded codes =>
    let (item, source) ← (readItem codes).run s.source
    match item with
    | .literal byte => return { s with source, output := s.output.push byte }
    | .blockEnd => return { s with source, place := behindBlock s.isLast }
    | .repetition length distance =>
      if s.output.size < distance then throw (.broken "invalid distance too far back")
      return { s with source, output := repeated s.output distance length }
  | .finished => return s

/-- Read on until the last block is over or reading cannot go on. -/
def run : (most : Nat) → Inflation → Inflation × Option Stop
  | 0, s => (s, none)
  | most + 1, s =>
    match s.place, s.step with
    | .finished, _ => (s, none)
    | _, .ok s => run most s
    | _, .error stop => (s, some stop)

/-- The most steps that the bytes that have come allow: every step but the one behind stored bytes
takes a bit at least. -/
def maxSteps (s : Inflation) : Nat := 16 * s.source.bytes.size + 2

end Inflation
end RouteFeed.Compression
