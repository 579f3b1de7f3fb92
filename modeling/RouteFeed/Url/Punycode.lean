/-! The ASCII form of a label with other characters: its ASCII characters, then for every other
character, in the order of their numbers, the distance from the one before as a number to base 36
whose digits adapt to the distances so far. -/
namespace RouteFeed.Url.Punycode

def digit (d : Nat) : Char :=
  if d < 26 then Char.ofNat ('a'.toNat + d) else Char.ofNat ('0'.toNat + d - 26)

def digitValue? (c : Char) : Option Nat :=
  if c.isLower then some (c.toNat - 'a'.toNat)
  else if c.isUpper then some (c.toNat - 'A'.toNat)
  else if c.isDigit then some (c.toNat - '0'.toNat + 26)
  else none

def threshold (k bias : Nat) : Nat :=
  if k ≤ bias then 1 else if bias + 26 ≤ k then 26 else k - bias

def distance (bias : Nat) : (fuel k n : Nat) → List Char
  | 0, _, _ => []
  | fuel + 1, k, n =>
    let t := threshold k bias
    if n < t then [digit n]
    else digit (t + (n - t) % (36 - t)) :: distance bias fuel (k + 36) ((n - t) / (36 - t))

def readDistance? (bias : Nat) : (k weight : Nat) → List Char → Option (Nat × List Char)
  | _, _, [] => none
  | k, weight, c :: cs =>
    match digitValue? c with
    | none => none
    | some d =>
      let t := threshold k bias
      if d < t then some (d * weight, cs)
      else (readDistance? bias (k + 36) (weight * (36 - t)) cs).map fun (n, cs) =>
        (d * weight + n, cs)

/-- Divide a distance down to the range of one digit. -/
def shrink (delta k : Nat) : Nat :=
  if 455 < delta then shrink (delta / 35) (k + 36) else k + 36 * delta / (delta + 38)
termination_by delta

def adapt (delta count : Nat) (first : Bool) : Nat :=
  let d := if first then delta / 700 else delta / 2
  shrink (d + d / count) 0

structure State where
  out : List Char
  delta : Nat := 0
  bias : Nat := 72
  written : Nat

/-- Pass one character of the label while those with number `n` are written. -/
def pass (basics n : Nat) (s : State) (m : Nat) : State :=
  if m < n then { s with delta := s.delta + 1 }
  else if m = n then
    { out := s.out ++ distance s.bias 64 36 s.delta, delta := 0
      bias := adapt s.delta (s.written + 1) (s.written = basics), written := s.written + 1 }
  else s

def writeAll (label : List Nat) (basics : Nat) : State → (n : Nat) → List Nat → State
  | s, _, [] => s
  | s, n, m :: ms =>
    let s := { s with delta := s.delta + (m - n) * (s.written + 1) }
    let s := label.foldl (pass basics m) s
    writeAll label basics { s with delta := s.delta + 1 } (m + 1) ms

def encode (label : List Nat) : List Char :=
  let basic := (label.filter (· < 0x80)).map Char.ofNat
  let others := (label.filter (0x80 ≤ ·)).mergeSort.eraseDups
  let start := if basic.isEmpty then [] else basic ++ ['-']
  (writeAll label basic.length { out := start, written := basic.length } 0x80 others).out

def lastNumber : Nat := 0x10ffff

/-- Put the characters that distances tell into a label, reading at most so many. Every distance
counts the places and the numbers up to the next character: `place` is behind the last one, and
`n` is its number. -/
def insertAll (first : Bool) (bias place n : Nat) (label : List Nat) :
    Nat → List Char → Option (List Nat)
  | _, [] => some label
  | 0, _ :: _ => none
  | fuel + 1, cs => do
    let (delta, rest) ← readDistance? bias 36 1 cs
    let places := label.length + 1
    let n := n + (place + delta) / places
    let place := (place + delta) % places
    if lastNumber < n then none
    else
      let label := label.take place ++ n :: label.drop place
      insertAll false (adapt delta places first) (place + 1) n label fuel rest

/-- The label of an ASCII form, by the numbers of its characters. The last hyphen ends the ASCII
characters. -/
def decode? (text : List Char) : Option (List Nat) :=
  let extended := (text.reverse.takeWhile (· != '-')).reverse
  let basic := text.take (text.length - extended.length - 1)
  insertAll true 72 0 0x80 (basic.map Char.toNat) extended.length extended

end RouteFeed.Url.Punycode
