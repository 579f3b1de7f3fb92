import RouteFeed.Number.Integer
import RouteFeed.Number.Real
import RouteFeed.Value

/-! Values read from JSON text. Beyond the standard, the words `NaN`, `Infinity` and `-Infinity`
are numbers; of equal keys in an object the last one counts. Integers have at most 4300 digits,
and lists and objects nest at most to a given depth. Reading goes from the left, and its first
fault is reported. -/
namespace RouteFeed.Value

open Number Text

inductive ParseFault where
  /-- The text does not follow the grammar. -/
  | malformed
  | numberTooLong (digits : Nat)
  | listTooDeep
  | objectTooDeep
  deriving DecidableEq

/-- What was read at the head of a text, and what follows it. -/
abbrev Reading (α : Type) := Except ParseFault (α × List Char)

def isJsonBlank (c : Char) : Bool := c == ' ' || c == '\t' || c == '\n' || c == '\r'

def skipBlanks (cs : List Char) : List Char := cs.dropWhile isJsonBlank

/-- The number of four hexadecimal digits. -/
def hexUnit? (a b c d : Char) : Option Nat := do
  let a ← hexValue? a
  let b ← hexValue? b
  let c ← hexValue? c
  let d ← hexValue? d
  return ((a * 16 + b) * 16 + c) * 16 + d

def escaped? : Char → Option Char
  | '"' => some '"'
  | '\\' => some '\\'
  | '/' => some '/'
  | 'b' => some '\x08'
  | 'f' => some '\x0c'
  | 'n' => some '\n'
  | 'r' => some '\r'
  | 't' => some '\t'
  | _ => none

def ofUnit (n : Nat) : CodePoint :=
  if 0xd800 ≤ n ∧ n < 0xe000 then .half (Fin.ofNat 0x800 (n - 0xd800)) else .char (Char.ofNat n)

/-- A high half and a low half become their character if they stand side by side; every other half
stays. -/
def joinHalves : Points → Points
  | [] => []
  | .char c :: ps => .char c :: joinHalves ps
  | .half high :: .half low :: ps =>
    if high.val < 0x400 ∧ 0x400 ≤ low.val then
      .char (Char.ofNat (0x10000 + high * 0x400 + (low - 0x400))) :: joinHalves ps
    else .half high :: joinHalves (.half low :: ps)
  | .half place :: ps => .half place :: joinHalves ps

/-- The code points of a string behind its opening quote. -/
def readPoints : List Char → Reading Points
  | [] => .error .malformed
  | '"' :: cs => .ok ([], cs)
  | '\\' :: 'u' :: a :: b :: c :: d :: cs =>
    match hexUnit? a b c d with
    | none => .error .malformed
    | some n => (readPoints cs).map fun (ps, rest) => (ofUnit n :: ps, rest)
  | '\\' :: c :: cs =>
    match escaped? c with
    | some c => (readPoints cs).map fun (ps, rest) => (.char c :: ps, rest)
    | none => .error .malformed
  | c :: cs =>
    if c.toNat < 0x20 || c == '\\' then .error .malformed
    else (readPoints cs).map fun (ps, rest) => (.char c :: ps, rest)

def readString (cs : List Char) : Reading Points :=
  (readPoints cs).map fun (ps, rest) => (joinHalves ps, rest)

def takeDigits (cs : List Char) : List Char × List Char :=
  (cs.takeWhile isAsciiDigit, cs.dropWhile isAsciiDigit)

def readFraction : List Char → List Char × List Char
  | '.' :: d :: cs => if isAsciiDigit d then takeDigits (d :: cs) else ([], '.' :: d :: cs)
  | cs => ([], cs)

/-- The power of ten, if a mark with digits behind it comes first. -/
def readExponent (cs : List Char) : Option Int × List Char :=
  match cs with
  | mark :: rest =>
    if mark == 'e' || mark == 'E' then
      let (negative, ds) := takeSign rest
      let (ds, after) := takeDigits ds
      if ds.isEmpty then (none, cs)
      else
        let n := Int.ofNat (asciiNumber ds)
        (some (if negative then -n else n), after)
    else (none, cs)
  | [] => (none, [])

def readNumber (negative : Bool) (cs : List Char) : Reading Value :=
  let (whole, rest) := match cs with
    | '0' :: cs => (['0'], cs)
    | cs => takeDigits cs
  if whole.isEmpty then .error .malformed
  else
    let (fraction, rest) := readFraction rest
    let (power, rest) := readExponent rest
    if fraction.isEmpty && power.isNone then
      if digitLimit < whole.length then .error (.numberTooLong whole.length)
      else
        let n := Int.ofNat (asciiNumber whole)
        .ok (.int (if negative then -n else n), rest)
    else
      let e := power.getD 0 - fraction.length
      .ok (.real (.ofDecimal negative (asciiNumber (whole ++ fraction)) e), rest)

def dropWord? : List Char → List Char → Option (List Char)
  | [], cs => some cs
  | _ :: _, [] => none
  | w :: ws, c :: cs => if w == c then dropWord? ws cs else none

def valueWords : List (List Char × Value) := [
  (['n', 'u', 'l', 'l'], .null),
  (['t', 'r', 'u', 'e'], .bool true),
  (['f', 'a', 'l', 's', 'e'], .bool false),
  (['N', 'a', 'N'], .real .nan),
  (['I', 'n', 'f', 'i', 'n', 'i', 't', 'y'], .real (.infinite false)),
  (['-', 'I', 'n', 'f', 'i', 'n', 'i', 't', 'y'], .real (.infinite true))]

def readScalar (cs : List Char) : Reading Value :=
  let word? := valueWords.findSome? fun (word, v) => (dropWord? word cs).map fun rest => (v, rest)
  match word? with
  | some r => .ok r
  | none =>
    match cs with
    | '-' :: cs => readNumber true cs
    | cs => readNumber false cs

mutual

/-- A value at the head of a text. Each step uses one unit of fuel and at least one character. -/
def readValue : (fuel depth : Nat) → List Char → Reading Value
  | 0, _, _ => .error .malformed
  | _ + 1, _, '"' :: cs => (readString cs).map fun (s, rest) => (.text s, rest)
  | fuel + 1, depth, '[' :: cs =>
    match depth with
    | 0 => .error .listTooDeep
    | depth + 1 =>
      match skipBlanks cs with
      | ']' :: rest => .ok (.list [], rest)
      | cs => (readItems fuel depth cs).map fun (items, rest) => (.list items, rest)
  | fuel + 1, depth, '\x7b' :: cs =>
    match depth with
    | 0 => .error .objectTooDeep
    | depth + 1 =>
      match skipBlanks cs with
      | '\x7d' :: rest => .ok (.object [], rest)
      | cs => (readFields fuel depth [] cs).map fun (fields, rest) => (.object fields, rest)
  | _ + 1, _, cs => readScalar cs

def readItems : (fuel depth : Nat) → List Char → Reading (List Value)
  | 0, _, _ => .error .malformed
  | fuel + 1, depth, cs =>
    match readValue fuel depth cs with
    | .error fault => .error fault
    | .ok (v, rest) =>
      match skipBlanks rest with
      | ']' :: rest => .ok ([v], rest)
      | ',' :: rest =>
        (readItems fuel depth (skipBlanks rest)).map fun (vs, rest) => (v :: vs, rest)
      | _ => .error .malformed

/-- The fields of an object up to its brace, after those read so far. -/
def readFields : (fuel depth : Nat) → Fields → List Char → Reading Fields
  | 0, _, _, _ => .error .malformed
  | fuel + 1, depth, fields, '"' :: cs =>
    match readString cs with
    | .error fault => .error fault
    | .ok (key, rest) =>
      match skipBlanks rest with
      | ':' :: rest =>
        match readValue fuel depth (skipBlanks rest) with
        | .error fault => .error fault
        | .ok (v, rest) =>
          let fields := Named.put fields key v
          match skipBlanks rest with
          | '\x7d' :: rest => .ok (fields, rest)
          | ',' :: rest => readFields fuel depth fields (skipBlanks rest)
          | _ => .error .malformed
      | _ => .error .malformed
  | _ + 1, _, _, _ => .error .malformed

end

/-- The value that a whole text writes, nested at most to a depth. -/
def parseWithin (depth : Nat) (cs : List Char) : Except ParseFault Value := do
  let (v, rest) ← readValue (cs.length + 1) depth (skipBlanks cs)
  if (skipBlanks rest).isEmpty then return v else throw .malformed

def depthLimit : Nat := 975

def parse (cs : List Char) : Except ParseFault Value := parseWithin depthLimit cs

end RouteFeed.Value
