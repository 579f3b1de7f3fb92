import RouteFeed.Text.Blank
import RouteFeed.Text.Digit

/-! Integers read from text: blanks around, an optional sign, decimal digits of any script with
single underscores between them, and at most 4300 digits. -/
namespace RouteFeed.Number

/-- The most digits that an integer may be read from. -/
def digitLimit : Nat := 4300

inductive NumeralFault where
  | malformed
  | tooLong (digits : Nat)
  deriving DecidableEq

/-- A character of the digit part: a digit or an underscore. -/
inductive Place where
  | digit (value : Nat)
  | gap
  deriving DecidableEq

def Place.ofChar? (c : Char) : Option Place :=
  if c == '_' then some .gap else (Text.digitValue? c).map .digit

def places : List Char → List Place × List Char
  | [] => ([], [])
  | c :: cs =>
    match Place.ofChar? c with
    | some p => let r := places cs; (p :: r.1, r.2)
    | none => ([], c :: cs)

/-- Places that begin and end with a digit and have no two underscores side by side. -/
def Place.wellSpaced : List Place → Bool
  | [] => false
  | [.digit _] => true
  | .digit _ :: .gap :: ps => wellSpaced ps
  | .digit _ :: ps => wellSpaced ps
  | .gap :: _ => false

def Place.digits (ps : List Place) : List Nat :=
  ps.filterMap fun
    | .digit d => some d
    | .gap => none

def ofDigits (ds : List Nat) : Nat := ds.foldl (fun n d => 10 * n + d) 0

/-- A natural number at the head of a text that has to end with it, up to blanks. -/
def readMagnitude (cs : List Char) : Except NumeralFault Nat :=
  let (ps, rest) := places cs
  let ds := Place.digits ps
  if !Place.wellSpaced ps then .error .malformed
  else if digitLimit < ds.length then .error (.tooLong ds.length)
  else if rest.all Text.isWhiteSpace then .ok (ofDigits ds)
  else .error .malformed

def readInteger (cs : List Char) : Except NumeralFault Int :=
  match cs.dropWhile Text.isWhiteSpace with
  | '-' :: cs => (readMagnitude cs).map fun n => -Int.ofNat n
  | '+' :: cs => (readMagnitude cs).map Int.ofNat
  | cs => (readMagnitude cs).map Int.ofNat

end RouteFeed.Number
