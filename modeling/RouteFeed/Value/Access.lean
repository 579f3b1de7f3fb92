import RouteFeed.Failure
import RouteFeed.Number.Integer
import RouteFeed.Value.Parser
import RouteFeed.Value.Printer

/-! What a value gives when an operation asks for a shape: an integer, a sequence, a pair, a field.
A value that cannot give it fails with the reason. -/
namespace RouteFeed

open Number

/-- The most characters of a quoted text that a numeral's failure shows. -/
def numeralExcerpt : Nat := 200

namespace Failure

def tooLongToShow : Failure :=
  .badValue (s!"Exceeds the limit ({digitLimit} digits) for integer string conversion; " ++
    "use sys.set_int_max_str_digits() to increase the limit")

/-- An integer text has more digits than are read. -/
def tooManyDigits (digits : Nat) : Failure :=
  .badValue (s!"Exceeds the limit ({digitLimit} digits) for integer string conversion: " ++
    s!"value has {digits} digits; use sys.set_int_max_str_digits() to increase the limit")

def ofNumeral (text : Points) : NumeralFault → Failure
  | .malformed =>
    let shown := String.ofList (text.quoted.toList.take numeralExcerpt)
    .badValue s!"invalid literal for int() with base 10: {shown}"
  | .tooLong digits => tooManyDigits digits

/-- A text is no value; only a malformed one is passed over by those who read messages. -/
def ofParse : Value.ParseFault → Failure
  | .malformed => .badValue "malformed text"
  | .numberTooLong digits => tooManyDigits digits
  | .listTooDeep =>
    ⟨.tooDeep, "maximum recursion depth exceeded while decoding a JSON array from a unicode string"⟩
  | .objectTooDeep =>
    ⟨.tooDeep,
      "maximum recursion depth exceeded while decoding a JSON object from a unicode string"⟩

def lacksOperation (v : Value) (name : String) : Failure :=
  .noOperation s!"'{v.shape}' object has no attribute '{name}'"

end Failure

namespace Value

def choose {α : Type} (v : Value) (choices : Named α) (enumeration : String) : Except Failure α :=
  match v.string?.bind (Named.get? choices) with
  | some a => .ok a
  | none => .error (.badValue s!"{v.literal} is not a valid {enumeration}")

/-- An integer has so few digits that it can be shown. -/
def isShort (n : Int) : Bool := (Text.decimalDigits n.natAbs).length ≤ digitLimit

mutual

def isLegible : Value → Bool
  | int n => isShort n
  | list items | row items => areLegible items
  | object fields => areFieldsLegible fields
  | _ => true

def areLegible : List Value → Bool
  | [] => true
  | v :: vs => isLegible v && areLegible vs

def areFieldsLegible : Fields → Bool
  | [] => true
  | (_, v) :: fields => isLegible v && areFieldsLegible fields

end

def shown (v : Value) : Except Failure Points :=
  if v.isLegible then .ok v.plain else .error .tooLongToShow

/-- The integer that a value stands for: numbers lose their fraction, texts are read. -/
def toInteger : Value → Except Failure Int
  | int n => .ok n
  | bool b => .ok (if b then 1 else 0)
  | real x =>
    match x.truncate with
    | some n => .ok n
    | none =>
      if x = .nan then .error (.badValue "cannot convert float NaN to integer")
      else .error ⟨.overflow, "cannot convert float infinity to integer"⟩
  | text s => (readInteger (s.map CodePoint.toChar)).mapError (Failure.ofNumeral s)
  | v => .error (.wrongShape
      ("int() argument must be a string, a bytes-like object or a real number, " ++
        s!"not '{v.shape}'"))

def parts? : Value → Option (List Value)
  | list items | row items => some items
  | text s => some (s.map fun c => .text [c])
  | object fields => some (fields.map fun field => .text field.1)
  | _ => none

def parts (v : Value) : Except Failure (List Value) :=
  match v.parts? with
  | some vs => .ok vs
  | none => .error (.wrongShape s!"'{v.shape}' object is not iterable")

/-- The two parts of a value that has to have exactly two. -/
def toPair (v : Value) : Except Failure (Value × Value) :=
  match v.parts? with
  | none => .error (.wrongShape s!"cannot unpack non-iterable {v.shape} object")
  | some [a, b] => .ok (a, b)
  | some (_ :: _ :: _ :: _) => .error (.badValue "too many values to unpack (expected 2)")
  | some vs =>
    .error (.badValue s!"not enough values to unpack (expected 2, got {vs.length})")

def get (v : Value) (key : String) (substitute : Value) : Except Failure Value :=
  match v with
  | object fields => .ok ((Named.get? fields ↑key).getD substitute)
  | v => .error (.lacksOperation v "get")

def asTexts : Nat → List Value → Except Failure (List Points)
  | _, [] => .ok []
  | i, text s :: vs => (asTexts (i + 1) vs).map (s :: ·)
  | i, v :: _ =>
    .error (.wrongShape s!"sequence item {i}: expected str instance, {v.shape} found")

def joinWords (v : Value) : Except Failure Points :=
  match v.parts? with
  | none => .error (.wrongShape "can only join an iterable")
  | some vs => (asTexts 0 vs).map (Points.intercalate " ")

theorem areLegible_iff (vs : List Value) :
    areLegible vs = true ↔ ∀ v ∈ vs, v.isLegible = true := by
  induction vs with
  | nil => simp [areLegible]
  | cons v vs ih => simp [areLegible, ih]

theorem areFieldsLegible_iff (fields : Fields) :
    areFieldsLegible fields = true ↔ ∀ field ∈ fields, field.2.isLegible = true := by
  induction fields with
  | nil => simp [areFieldsLegible]
  | cons field fields ih => simp [areFieldsLegible, ih]

theorem shown_of_isLegible {v : Value} (legible : v.isLegible = true) : v.shown = .ok v.plain := by
  rw [shown, if_pos legible]

@[simp] theorem shown_text (s : Points) : (text s).shown = .ok s := shown_of_isLegible rfl

@[simp] theorem asTexts_texts (i : Nat) (ss : List Points) :
    asTexts i (ss.map .text) = .ok ss := by
  induction ss generalizing i with
  | nil => rfl
  | cons s ss ih => simp [asTexts, ih, Except.map]

@[simp] theorem joinWords_texts (ss : List Points) :
    joinWords (texts ss) = .ok (Points.intercalate " " ss) := by
  simp [joinWords, texts, parts?, Except.map]

end Value
end RouteFeed
