import RouteFeed.Number.Shortest
import RouteFeed.Text.Quoted
import RouteFeed.Value

/-! The texts of values. A literal shows a value as it is written inside another one; the plain
text of a value is its literal, except that a text is itself. -/
namespace RouteFeed.Value

open Number Text

/-- Decimals are written positionally if their point falls from four places before the first digit
to sixteen places behind it. -/
def isPositional (point : Int) : Bool := -4 < point && point ≤ 16

/-- A decimal point inside or beside the digits; `point` is its place behind the first digit. -/
def positional (digits : List Char) (point : Int) : List Char :=
  match point with
  | .negSucc n => '0' :: '.' :: List.replicate (n + 1) '0' ++ digits
  | .ofNat 0 => '0' :: '.' :: digits
  | .ofNat n =>
    let whole := digits.take n ++ List.replicate (n - digits.length) '0'
    let fraction := digits.drop n
    whole ++ '.' :: (if fraction.isEmpty then ['0'] else fraction)

/-- One digit, the others behind a point, and a signed power of ten of two digits or more. -/
def scientific (digits : List Char) (point : Int) : List Char :=
  let power := point - 1
  let magnitude := decimalDigits power.natAbs
  let magnitude := if magnitude.length < 2 then '0' :: magnitude else magnitude
  let mark := 'e' :: (if power < 0 then '-' else '+') :: magnitude
  match digits with
  | [] => mark
  | [d] => d :: mark
  | d :: ds => d :: '.' :: ds ++ mark

/-- The text of a double-precision number: its shortest decimal. -/
def realText : Binary64 → String
  | .nan => "nan"
  | .infinite negative => if negative then "-inf" else "inf"
  | .finite negative 0 _ => if negative then "-0.0" else "0.0"
  | .finite negative m e =>
    let d := shortest m e
    let all := decimalDigits d.digits
    let point : Int := all.length + d.exponent
    let digits := (all.reverse.dropWhile (· == '0')).reverse
    let body := if isPositional point then positional digits point else scientific digits point
    String.ofList (if negative then '-' :: body else body)

mutual

def literal : Value → String
  | null => "None"
  | bool b => if b then "True" else "False"
  | int n => decimal n
  | real x => realText x
  | text s => s.quoted
  | list items => "[" ++ String.intercalate ", " (itemLiterals items) ++ "]"
  | row [item] => "(" ++ literal item ++ ",)"
  | row items => "(" ++ String.intercalate ", " (itemLiterals items) ++ ")"
  | object fields => "\x7b" ++ String.intercalate ", " (fieldLiterals fields) ++ "\x7d"

def itemLiterals : List Value → List String
  | [] => []
  | v :: vs => literal v :: itemLiterals vs

def fieldLiterals : Fields → List String
  | [] => []
  | (key, v) :: fields => (key.quoted ++ ": " ++ literal v) :: fieldLiterals fields

end

def plain : Value → Points
  | text s => s
  | v => v.literal

end RouteFeed.Value
