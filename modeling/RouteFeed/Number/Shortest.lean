import RouteFeed.Number.Binary64

/-! The shortest decimal of a double-precision number: the fewest digits that read back as the
number, and of the decimals with so few digits the nearest one. -/
namespace RouteFeed.Number

/-- A positive decimal: its digits as a number, times a power of ten. -/
structure Decimal where
  digits : Nat
  exponent : Int
  deriving DecidableEq

def Decimal.readsBack (d : Decimal) (mantissa : Nat) (exponent : Int) : Bool :=
  Binary64.ofDecimal false d.digits d.exponent == .finite false mantissa exponent

def decimalPower (num den : Nat) : (fuel : Nat) → Int
  | 0 => 0
  | fuel + 1 =>
    if den ≤ num then (Nat.toDigits 10 (num / den)).length - 1
    else decimalPower (10 * num) den fuel - 1

/-- The decimal of the grid of `10 ^ k` that reads back as the number and is nearest to it. -/
def onGrid (mantissa : Nat) (exponent : Int) (num den : Nat) (k : Int) : Option Decimal :=
  let (s, t) := scaled 10 den k
  let n := num * t
  let lower : Decimal := ⟨n / s, k⟩
  let upper : Decimal := ⟨n / s + 1, k⟩
  let nearer := if roundQuotient n s = n / s then lower else upper
  let other := if roundQuotient n s = n / s then upper else lower
  if nearer.readsBack mantissa exponent then some nearer
  else if other.readsBack mantissa exponent then some other
  else none

def searchGrids (mantissa : Nat) (exponent : Int) (num den : Nat) (power : Int) :
    (more : Nat) → (count : Nat) → Decimal
  | 0, count =>
    let (s, t) := scaled 10 den (power - count + 1)
    ⟨roundQuotient (num * t) s, power - count + 1⟩
  | more + 1, count =>
    match onGrid mantissa exponent num den (power - count + 1) with
    | some d => d
    | none => searchGrids mantissa exponent num den power more (count + 1)

/-- The shortest decimal of a positive finite number. Seventeen digits are always enough. -/
def shortest (mantissa : Nat) (exponent : Int) : Decimal :=
  let (num, den) := scaled 2 mantissa exponent
  searchGrids mantissa exponent num den (decimalPower num den 400) 16 1

end RouteFeed.Number
