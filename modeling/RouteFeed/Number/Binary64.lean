/-! Double-precision numbers, held exactly: a sign, a mantissa below 2^53 and a power of two.
Every reading rounds to the nearest number, and a tie goes to the even mantissa. -/
namespace RouteFeed.Number

/-- A double-precision number. A finite one is its mantissa times two to its exponent; the
mantissa has 53 bits unless the exponent is the least one, -1074. -/
inductive Binary64 where
  | nan
  | infinite (negative : Bool)
  | finite (negative : Bool) (mantissa : Nat) (exponent : Int)
  deriving DecidableEq

/-- Numerator and denominator, whichever way the power points. -/
def scaled (base n : Nat) (exponent : Int) : Nat × Nat :=
  match exponent with
  | .ofNat e => (n * base.pow e, 1)
  | .negSucc e => (n, base.pow (e + 1))

/-- The quotient rounded to the nearest natural number, a tie to the even one. -/
def roundQuotient (num den : Nat) : Nat :=
  let q := num / den
  let r := num % den
  if 2 * r < den then q
  else if den < 2 * r then q + 1
  else q + q % 2

namespace Binary64

def leastExponent : Int := -1074
def greatestExponent : Int := 971

def zero (negative : Bool) : Binary64 := .finite negative 0 leastExponent

/-- The power of two at which a positive quotient has a 53-bit mantissa. -/
def exponentOf (num den : Nat) : Int :=
  let e : Int := (num.log2 : Int) - den.log2 - 52
  let (n, d) := scaled 2 den e
  -- the quotient by `2 ^ e` lies between 2^51 and 2^53
  let e := if num * d < Nat.pow 2 52 * n then e - 1 else e
  max e leastExponent

def ofQuotient (negative : Bool) (num den : Nat) : Binary64 :=
  if num = 0 ∨ den = 0 then zero negative
  else
    let e := exponentOf num den
    let (n, d) := scaled 2 den e
    let m := roundQuotient (num * d) n
    let (m, e) := if m = Nat.pow 2 53 then (Nat.pow 2 52, e + 1) else (m, e)
    if greatestExponent < e then .infinite negative else .finite negative m e

/-- The number nearest to `digits` times ten to `exponent`. Powers far outside the range are
decided by the number of digits alone. -/
def ofDecimal (negative : Bool) (digits : Nat) (exponent : Int) : Binary64 :=
  if digits = 0 then zero negative
  else
    let size : Int := (Nat.toDigits 10 digits).length + exponent
    if 320 < size then .infinite negative
    else if size < -340 then zero negative
    else
      let (n, d) := scaled 10 digits exponent
      ofQuotient negative n d

def ofInt (n : Int) : Binary64 := ofQuotient (n < 0) n.natAbs 1

/-- The integer part of a finite number, toward zero. -/
def truncate : Binary64 → Option Int
  | nan | infinite _ => none
  | finite negative m e =>
    let (n, d) := scaled 2 m e
    let q : Int := Int.ofNat (n / d)
    some (if negative then -q else q)

def isIntegral : Binary64 → Bool
  | nan | infinite _ => false
  | finite _ m e =>
    let (n, d) := scaled 2 m e
    n % d == 0

/-- Exact comparison with an integer; none for what is no number. -/
def compareInt (x : Binary64) (n : Int) : Option Ordering :=
  match x with
  | nan => none
  | infinite negative => some (if negative then .lt else .gt)
  | finite negative m e =>
    let (a, d) := scaled 2 m e
    let a : Int := if negative then -Int.ofNat a else Int.ofNat a
    some (compare a (n * Int.ofNat d))

def leInt (x : Binary64) (n : Int) : Bool :=
  match x.compareInt n with
  | some .lt | some .eq => true
  | _ => false

def geInt (x : Binary64) (n : Int) : Bool :=
  match x.compareInt n with
  | some .gt | some .eq => true
  | _ => false

def gtInt (x : Binary64) (n : Int) : Bool := x.compareInt n == some .gt

def isZero : Binary64 → Bool
  | finite _ 0 _ => true
  | _ => false

end RouteFeed.Number.Binary64
