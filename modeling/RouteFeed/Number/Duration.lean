import RouteFeed.Number.Binary64

/-! Lengths of time as exact fractions of a second, and the limits they are held against. -/
namespace RouteFeed.Number

/-- A number of seconds: a fraction with a positive denominator. -/
structure Duration where
  num : Int
  den : Nat
  den_pos : 0 < den := by decide

namespace Duration

def zero : Duration := ⟨0, 1, by decide⟩

def add (a b : Duration) : Duration where
  num := a.num * b.den + b.num * a.den
  den := a.den * b.den
  den_pos := Nat.mul_pos a.den_pos b.den_pos

def ofReal? : Binary64 → Option Duration
  | .nan | .infinite _ => none
  | .finite negative m e =>
    let signed (n : Nat) : Int := if negative then -Int.ofNat n else Int.ofNat n
    match e with
    | .ofNat e => some ⟨signed (m * Nat.pow 2 e), 1, by decide⟩
    | .negSucc e => some ⟨signed m, Nat.pow 2 (e + 1), Nat.two_pow_pos (e + 1)⟩

def lt (a b : Duration) : Bool := a.num * b.den < b.num * a.den

/-- Below a limit: everything is below infinity, and nothing is below what is no number. -/
def below (a : Duration) : Binary64 → Bool
  | .nan => false
  | .infinite negative => !negative
  | x =>
    match ofReal? x with
    | some b => a.lt b
    | none => false

end Duration
end RouteFeed.Number
