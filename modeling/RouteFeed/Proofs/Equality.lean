import RouteFeed.Value

/-! Values are compared part by part, so that what is said of given values can be decided. -/
namespace RouteFeed.Value

mutual

def same : Value → Value → Bool
  | null, null => true
  | bool a, bool b => a == b
  | int a, int b => a == b
  | real a, real b => a == b
  | text a, text b => a == b
  | list a, list b => sameItems a b
  | row a, row b => sameItems a b
  | object a, object b => sameFields a b
  | _, _ => false

def sameItems : List Value → List Value → Bool
  | [], [] => true
  | v :: vs, w :: ws => same v w && sameItems vs ws
  | _, _ => false

def sameFields : Fields → Fields → Bool
  | [], [] => true
  | (key, v) :: vs, (other, w) :: ws => key == other && same v w && sameFields vs ws
  | _, _ => false

end

mutual

theorem same_iff : ∀ v w : Value, same v w = true ↔ v = w
  | null, w => by cases w <;> simp [same]
  | bool a, w => by cases w <;> simp [same]
  | int a, w => by cases w <;> simp [same]
  | real a, w => by cases w <;> simp [same]
  | text a, w => by cases w <;> simp [same]
  | list a, w => by cases w <;> simp [same, sameItems_iff a]
  | row a, w => by cases w <;> simp [same, sameItems_iff a]
  | object a, w => by cases w <;> simp [same, sameFields_iff a]

theorem sameItems_iff : ∀ vs ws : List Value, sameItems vs ws = true ↔ vs = ws
  | [], ws => by cases ws <;> simp [sameItems]
  | v :: vs, ws => by cases ws <;> simp [sameItems, same_iff v, sameItems_iff vs]

theorem sameFields_iff : ∀ vs ws : Fields, sameFields vs ws = true ↔ vs = ws
  | [], ws => by cases ws <;> simp [sameFields]
  | (key, v) :: vs, ws => by
    cases ws <;> simp [sameFields, same_iff v, sameFields_iff vs, Prod.ext_iff, and_assoc]

end

instance : DecidableEq Value := fun v w => decidable_of_iff _ (same_iff v w)

end RouteFeed.Value
