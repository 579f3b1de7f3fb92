import Mathlib.Data.Rat.Floor
import RouteFeed.Number.Binary64
import RouteFeed.Number.Integer

/-! What is read as an integer. Integers in decimal are read back, as long as they have no more
digits than are read, and a finite number gives its integer part. -/
namespace RouteFeed

open Text

theorem Text.digitValue?_of_isDigit {c : Char} (h : c.isDigit = true) :
    digitValue? c = some (c.toNat - '0'.toNat) := by
  have bounds : 48 ≤ c.toNat ∧ c.toNat ≤ 57 := by
    simpa [Char.isDigit, UInt32.le_iff_toNat_le] using h
  unfold digitValue?
  rw [if_pos (by omega), if_pos bounds]
  rfl

theorem Text.isWhiteSpace_of_isDigit {c : Char} (h : c.isDigit = true) : isWhiteSpace c = false := by
  have bounds : 48 ≤ c.val.toNat ∧ c.val.toNat ≤ 57 := by
    simpa [Char.isDigit, UInt32.le_iff_toNat_le] using h
  simp only [isWhiteSpace, Bool.or_eq_false_iff, Bool.and_eq_false_iff, decide_eq_false_iff_not,
    beq_eq_false_iff_ne, ne_eq, ← UInt32.toNat_inj, UInt32.le_iff_toNat_le, UInt32.reduceToNat]
  omega

theorem Text.decimalDigits_ne_nil (n : Nat) : decimalDigits n ≠ [] := Nat.toDigits_ne_nil

theorem Text.isDigit_of_mem_decimalDigits {n : Nat} {c : Char} (h : c ∈ decimalDigits n) :
    c.isDigit = true := Nat.isDigit_of_mem_toDigits (by decide) (by decide) h

theorem Text.decimalDigits_injective : Function.Injective decimalDigits := by
  intro m n same
  rw [← Nat.ofDigitChars_ten_toDigits (n := m), ← Nat.ofDigitChars_ten_toDigits (n := n)]
  exact congrArg _ same

/-- An integer is written in digits, behind a minus if it is negative. -/
theorem Text.isDigit_of_mem_decimal {n : Int} {c : Char} (h : c ∈ (decimal n).toList) :
    c = '-' ∨ c.isDigit = true := by
  cases n with
  | ofNat n => exact .inr (isDigit_of_mem_decimalDigits (by simpa [decimal] using h))
  | negSucc n =>
    have split : c = '-' ∨ c ∈ decimalDigits (n + 1) := by simpa [decimal] using h
    exact split.imp_right isDigit_of_mem_decimalDigits

theorem Text.decimal_toList_ne_nil (n : Int) : (decimal n).toList ≠ [] := by
  cases n <;> simp [decimal, decimalDigits_ne_nil]

theorem Text.decimal_injective : Function.Injective decimal := by
  have signed (m n : Nat) : decimal (.ofNat m) ≠ decimal (.negSucc n) := by
    intro same
    have sign : '-' ∈ decimalDigits m := by
      rw [String.ofList_injective same]
      exact List.mem_cons_self
    exact absurd (isDigit_of_mem_decimalDigits sign) (by decide)
  intro m n same
  cases m with
  | ofNat m =>
    cases n with
    | ofNat n => rw [decimalDigits_injective (String.ofList_injective same)]
    | negSucc n => exact absurd same (signed m n)
  | negSucc m =>
    cases n with
    | ofNat n => exact absurd same.symm (signed n m)
    | negSucc n =>
      have digits := (List.cons.inj (String.ofList_injective same)).2
      rw [Nat.succ.inj (decimalDigits_injective digits)]

namespace Number

theorem places_of_isDigit {cs : List Char} (h : ∀ c ∈ cs, c.isDigit = true) :
    places cs = (cs.map fun c => .digit (c.toNat - '0'.toNat), []) := by
  induction cs with
  | nil => rfl
  | cons c cs ih =>
    obtain ⟨digit, others⟩ := List.forall_mem_cons.mp h
    have mark : (c == '_') = false := by
      rw [beq_eq_false_iff_ne]
      rintro rfl
      exact absurd digit (by decide)
    have place : Place.ofChar? c = some (.digit (c.toNat - '0'.toNat)) := by
      simp only [Place.ofChar?, mark, Bool.false_eq_true, if_false, digitValue?_of_isDigit digit,
        Option.map_some]
    rw [places, place, ih others]
    rfl

theorem Place.wellSpaced_digits {ds : List Nat} (some : ds ≠ []) :
    wellSpaced (ds.map Place.digit) = true := by
  induction ds with
  | nil => exact absurd rfl some
  | cons d ds ih =>
    cases ds with
    | nil => rfl
    | cons e ds => exact ih (List.cons_ne_nil e ds)

theorem Place.digits_digits (ds : List Nat) : digits (ds.map Place.digit) = ds := by
  induction ds with
  | nil => rfl
  | cons d ds ih => exact congrArg (d :: ·) ih

theorem readMagnitude_decimalDigits (n : Nat) :
    readMagnitude (decimalDigits n) =
      if digitLimit < (decimalDigits n).length then .error (.tooLong (decimalDigits n).length)
      else .ok n := by
  have value : ofDigits ((decimalDigits n).map fun c => c.toNat - '0'.toNat) = n := by
    unfold ofDigits
    rw [List.foldl_map, decimalDigits]
    exact Nat.ofDigitChars_ten_toDigits
  have split : places (decimalDigits n) =
      (((decimalDigits n).map fun c => c.toNat - '0'.toNat).map Place.digit, []) := by
    rw [places_of_isDigit fun c => isDigit_of_mem_decimalDigits, List.map_map]
    rfl
  have spaced : Place.wellSpaced
      (((decimalDigits n).map fun c => c.toNat - '0'.toNat).map Place.digit) = true :=
    Place.wellSpaced_digits (by simpa using decimalDigits_ne_nil n)
  unfold readMagnitude
  rw [split]
  simp only [spaced, Place.digits_digits, value, List.length_map, List.all_nil, Bool.not_true,
    Bool.false_eq_true, if_false, if_true]

theorem readInteger_decimal (n : Int) :
    readInteger (decimal n).toList =
      if digitLimit < (decimalDigits n.natAbs).length then
        .error (.tooLong (decimalDigits n.natAbs).length)
      else .ok n := by
  cases n with
  | ofNat n =>
    obtain ⟨d, ds, digits⟩ := List.exists_cons_of_ne_nil (decimalDigits_ne_nil n)
    have digit : d.isDigit = true := isDigit_of_mem_decimalDigits (digits ▸ List.mem_cons_self)
    have unsigned : (decimal (.ofNat n)).toList.dropWhile isWhiteSpace = decimalDigits n := by
      simp [decimal, digits, isWhiteSpace_of_isDigit digit]
    unfold readInteger
    rw [unsigned, digits]
    split
    · next sign =>
      cases sign
      exact absurd digit (by decide)
    · next sign =>
      cases sign
      exact absurd digit (by decide)
    · rw [← digits, readMagnitude_decimalDigits]
      simp only [Int.ofNat_eq_natCast, Int.natAbs_natCast]
      split <;> rfl
  | negSucc n =>
    have negative : (decimal (.negSucc n)).toList.dropWhile isWhiteSpace =
      '-' :: decimalDigits (n + 1) := by simp [decimal, isWhiteSpace]
    unfold readInteger
    rw [negative]
    simp only [readMagnitude_decimalDigits, Int.natAbs_negSucc]
    split <;> rfl

/-- The integer part of a number, toward zero. -/
def wholePart (q : ℚ) : Int := if 0 ≤ q then ⌊q⌋ else ⌈q⌉

/-- The amount of a finite double-precision number. -/
def Binary64.amount (negative : Bool) (mantissa : Nat) (exponent : Int) : ℚ :=
  (if negative then -1 else 1) * (mantissa * 2 ^ exponent)

theorem scaled_quotient (m : Nat) (e : Int) :
    ((scaled 2 m e).1 : ℚ) / ((scaled 2 m e).2 : ℚ) = m * 2 ^ e := by
  cases e with
  | ofNat e => simp [scaled]
  | negSucc e =>
    have power : (2 : ℚ) ^ Int.negSucc e = (2 ^ (e + 1))⁻¹ := zpow_negSucc 2 e
    rw [power]
    simp [scaled, div_eq_mul_inv]

@[simp] theorem wholePart_intCast (n : Int) : wholePart n = n := by simp [wholePart]

theorem wholePart_neg (q : ℚ) : wholePart (-q) = -wholePart q := by
  unfold wholePart
  rcases lt_trichotomy q 0 with below | rfl | above
  · rw [if_pos (by simpa using below.le), if_neg (by simpa using below), Int.floor_neg]
  · simp
  · rw [if_neg (by simpa using above), if_pos above.le, Int.ceil_neg]

theorem Binary64.truncate_finite (negative : Bool) (m : Nat) (e : Int) :
    (Binary64.finite negative m e).truncate = some (wholePart (amount negative m e)) := by
  have size : wholePart (m * 2 ^ e : ℚ) = Int.ofNat ((scaled 2 m e).1 / (scaled 2 m e).2) := by
    rw [← scaled_quotient, wholePart, if_pos (by positivity)]
    exact Rat.floor_natCast_div_natCast _ _
  cases negative with
  | false => simp [truncate, amount, size]
  | true =>
    have signed : amount true m e = -(m * 2 ^ e) := by simp [amount]
    rw [signed, wholePart_neg, size]
    rfl

theorem roundQuotient_le (num den : Nat) : roundQuotient num den ≤ num / den + 1 := by
  unfold roundQuotient
  dsimp only
  split
  · omega
  · split <;> omega

/-- What is rounded to a multiple of a power of two is above its quotient by one multiple at most. -/
theorem scaled_roundQuotient_le (num den : Nat) (e : Int) :
    let scale := scaled 2 den e
    let rounded := scaled 2 (roundQuotient (num * scale.2) scale.1) e
    rounded.1 / rounded.2 ≤ num / den + 2 ^ e.toNat := by
  cases e with
  | ofNat k =>
    have rounded := roundQuotient_le num (den * 2 ^ k)
    have whole : num / (den * 2 ^ k) * 2 ^ k ≤ num / den := by
      rw [← Nat.div_div_eq_div_mul]
      exact Nat.div_mul_le_self _ _
    simp only [scaled, Nat.pow_eq, Nat.mul_one, Nat.div_one, Int.toNat_natCast, Int.ofNat_eq_natCast]
    calc roundQuotient num (den * 2 ^ k) * 2 ^ k
        ≤ (num / (den * 2 ^ k) + 1) * 2 ^ k := Nat.mul_le_mul_right _ rounded
      _ = num / (den * 2 ^ k) * 2 ^ k + 2 ^ k := by rw [Nat.add_mul, Nat.one_mul]
      _ ≤ num / den + 2 ^ k := Nat.add_le_add_right whole _
  | negSucc k =>
    have rounded := roundQuotient_le (num * 2 ^ (k + 1)) den
    have unit : 1 ≤ 2 ^ (k + 1) := Nat.one_le_two_pow
    simp only [scaled, Nat.pow_eq, Int.toNat_negSucc, Nat.pow_zero]
    calc roundQuotient (num * 2 ^ (k + 1)) den / 2 ^ (k + 1)
        ≤ (num * 2 ^ (k + 1) / den + 2 ^ (k + 1)) / 2 ^ (k + 1) :=
          Nat.div_le_div_right (rounded.trans (Nat.add_le_add_left unit _))
      _ = num * 2 ^ (k + 1) / den / 2 ^ (k + 1) + 1 := Nat.add_div_right _ unit
      _ = num / den + 1 := by
        rw [Nat.div_div_eq_div_mul, Nat.mul_div_mul_right _ _ unit]

theorem scaled_ten_lt {digits : Nat} {e : Int} {size : Nat}
    (few : (decimalDigits digits).length + e ≤ size) :
    (scaled 10 digits e).1 / (scaled 10 digits e).2 < 10 ^ size := by
  have below : digits < 10 ^ (decimalDigits digits).length :=
    (Nat.length_toDigits_le_iff (by decide) (List.length_pos_iff.mpr (decimalDigits_ne_nil _))).mp
      le_rfl
  cases e with
  | ofNat k =>
    simp only [scaled, Nat.pow_eq, Nat.div_one]
    calc digits * 10 ^ k < 10 ^ (decimalDigits digits).length * 10 ^ k :=
          Nat.mul_lt_mul_of_pos_right below (by positivity)
      _ = 10 ^ ((decimalDigits digits).length + k) := (pow_add ..).symm
      _ ≤ 10 ^ size := Nat.pow_le_pow_right (by decide) (by
        rw [Int.ofNat_eq_natCast] at few
        omega)
  | negSucc k =>
    simp only [scaled, Nat.pow_eq]
    rw [Nat.div_lt_iff_lt_mul (by positivity), ← pow_add]
    exact below.trans_le (Nat.pow_le_pow_right (by decide) (by omega))

namespace Binary64

theorem truncate_zero (negative : Bool) : (zero negative).truncate = some 0 := by
  simp [zero, truncate_finite, amount, wholePart]

theorem truncate_finite_natAbs {negative : Bool} {m : Nat} {e n : Int}
    (h : (finite negative m e).truncate = some n) :
    n.natAbs = (scaled 2 m e).1 / (scaled 2 m e).2 := by
  generalize whole : (scaled 2 m e).1 / (scaled 2 m e).2 = q
  have signed : (finite negative m e).truncate =
      some (if negative then -Int.ofNat q else Int.ofNat q) := by
    rw [← whole]
    rfl
  obtain rfl := Option.some.inj (signed.symm.trans h)
  cases negative <;> simp

theorem truncate_halved (negative : Bool) (e : Int) :
    (finite negative (2 ^ 52) (e + 1)).truncate = (finite negative (2 ^ 53) e).truncate := by
  have same : amount negative (2 ^ 52) (e + 1) = amount negative (2 ^ 53) e := by
    simp only [amount, Nat.cast_pow, Nat.cast_ofNat]
    rw [zpow_add₀ (by norm_num)]
    ring
  rw [truncate_finite, truncate_finite, same]

theorem natAbs_truncate_ofQuotient_le {negative : Bool} {num den : Nat} {n : Int}
    (h : (ofQuotient negative num den).truncate = some n) :
    n.natAbs ≤ num / den + 2 ^ 971 := by
  unfold ofQuotient at h
  split at h
  · rw [truncate_zero] at h
    cases h
    exact Nat.zero_le _
  · dsimp only at h
    generalize exponentOf num den = e at h
    have rounded := scaled_roundQuotient_le num den e
    dsimp only at rounded
    generalize roundQuotient (num * (scaled 2 den e).2) (scaled 2 den e).1 = m at h rounded
    have bound (top : Nat) (reach : e ≤ top) : num / den + 2 ^ e.toNat ≤ num / den + 2 ^ top :=
      Nat.add_le_add_left (Nat.pow_le_pow_right (by decide) (Int.toNat_le.mpr reach)) _
    split at h
    -- rounding may carry into one more digit, which the shift takes back
    · next carried =>
      split at h
      · cases h
      · next reach =>
        rw [Nat.pow_eq, truncate_halved] at h
        rw [Nat.pow_eq] at carried
        rw [truncate_finite_natAbs h, ← carried]
        exact rounded.trans (bound 971 (by simp only [greatestExponent] at reach; omega))
    · split at h
      · cases h
      · next reach =>
        rw [truncate_finite_natAbs h]
        exact rounded.trans (bound 971 (by simp only [greatestExponent] at reach; omega))

/-- A number that is read from decimal digits reaches no farther than doubles do. -/
theorem natAbs_truncate_ofDecimal_lt {negative : Bool} {digits : Nat} {e n : Int}
    (h : (ofDecimal negative digits e).truncate = some n) : n.natAbs < 10 ^ 320 + 2 ^ 971 := by
  have positive : 0 < 10 ^ 320 + 2 ^ 971 := by positivity
  unfold ofDecimal at h
  dsimp only at h
  split at h
  · rw [truncate_zero] at h
    cases h
    exact positive
  · split at h
    · cases h
    · next reach =>
      split at h
      · rw [truncate_zero] at h
        cases h
        exact positive
      · have few : (scaled 10 digits e).1 / (scaled 10 digits e).2 < 10 ^ 320 :=
          scaled_ten_lt (by simpa [decimalDigits] using reach)
        exact (natAbs_truncate_ofQuotient_le h).trans_lt (Nat.add_lt_add_right few _)

end Binary64

end Number
end RouteFeed
