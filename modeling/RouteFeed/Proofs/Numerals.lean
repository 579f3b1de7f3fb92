import Mathlib.Data.List.Induction
import Mathlib.Data.Nat.Digits.Defs
import Mathlib.Data.List.TakeWhile
import RouteFeed.Number.Integer
import RouteFeed.Proofs.Computation

/-! The texts that write an integer: blanks, at most one sign, and decimal digits of any script, which
single underscores may part. These are the texts from which an integer is read, and it is the one that
they write. -/
namespace RouteFeed

namespace Text

def blankCodes : List Nat := [
  0x09, 0x0a, 0x0b, 0x0c, 0x0d, 0x20, 0x85, 0xa0, 0x1680, 0x2000, 0x2001, 0x2002, 0x2003, 0x2004,
  0x2005, 0x2006, 0x2007, 0x2008, 0x2009, 0x200a, 0x2028, 0x2029, 0x202f, 0x205f, 0x3000]

theorem mem_blankCodes {c : Char} (blank : isWhiteSpace c = true) : c.toNat ∈ blankCodes := by
  have code : c.toNat = c.val.toNat := rfl
  simp only [isWhiteSpace, Bool.or_eq_true, Bool.and_eq_true, beq_iff_eq, decide_eq_true_eq,
    ← UInt32.toNat_inj, UInt32.le_iff_toNat_le, UInt32.reduceToNat] at blank
  simp only [blankCodes, List.mem_cons, List.not_mem_nil, or_false]
  omega

theorem digitValue?_of_isWhiteSpace {c : Char} (blank : isWhiteSpace c = true) :
    digitValue? c = none := by
  have none : ∀ n ∈ blankCodes, digitValue? (Char.ofNat n) = none := by decide
  simpa using none _ (mem_blankCodes blank)

end Text

namespace Number

open Text (digitValue? isWhiteSpace)

/-- Decimal digits with single underscores between them, and their values. -/
inductive Spaced : List Char → List Nat → Prop
  | last {c d} (value : digitValue? c = some d) : Spaced [c] [d]
  | digit {c d cs ds} (value : digitValue? c = some d) (rest : Spaced cs ds) :
    Spaced (c :: cs) (d :: ds)
  | gap {c d cs ds} (value : digitValue? c = some d) (rest : Spaced cs ds) :
    Spaced (c :: '_' :: cs) (d :: ds)

inductive Sign : List Char → Int → Prop
  | none : Sign [] 1
  | plus : Sign ['+'] 1
  | minus : Sign ['-'] (-1)

inductive Writes : List Char → Int → Prop
  | intro {left sign body right factor ds} (before : ∀ c ∈ left, isWhiteSpace c = true)
    (signed : Sign sign factor) (digits : Spaced body ds) (few : ds.length ≤ digitLimit)
    (behind : ∀ c ∈ right, isWhiteSpace c = true) :
    Writes (left ++ sign ++ body ++ right) (factor * (Nat.ofDigits 10 ds.reverse : Nat))

theorem ofDigits_eq (ds : List Nat) : ofDigits ds = Nat.ofDigits 10 ds.reverse := by
  induction ds using List.reverseRecOn with
  | nil => rfl
  | append_singleton ds d ih =>
    rw [List.reverse_append, List.reverse_singleton, List.singleton_append, Nat.ofDigits_cons, ← ih]
    simp [ofDigits, Nat.add_comm]

/-! Places of a text. -/

theorem Place.ofChar?_eq_gap {c : Char} (gap : ofChar? c = some .gap) : c = '_' := by
  unfold ofChar? at gap
  split at gap
  · next same => exact eq_of_beq same
  · simp at gap

theorem Place.ofChar?_eq_digit {c : Char} {d : Nat} (digit : ofChar? c = some (.digit d)) :
    digitValue? c = some d := by
  unfold ofChar? at digit
  split at digit
  · simp at digit
  · simpa using digit

theorem Place.ofChar?_of_digitValue? {c : Char} {d : Nat} (value : digitValue? c = some d) :
    ofChar? c = some (.digit d) := by
  have other : c ≠ '_' := by
    rintro rfl
    have none : digitValue? '_' = none := by decide
    cases none.symm.trans value
  simp [ofChar?, other, value]

theorem Place.ofChar?_of_isWhiteSpace {c : Char} (blank : isWhiteSpace c = true) :
    ofChar? c = none := by
  have other : c ≠ '_' := by
    rintro rfl
    exact absurd blank (by decide)
  simp [ofChar?, other, Text.digitValue?_of_isWhiteSpace blank]

theorem places_of_none {c : Char} (cs : List Char) (none : Place.ofChar? c = none) :
    places (c :: cs) = ([], c :: cs) := by
  rw [places, none]

theorem places_of_some {c : Char} {p : Place} (cs : List Char) (found : Place.ofChar? c = some p) :
    places (c :: cs) = (p :: (places cs).1, (places cs).2) := by
  rw [places, found]

theorem eq_of_places_nil {cs rest : List Char} (h : places cs = ([], rest)) : cs = rest := by
  cases cs with
  | nil => exact (Prod.mk.inj h).2
  | cons c cs =>
    cases found : Place.ofChar? c with
    | none =>
      rw [places_of_none cs found] at h
      exact (Prod.mk.inj h).2
    | some p =>
      rw [places_of_some cs found] at h
      cases h

theorem exists_of_places_cons {cs rest : List Char} {p : Place} {ps : List Place}
    (h : places cs = (p :: ps, rest)) :
    ∃ c behind, cs = c :: behind ∧ Place.ofChar? c = some p ∧ places behind = (ps, rest) := by
  cases cs with
  | nil => cases h
  | cons c cs =>
    cases found : Place.ofChar? c with
    | none =>
      rw [places_of_none cs found] at h
      cases h
    | some q =>
      rw [places_of_some cs found] at h
      obtain ⟨places, rfl⟩ := Prod.mk.inj h
      obtain ⟨rfl, rfl⟩ := List.cons.inj places
      exact ⟨c, cs, rfl, found, rfl⟩

theorem spaced_of_places {cs rest : List Char} {ps : List Place} (h : places cs = (ps, rest))
    (well : Place.wellSpaced ps = true) :
    ∃ body, cs = body ++ rest ∧ Spaced body (Place.digits ps) := by
  fun_induction Place.wellSpaced ps generalizing cs with
  | case1 => cases well
  | case2 d =>
    obtain ⟨c, behind, rfl, digit, left⟩ := exists_of_places_cons h
    obtain rfl := eq_of_places_nil left
    exact ⟨[c], rfl, .last (Place.ofChar?_eq_digit digit)⟩
  | case3 d ps ih =>
    obtain ⟨c, marked, rfl, digit, head⟩ := exists_of_places_cons h
    obtain ⟨u, behind, rfl, gap, tail⟩ := exists_of_places_cons head
    obtain rfl := Place.ofChar?_eq_gap gap
    obtain ⟨body, rfl, spaced⟩ := ih tail well
    exact ⟨c :: '_' :: body, rfl, .gap (Place.ofChar?_eq_digit digit) spaced⟩
  | case4 d ps _ _ ih =>
    obtain ⟨c, behind, rfl, digit, tail⟩ := exists_of_places_cons h
    obtain ⟨body, rfl, spaced⟩ := ih tail well
    exact ⟨c :: body, rfl, .digit (Place.ofChar?_eq_digit digit) spaced⟩
  | case5 => cases well

theorem places_of_spaced {body rest : List Char} {ds : List Nat} (spaced : Spaced body ds)
    (ended : ∀ c ∈ rest.head?, Place.ofChar? c = none) :
    ∃ ps, places (body ++ rest) = (ps, rest) ∧ Place.wellSpaced ps = true ∧ Place.digits ps = ds ∧
      ∃ d, ps.head? = some (.digit d) := by
  have stops : places rest = ([], rest) := by
    cases rest with
    | nil => rfl
    | cons c rest => exact places_of_none rest (ended c rfl)
  induction spaced with
  | @last c d value =>
    have read := places_of_some rest (Place.ofChar?_of_digitValue? value)
    rw [stops] at read
    exact ⟨[.digit d], read, rfl, rfl, d, rfl⟩
  | @digit c d cs ds value _ ih =>
    obtain ⟨ps, tail, well, digits, e, head⟩ := ih
    have read := places_of_some (cs ++ rest) (Place.ofChar?_of_digitValue? value)
    rw [tail] at read
    refine ⟨.digit d :: ps, read, ?_, congrArg (d :: ·) digits, d, rfl⟩
    cases ps with
    | nil => cases head
    | cons p ps =>
      cases head
      exact well
  | @gap c d cs ds value _ ih =>
    obtain ⟨ps, tail, well, digits, _⟩ := ih
    have mark := places_of_some (cs ++ rest) (show Place.ofChar? '_' = some .gap from rfl)
    have read := places_of_some ('_' :: cs ++ rest) (Place.ofChar?_of_digitValue? value)
    rw [tail] at mark
    rw [List.cons_append, mark] at read
    exact ⟨.digit d :: .gap :: ps, read, well, congrArg (d :: ·) digits, d, rfl⟩

/-- A natural number is read from well-spaced digits with blanks behind them. -/
theorem readMagnitude_eq_ok_iff {cs : List Char} {n : Nat} :
    readMagnitude cs = .ok n ↔ ∃ body right ds, cs = body ++ right ∧ Spaced body ds ∧
      ds.length ≤ digitLimit ∧ (∀ c ∈ right, isWhiteSpace c = true) ∧
      n = Nat.ofDigits 10 ds.reverse := by
  constructor
  · intro read
    unfold readMagnitude at read
    obtain ⟨ps, rest, split⟩ : ∃ ps rest, places cs = (ps, rest) := ⟨_, _, rfl⟩
    simp only [split] at read
    split at read
    · cases read
    · next well =>
      split at read
      · cases read
      · next few =>
        split at read
        · next blank =>
          obtain ⟨body, parts, spaced⟩ := spaced_of_places split (by simpa using well)
          cases read
          exact ⟨body, rest, _, parts, spaced, Nat.not_lt.mp few, List.all_eq_true.mp blank,
            ofDigits_eq _⟩
        · cases read
  · rintro ⟨body, right, ds, rfl, spaced, few, blank, rfl⟩
    have ended : ∀ c ∈ right.head?, Place.ofChar? c = none := fun c head =>
      Place.ofChar?_of_isWhiteSpace (blank c (List.mem_of_mem_head? head))
    obtain ⟨ps, split, well, digits, _⟩ := places_of_spaced spaced ended
    unfold readMagnitude
    simp only [split, well, digits, Bool.not_true, Bool.false_eq_true, if_false,
      if_neg (Nat.not_lt.mpr few), List.all_eq_true.mpr blank, if_true, ofDigits_eq]

/-- The character that digits begin with is neither a blank nor a sign. -/
theorem Spaced.head {body : List Char} {ds : List Nat} (spaced : Spaced body ds) :
    ∃ c cs, body = c :: cs ∧ isWhiteSpace c = false ∧ c ≠ '-' ∧ c ≠ '+' := by
  have sound {c : Char} {d : Nat} (value : digitValue? c = some d) :
      isWhiteSpace c = false ∧ c ≠ '-' ∧ c ≠ '+' := by
    refine ⟨Bool.eq_false_iff.mpr fun blank => ?_, ?_, ?_⟩
    · cases (Text.digitValue?_of_isWhiteSpace blank).symm.trans value
    · rintro rfl
      have none : digitValue? '-' = none := by decide
      cases none.symm.trans value
    · rintro rfl
      have none : digitValue? '+' = none := by decide
      cases none.symm.trans value
  cases spaced with
  | last value | digit value _ | gap value _ => exact ⟨_, _, rfl, sound value⟩

theorem dropWhile_blanks {left cs : List Char} (blank : ∀ c ∈ left, isWhiteSpace c = true)
    {c : Char} (head : cs.head? = some c) (other : isWhiteSpace c = false) :
    (left ++ cs).dropWhile isWhiteSpace = cs := by
  rw [List.dropWhile_append_of_pos blank]
  cases cs with
  | nil => rfl
  | cons d cs =>
    cases head
    exact List.dropWhile_cons_of_neg (by simp [other])

theorem readInteger_of_signed {left sign body right : List Char} {factor : Int} {ds : List Nat}
    (before : ∀ c ∈ left, isWhiteSpace c = true) (signed : Sign sign factor)
    (digits : Spaced body ds) :
    readInteger (left ++ (sign ++ (body ++ right))) =
      (readMagnitude (body ++ right)).map fun n => factor * Int.ofNat n := by
  unfold readInteger
  cases signed with
  | none =>
    obtain ⟨c, cs, rfl, other, minus, plus⟩ := digits.head
    rw [dropWhile_blanks before rfl other]
    simp only [one_mul]
    split
    · next sign =>
      cases sign
      exact absurd rfl minus
    · next sign =>
      cases sign
      exact absurd rfl plus
    · rfl
  | plus =>
    rw [dropWhile_blanks before rfl (by decide)]
    simp only [one_mul]
    rfl
  | minus =>
    rw [dropWhile_blanks before rfl (by decide)]
    simp only [neg_one_mul]
    rfl

theorem readInteger_eq_ok_iff {cs : List Char} {n : Int} :
    readInteger cs = .ok n ↔ Writes cs n := by
  constructor
  · intro read
    have whole : cs = cs.takeWhile isWhiteSpace ++ cs.dropWhile isWhiteSpace :=
      List.takeWhile_append_dropWhile.symm
    have blank : ∀ c ∈ cs.takeWhile isWhiteSpace, isWhiteSpace c = true := fun c =>
      List.mem_takeWhile_imp
    have writes {sign magnitude : List Char} {factor : Int} {m : Nat} (signed : Sign sign factor)
        (rest : cs.dropWhile isWhiteSpace = sign ++ magnitude)
        (read : readMagnitude magnitude = .ok m) : Writes cs (factor * m) := by
      obtain ⟨body, right, ds, rfl, spaced, few, behind, rfl⟩ := readMagnitude_eq_ok_iff.mp read
      rw [whole, rest]
      simpa using Writes.intro blank signed spaced few behind
    unfold readInteger at read
    split at read
    · next magnitude rest =>
      obtain ⟨m, size, rfl⟩ := map_ok read
      simpa using writes .minus rest size
    · next magnitude rest =>
      obtain ⟨m, size, rfl⟩ := map_ok read
      simpa using writes .plus rest size
    · obtain ⟨m, size, rfl⟩ := map_ok read
      simpa using writes .none rfl size
  · intro writes
    cases writes with
    | @intro left sign body right factor ds before signed digits few behind =>
      have magnitude : readMagnitude (body ++ right) = .ok (Nat.ofDigits 10 ds.reverse) :=
        readMagnitude_eq_ok_iff.mpr ⟨body, right, ds, rfl, digits, few, behind, rfl⟩
      rw [List.append_assoc, List.append_assoc, readInteger_of_signed before signed digits, magnitude]
      rfl

end Number
end RouteFeed
