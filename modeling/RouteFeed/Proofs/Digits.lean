import RouteFeed.Proofs.Json
import RouteFeed.Proofs.Number
import RouteFeed.Proofs.Numerals
import RouteFeed.Value.Access

/-! The digits of integers that are read from JSON text. However deep an integer stands in a value, it has
no more digits than a numeral may have; so its decimal is a numeral, and gives it back. -/
namespace RouteFeed

open Number Text

namespace Number

theorem asciiNumber_eq (cs : List Char) :
    asciiNumber cs = ofDigits (cs.map fun c => c.toNat - '0'.toNat) := by
  rw [asciiNumber, ofDigits, List.foldl_map]

theorem asciiNumber_lt {cs : List Char} (digits : ∀ c ∈ cs, isAsciiDigit c = true) :
    asciiNumber cs < 10 ^ cs.length := by
  have small : ∀ d ∈ (cs.map fun c => c.toNat - '0'.toNat).reverse, d < 10 := by
    intro d mem
    obtain ⟨c, member, rfl⟩ := List.mem_map.mp (List.mem_reverse.mp mem)
    have bounds : 48 ≤ c.toNat ∧ c.toNat ≤ 57 := by
      simpa [isAsciiDigit, Char.le_def, UInt32.le_iff_toNat_le] using digits c member
    have zero : '0'.toNat = 48 := rfl
    omega
  have bound := Nat.ofDigits_lt_base_pow_length (by decide) small
  simpa [asciiNumber_eq, ofDigits_eq] using bound

theorem length_decimalDigits_asciiNumber {cs : List Char}
    (digits : ∀ c ∈ cs, isAsciiDigit c = true) (few : cs.length ≤ digitLimit) :
    (decimalDigits (asciiNumber cs)).length ≤ digitLimit := by
  have bound : asciiNumber cs < 10 ^ digitLimit :=
    (asciiNumber_lt digits).trans_le (Nat.pow_le_pow_right (by decide) few)
  exact (Nat.length_toDigits_le_iff (by decide) (by decide)).mpr bound

theorem digitValue?_lt {c : Char} {d : Nat} (value : digitValue? c = some d) : d < 10 := by
  unfold digitValue? at value
  dsimp only at value
  split at value
  · split at value
    · cases value
      omega
    · cases value
  · obtain ⟨first, found, rfl⟩ := Option.map_eq_some_iff.mp value
    have near := List.find?_some found
    simp only [decide_eq_true_eq] at near
    omega

theorem Spaced.lt_ten {body : List Char} {ds : List Nat} (spaced : Spaced body ds) :
    ∀ d ∈ ds, d < 10 := by
  induction spaced with
  | last value => exact List.forall_mem_singleton.mpr (digitValue?_lt value)
  | digit value _ ih => exact List.forall_mem_cons.mpr ⟨digitValue?_lt value, ih⟩
  | gap value _ ih => exact List.forall_mem_cons.mpr ⟨digitValue?_lt value, ih⟩

end Number

namespace Value

theorem isShort_iff (n : Int) : isShort n = true ↔ n.natAbs < 10 ^ digitLimit := by
  rw [isShort, decide_eq_true_iff]
  exact Nat.length_toDigits_le_iff (by decide) (by decide)

theorem isShort_of_readInteger {cs : List Char} {n : Int} (read : readInteger cs = .ok n) :
    isShort n = true := by
  cases readInteger_eq_ok_iff.mp read with
  | @intro left sign body right factor ds _ signed digits few _ =>
    have below : Nat.ofDigits 10 ds.reverse < 10 ^ ds.length := by
      have small : ∀ d ∈ ds.reverse, d < 10 := fun d mem =>
        digits.lt_ten d (List.mem_reverse.mp mem)
      simpa using Nat.ofDigits_lt_base_pow_length (by decide) small
    have size : (factor * (Nat.ofDigits 10 ds.reverse : Nat)).natAbs =
        Nat.ofDigits 10 ds.reverse := by
      cases signed <;> simp
    rw [isShort_iff, size]
    exact below.trans_le (Nat.pow_le_pow_right (by decide) few)

theorem readInteger_decimal {n : Int} (short : isShort n = true) :
    readInteger (decimal n).toList = .ok n := by
  rw [Number.readInteger_decimal, if_neg (Nat.not_lt.mpr (of_decide_eq_true short))]

/-- Every integer in the value, and every one that a real number in it stands for, can be shown. -/
inductive InReach : Value → Prop
  | null : InReach .null
  | bool (b : Bool) : InReach (.bool b)
  | int {n : Int} (short : isShort n = true) : InReach (.int n)
  | real {x : Binary64} (short : ∀ n, x.truncate = some n → isShort n = true) : InReach (.real x)
  | text (s : Points) : InReach (.text s)
  | list {items : List Value} (each : ∀ v ∈ items, InReach v) : InReach (.list items)
  | object {fields : Fields} (each : ∀ field ∈ fields, InReach field.2) : InReach (.object fields)

namespace InReach

theorem each {items : List Value} (h : InReach (.list items)) : ∀ v ∈ items, v.InReach := by
  cases h with
  | list each => exact each

theorem getD {fields : Fields} (h : InReach (.object fields)) (key : Points)
    {substitute : Value} (other : substitute.InReach) :
    ((Named.get? fields key).getD substitute).InReach := by
  cases h with
  | object each =>
    cases found : Named.get? fields key with
    | none => exact other
    | some v => exact each _ (Named.mem_of_get? found)

theorem parts {v : Value} (h : v.InReach) {vs : List Value} (parts : v.parts = .ok vs) :
    ∀ part ∈ vs, part.InReach := by
  cases h with
  | list each =>
    cases parts
    exact each
  | text s =>
    cases parts
    exact List.forall_mem_map.mpr fun c _ => .text [c]
  | object =>
    cases parts
    exact List.forall_mem_map.mpr fun field _ => .text field.1
  | null | bool | int | real => cases parts

theorem get {v : Value} (h : v.InReach) {key : String} {substitute found : Value}
    (other : substitute.InReach) (got : v.get key substitute = .ok found) : found.InReach := by
  cases h with
  | object each =>
    cases got
    exact getD (.object each) key other
  | null | bool | int | real | text | list => cases got

theorem isLegible {v : Value} (h : v.InReach) : v.isLegible = true := by
  induction h with
  | null => rfl
  | bool => rfl
  | int short => exact short
  | real => rfl
  | text => rfl
  | list _ ih => exact (areLegible_iff _).mpr ih
  | object _ ih => exact (areFieldsLegible_iff _).mpr ih

theorem isShort_of_toInteger {v : Value} (h : v.InReach) {n : Int} (stands : v.toInteger = .ok n) :
    isShort n = true := by
  cases h with
  | null => cases stands
  | bool b =>
    cases stands
    cases b <;> decide
  | int short =>
    cases stands
    exact short
  | @real x short =>
    simp only [toInteger] at stands
    split at stands
    · next whole =>
      cases stands
      exact short _ whole
    · split at stands <;> cases stands
  | text s =>
    simp only [toInteger] at stands
    cases read : readInteger (s.map CodePoint.toChar) with
    | error fault =>
      rw [read] at stands
      cases stands
    | ok m =>
      rw [read] at stands
      cases stands
      exact isShort_of_readInteger read
  | list => cases stands
  | object => cases stands

end InReach

variable {cs rest : List Char}

theorem takeDigits_digits {whole : List Char} (h : takeDigits cs = (whole, rest)) :
    ∀ c ∈ whole, isAsciiDigit c = true := by
  cases h
  exact fun c mem => List.mem_takeWhile_imp mem

theorem isShort_ofDecimal {negative : Bool} {digits : Nat} {e n : Int}
    (whole : (Binary64.ofDecimal negative digits e).truncate = some n) : isShort n = true := by
  have limit : 10 ^ 320 + 2 ^ 971 < 10 ^ digitLimit := by decide +kernel
  exact (isShort_iff n).mpr ((Binary64.natAbs_truncate_ofDecimal_lt whole).trans limit)

theorem inReach_of_readNumber {negative : Bool} {v : Value}
    (h : readNumber negative cs = .ok (v, rest)) : v.InReach := by
  unfold readNumber at h
  split at h
  next whole behind cut =>
  have digits : ∀ c ∈ whole, isAsciiDigit c = true := by
    split at cut
    · cases cut
      exact List.forall_mem_singleton.mpr rfl
    · exact takeDigits_digits cut
  dsimp only at h
  split at h
  · cases h
  · split at h
    · split at h
      · cases h
      · next few =>
        cases h
        have number := length_decimalDigits_asciiNumber digits (Nat.not_lt.mp few)
        cases negative with
        | true => exact .int (by simpa [isShort] using number)
        | false => exact .int (by simpa [isShort] using number)
    · cases h
      exact .real fun n => isShort_ofDecimal

theorem inReach_of_readScalar {v : Value} (h : readScalar cs = .ok (v, rest)) :
    v.InReach := by
  unfold readScalar at h
  dsimp only at h
  split at h
  · next r found =>
    cases h
    obtain ⟨⟨word, w⟩, member, dropped⟩ := List.exists_of_findSome?_eq_some found
    obtain ⟨behind, _, same⟩ := Option.map_eq_some_iff.mp dropped
    cases same
    simp only [valueWords, List.mem_cons, Prod.mk.injEq, List.not_mem_nil, or_false] at member
    rcases member with ⟨-, rfl⟩ | ⟨-, rfl⟩ | ⟨-, rfl⟩ | ⟨-, rfl⟩ | ⟨-, rfl⟩ | ⟨-, rfl⟩
    · exact .null
    · exact .bool true
    · exact .bool false
    all_goals exact .real fun _ truncated => by cases truncated
  · split at h
    · exact inReach_of_readNumber h
    · exact inReach_of_readNumber h

/-- What is read with some fuel is in reach; fields are if those before them are. -/
structure ReadsInReach (fuel : Nat) : Prop where
  value : ∀ {depth cs v rest}, readValue fuel depth cs = .ok (v, rest) → v.InReach
  items : ∀ {depth cs vs rest}, readItems fuel depth cs = .ok (vs, rest) → ∀ v ∈ vs, v.InReach
  fields : ∀ {depth before cs read rest}, (∀ field ∈ before, field.2.InReach) →
    readFields fuel depth before cs = .ok (read, rest) → ∀ field ∈ read, field.2.InReach

theorem put_inReach {fields : Fields} (each : ∀ field ∈ fields, field.2.InReach)
    {v : Value} (h : v.InReach) (key : Points) :
    ∀ field ∈ Named.put fields key v, field.2.InReach := by
  intro field mem
  rcases Named.mem_put mem with rfl | known
  · exact h
  · exact each field known

theorem readsInReach (fuel : Nat) : ReadsInReach fuel := by
  induction fuel with
  | zero => exact ⟨nofun, nofun, nofun⟩
  | succ fuel ih =>
    constructor
    case value =>
      intro depth cs v rest h
      cases valueRead h with
      | string _ _ same => exact same ▸ .text _
      | noItems _ _ same => exact same ▸ .list (List.forall_mem_nil _)
      | list _ read same => exact same ▸ .list (ih.items read)
      | noFields _ _ same => exact same ▸ .object (List.forall_mem_nil _)
      | object _ read same => exact same ▸ .object (ih.fields (List.forall_mem_nil _) read)
      | scalar read => exact inReach_of_readScalar read
    case items =>
      intro depth cs vs rest h
      cases firstItem h with
      | last valued _ same => exact same ▸ List.forall_mem_singleton.mpr (ih.value valued)
      | next valued _ others same =>
        exact same ▸ List.forall_mem_cons.mpr ⟨ih.value valued, ih.items others⟩
    case fields =>
      intro depth before cs read rest each h
      cases firstField h with
      | last _ _ _ valued _ same => exact same ▸ put_inReach each (ih.value valued) _
      | next _ _ _ valued _ others =>
        exact ih.fields (put_inReach each (ih.value valued) _) others

/-- Every integer in a JSON text that is read has few enough digits. -/
theorem inReach_of_parse {v : Value} (h : parse cs = .ok v) : v.InReach := by
  obtain ⟨rest, read, _⟩ := readValue_of_parse h
  exact (readsInReach _).value read

end Value
end RouteFeed
