import RouteFeed.Failure
import RouteFeed.Text.Blank
import RouteFeed.Text.Quoted

/-! Texts as messages write them. An escape in a message names one unit of UTF-16, so a text may hold
half of a pair on its own: such a half can be compared, joined and quoted, but it is no character
and has no bytes in UTF-8. -/
namespace RouteFeed

inductive CodePoint where
  | char (c : Char)
  /-- Half of a pair of units, by its place among the halves. -/
  | half (place : Fin 0x800)
  deriving DecidableEq

namespace CodePoint

def number : CodePoint → Nat
  | char c => c.toNat
  | half place => 0xd800 + place

def isBlank : CodePoint → Bool
  | char c => Text.isBlank c
  | half _ => false

def isHalf : CodePoint → Bool
  | char _ => false
  | half _ => true

def toChar : CodePoint → Char
  | char c => c
  | half _ => '?'

end CodePoint

abbrev Points := List CodePoint

namespace Points

def ofString (s : String) : Points := s.toList.map .char

instance : Coe String Points := ⟨ofString⟩

def chars? : Points → Option (List Char)
  | [] => some []
  | .char c :: ps => (chars? ps).map (c :: ·)
  | .half _ :: _ => none

def string? (ps : Points) : Option String := ps.chars?.map String.ofList

def intercalate (separator : String) (parts : List Points) : Points :=
  List.intercalate (ofString separator) parts

def words (ps : Points) : List Points := Text.wordsBy CodePoint.isBlank ps

def quoted (ps : Points) : String := Text.quotedNumbers (ps.map CodePoint.number)

def escaped (ps : Points) : String :=
  String.ofList <| ps.flatMap fun
    | .char c => [c]
    | .half place => Text.Quoted.escapeNumber (0xd800 + place)

/-- A text has no form in UTF-8; its first run of halves is reported. -/
def unencodable (ps : Points) : Failure :=
  let start := (ps.takeWhile fun p => !p.isHalf).length
  let run := (ps.drop start).takeWhile CodePoint.isHalf
  let place :=
    if run.length = 1 then s!"character '{escaped run}' in position {start}"
    else s!"characters in position {start}-{start + run.length - 1}"
  ⟨.unencodable, s!"'utf-8' codec can't encode {place}: surrogates not allowed"⟩

def encode (ps : Points) : Except Failure String :=
  match ps.string? with
  | some s => .ok s
  | none => .error ps.unencodable

@[simp] theorem ofString_append (s t : String) : ofString (s ++ t) = ofString s ++ ofString t := by
  simp [ofString]

@[simp] theorem ofString_ofList (cs : List Char) : ofString (String.ofList cs) = cs.map .char := by
  simp [ofString]

@[simp] theorem ofString_inj {s t : String} : ofString s = ofString t ↔ s = t := by
  rw [ofString, ofString, List.map_inj_right fun _ _ same => CodePoint.char.inj same,
    String.toList_inj]

@[simp] theorem char_mem_ofString {c : Char} {s : String} : .char c ∈ ofString s ↔ c ∈ s.toList := by
  simp [ofString]

@[simp] theorem ofString_eq_nil_iff {s : String} : ofString s = [] ↔ s = "" :=
  ofString_inj (t := "")

@[simp] theorem map_toChar_ofString (s : String) :
    (ofString s).map CodePoint.toChar = s.toList := by
  simp [ofString, CodePoint.toChar, Function.comp_def]

@[simp] theorem chars?_map_char (cs : List Char) : chars? (cs.map .char) = some cs := by
  induction cs with
  | nil => rfl
  | cons c cs ih => simp [chars?, ih]

@[simp] theorem string?_ofString (s : String) : string? (ofString s) = some s := by
  simp [string?, ofString]

theorem eq_of_chars? {ps : Points} {cs : List Char} (all : ps.chars? = some cs) :
    ps = cs.map .char := by
  induction ps generalizing cs with
  | nil =>
    cases all
    rfl
  | cons p ps ih =>
    cases p with
    | half place => cases all
    | char c =>
      obtain ⟨rest, found, rfl⟩ := Option.map_eq_some_iff.mp all
      rw [ih found, List.map_cons]

@[simp] theorem encode_ofString (s : String) : encode (ofString s) = .ok s := by
  rw [encode, string?_ofString]

theorem string?_eq_some_iff {ps : Points} {s : String} : ps.string? = some s ↔ ps = s := by
  refine ⟨fun found => ?_, fun same => same ▸ string?_ofString s⟩
  obtain ⟨cs, all, rfl⟩ := Option.map_eq_some_iff.mp found
  rw [eq_of_chars? all, ofString_ofList]

theorem encode_eq_ok_iff {ps : Points} {s : String} : ps.encode = .ok s ↔ ps = s := by
  rw [← string?_eq_some_iff, encode]
  cases ps.string? <;> simp

theorem string?_eq_none_iff {ps : Points} : ps.string? = none ↔ ∃ p ∈ ps, p.isHalf = true := by
  induction ps with
  | nil => simp [string?, chars?]
  | cons p ps ih =>
    cases p with
    | half place => simp [string?, chars?, CodePoint.isHalf]
    | char c => simpa [string?, chars?, CodePoint.isHalf] using ih

theorem exists_string_iff {ps : Points} : (∃ s : String, ps = s) ↔ ∀ p ∈ ps, p.isHalf = false := by
  simp only [← string?_eq_some_iff, ← Option.isSome_iff_exists, ← Bool.not_eq_true,
    ← Option.ne_none_iff_isSome, Ne, string?_eq_none_iff, not_exists, not_and]

theorem words_ofString (s : String) :
    words (ofString s) = (Text.words s.toList).map (List.map .char) := Text.wordsBy_map _ _

theorem ofString_intercalate (separator : String) (ss : List String) :
    ofString (String.intercalate separator ss) = intercalate separator (ss.map ofString) := by
  rw [ofString, String.toList_intercalate, intercalate]
  induction ss with
  | nil => rfl
  | cons s ss ih =>
    cases ss with
    | nil => simp [ofString]
    | cons t ss => simpa [List.intercalate_cons_cons, ofString] using ih

end Points
end RouteFeed
