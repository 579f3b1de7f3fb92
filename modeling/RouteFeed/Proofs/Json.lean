import Mathlib.Data.List.TakeWhile
import RouteFeed.Text.Blank
import RouteFeed.Value.Parser

/-! JSON texts. A string without escapes is read as it stands, and an object field by field. Whatever
is read, its characters stand where they may: outside of strings only few, and no control character
but blanks. -/
namespace RouteFeed.Value

open Text Number

def isVerbatim (c : Char) : Bool := 0x20 ≤ c.toNat && c != '"' && c != '\\'

theorem readPoints_verbatim {cs : List Char} (h : cs.all isVerbatim = true)
    (rest : List Char) : readPoints (cs ++ '"' :: rest) = .ok (cs.map .char, rest) := by
  induction cs with
  | nil => rfl
  | cons c cs ih =>
    obtain ⟨here, others⟩ := Bool.and_eq_true_iff.mp h
    simp only [isVerbatim, Bool.and_eq_true, decide_eq_true_eq, bne_iff_ne, ne_eq] at here
    obtain ⟨⟨printed, noQuote⟩, noEscape⟩ := here
    have plain : (decide (c.toNat < 0x20) || c == '\\') = false := by
      simp [noEscape, Nat.not_lt.mpr printed]
    rw [List.cons_append, readPoints, plain, ih others]
    · rfl
    · exact noQuote
    · exact fun _ _ _ _ _ h _ => noEscape h
    · exact fun _ _ h _ => noEscape h

theorem joinHalves_char (cs : List Char) : joinHalves (cs.map .char) = cs.map .char := by
  induction cs with
  | nil => rfl
  | cons c cs ih => rw [List.map_cons, joinHalves, ih]

theorem readString_verbatim {cs : List Char} (h : cs.all isVerbatim = true)
    (rest : List Char) : readString (cs ++ '"' :: rest) = .ok (cs.map .char, rest) := by
  simp only [readString, readPoints_verbatim h, Except.map, joinHalves_char]

theorem readValue_verbatim {fuel depth : Nat} {cs : List Char} (h : cs.all isVerbatim = true)
    (rest : List Char) : readValue (fuel + 1) depth ('"' :: (cs ++ '"' :: rest)) =
      .ok (.text (cs.map .char), rest) := by
  rw [readValue, readString_verbatim h]
  rfl

section fields

variable {fuel depth : Nat} {fields : Fields} {name rest after behind : List Char}
  {key : Points} {v : Value}

theorem readFields_next (named : readString name = .ok (key, ':' :: rest))
    (value : readValue fuel depth (skipBlanks rest) = .ok (v, after))
    (comma : skipBlanks after = ',' :: behind) :
    readFields (fuel + 1) depth fields ('"' :: name) =
      readFields fuel depth (Named.put fields key v) (skipBlanks behind) := by
  have colon : skipBlanks (':' :: rest) = ':' :: rest := rfl
  simp only [readFields, named, colon, value, comma]

theorem readFields_last (named : readString name = .ok (key, ':' :: rest))
    (value : readValue fuel depth (skipBlanks rest) = .ok (v, after))
    (brace : skipBlanks after = '\x7d' :: behind) :
    readFields (fuel + 1) depth fields ('"' :: name) = .ok (Named.put fields key v, behind) := by
  have colon : skipBlanks (':' :: rest) = ':' :: rest := rfl
  simp only [readFields, named, colon, value, brace]

theorem readValue_object {cs : List Char} {read : Fields}
    (h : readFields fuel depth [] ('"' :: cs) = .ok (read, rest)) :
    readValue (fuel + 1) (depth + 1) ('\x7b' :: '"' :: cs) = .ok (.object read, rest) := by
  change (readFields fuel depth [] ('"' :: cs)).map _ = _
  rw [h]
  rfl

end fields

/-- Where a character of a JSON text stands. -/
inductive Spot where
  | outside
  | inside
  | escaped
  deriving DecidableEq

/-- The characters that a JSON text may have outside of its strings. -/
def tokens : List Char := [
  ' ', '\t', '\n', '\r', '[', ']', '\x7b', '\x7d', ':', ',', '+', '-', '.', '0', '1', '2', '3', '4',
  '5', '6', '7', '8', '9', 'E', 'I', 'N', 'a', 'e', 'f', 'i', 'l', 'n', 'r', 's', 't', 'u', 'y']

/-- The spot behind a character, if it may stand where it does. -/
def Spot.next (s : Spot) (c : Char) : Option Spot :=
  match s with
  | outside => if c == '"' then some inside else if tokens.contains c then some outside else none
  | inside =>
    if c == '"' then some outside
    else if c == '\\' then some escaped
    else if c.toNat < 0x20 then none
    else some inside
  | escaped => if c.toNat < 0x20 then none else some inside

def scan : Spot → List Char → Option Spot
  | s, [] => some s
  | s, c :: cs => (s.next c).bind fun s => scan s cs

theorem scan_append (s : Spot) (xs ys : List Char) :
    scan s (xs ++ ys) = (scan s xs).bind fun s => scan s ys := by
  induction xs generalizing s with
  | nil => rfl
  | cons c xs ih =>
    simp only [List.cons_append, scan, Option.bind_assoc, ih]

theorem scan_cons {s t : Spot} {c : Char} (h : s.next c = some t) (cs : List Char) :
    scan s (c :: cs) = scan t cs := by
  simp [scan, h]

/-- A text begins with tokens and with whole strings, and another one is what follows them. -/
inductive Passes : List Char → List Char → Prop
  | refl (cs) : Passes cs cs
  | token {c cs rest} (token : c ∈ tokens) (behind : Passes cs rest) : Passes (c :: cs) rest
  | string {cs s mid rest} (read : readString cs = .ok (s, mid)) (behind : Passes mid rest) :
    Passes ('"' :: cs) rest

namespace Passes

theorem trans {xs ys zs : List Char} (h : Passes xs ys) (k : Passes ys zs) : Passes xs zs := by
  induction h with
  | refl => exact k
  | token token _ ih => exact .token token (ih k)
  | string read _ ih => exact .string read (ih k)

theorem append {used : List Char} (all : ∀ c ∈ used, c ∈ tokens) (rest : List Char) :
    Passes (used ++ rest) rest := by
  induction used with
  | nil => exact .refl rest
  | cons c used ih =>
    obtain ⟨here, others⟩ := List.forall_mem_cons.mp all
    exact .token here (ih others)

theorem dropWhile {p : Char → Bool} (h : ∀ c, p c = true → c ∈ tokens) (cs : List Char) :
    Passes cs (cs.dropWhile p) := by
  have used : ∀ c ∈ cs.takeWhile p, c ∈ tokens := fun c hc =>
    h c (List.all_eq_true.mp List.all_takeWhile c hc)
  have split := append used (cs.dropWhile p)
  rwa [List.takeWhile_append_dropWhile] at split

end Passes

theorem isJsonBlank_token {c : Char} (h : isJsonBlank c = true) : c ∈ tokens := by
  simp only [isJsonBlank, Bool.or_eq_true, beq_iff_eq] at h
  rcases h with ((rfl | rfl) | rfl) | rfl <;> decide

theorem passes_skipBlanks (cs : List Char) : Passes cs (skipBlanks cs) :=
  .dropWhile (fun _ => isJsonBlank_token) cs

theorem digit_token {c : Char} (h : isAsciiDigit c = true) : c ∈ tokens := by
  have bounds : 48 ≤ c.toNat ∧ c.toNat ≤ 57 := by
    simpa [isAsciiDigit, Char.le_def, UInt32.le_iff_toNat_le] using h
  rw [← Char.ofNat_toNat c]
  generalize c.toNat = n at bounds
  have digits : n = 48 ∨ n = 49 ∨ n = 50 ∨ n = 51 ∨ n = 52 ∨ n = 53 ∨ n = 54 ∨ n = 55 ∨ n = 56 ∨
    n = 57 := by omega
  rcases digits with rfl | rfl | rfl | rfl | rfl | rfl | rfl | rfl | rfl | rfl <;> decide

theorem passes_takeDigits (cs : List Char) : Passes cs (takeDigits cs).2 :=
  .dropWhile (fun _ => digit_token) cs

theorem passes_readFraction (cs : List Char) : Passes cs (readFraction cs).2 := by
  unfold readFraction
  split
  · split
    · exact .token (by decide) (passes_takeDigits _)
    · exact .refl _
  · exact .refl _

theorem passes_takeSign (cs : List Char) : Passes cs (takeSign cs).2 := by
  unfold takeSign
  split
  · exact .token (by decide) (.refl _)
  · exact .token (by decide) (.refl _)
  · exact .refl _

theorem passes_readExponent (cs : List Char) : Passes cs (readExponent cs).2 := by
  unfold readExponent
  split
  · next mark rest =>
    split
    · next isMark =>
      have token : mark ∈ tokens := by
        simp only [Bool.or_eq_true, beq_iff_eq] at isMark
        rcases isMark with rfl | rfl <;> decide
      dsimp only
      split
      · exact .refl _
      · exact .token token ((passes_takeSign rest).trans (passes_takeDigits _))
    · exact .refl _
  · exact .refl _

theorem passes_readNumber {negative : Bool} {cs rest : List Char} {v : Value}
    (h : readNumber negative cs = .ok (v, rest)) : Passes cs rest := by
  unfold readNumber at h
  split at h
  next whole behind cut =>
  have first : Passes cs behind := by
    split at cut
    · cases cut
      exact .token (by decide) (.refl _)
    · cases cut
      exact passes_takeDigits cs
  have number := first.trans ((passes_readFraction behind).trans (passes_readExponent _))
  dsimp only at h
  split at h
  · cases h
  · split at h
    · split at h
      · cases h
      · cases h
        exact number
    · cases h
      exact number

theorem dropWord?_eq {word cs rest : List Char} (h : dropWord? word cs = some rest) :
    cs = word ++ rest := by
  induction word generalizing cs with
  | nil =>
    cases h
    rfl
  | cons w word ih =>
    cases cs with
    | nil => cases h
    | cons c cs =>
      unfold dropWord? at h
      split at h
      · next same =>
        rw [ih h, eq_of_beq same]
        rfl
      · cases h

theorem passes_readScalar {cs rest : List Char} {v : Value}
    (h : readScalar cs = .ok (v, rest)) : Passes cs rest := by
  unfold readScalar at h
  dsimp only at h
  split at h
  · next r found =>
    cases h
    obtain ⟨⟨word, w⟩, member, dropped⟩ := List.exists_of_findSome?_eq_some found
    obtain ⟨behind, hd, same⟩ := Option.map_eq_some_iff.mp dropped
    cases same
    have letters : valueWords.all (fun entry => entry.1.all tokens.contains) = true := by decide
    have mine : word.all tokens.contains = true := List.all_eq_true.mp letters (word, w) member
    rw [dropWord?_eq hd]
    exact .append (by simpa using mine) _
  · split at h
    · exact .token (by decide) (passes_readNumber h)
    · exact passes_readNumber h

theorem Reading.map_ok {α β : Type} {x : Reading α} {g : α × List Char → β × List Char}
    {b : β × List Char} (h : x.map g = .ok b) : ∃ a, x = .ok a ∧ g a = b := by
  cases x with
  | error fault => cases h
  | ok a =>
    cases h
    exact ⟨a, rfl, rfl⟩

theorem next_hexDigit {c : Char} {n : Nat} (h : hexValue? c = some n) :
    Spot.next .inside c = some .inside := by
  have bounds : 48 ≤ c.toNat ∧ c.toNat ≤ 57 ∨ 97 ≤ c.toNat ∧ c.toNat ≤ 102 ∨
      65 ≤ c.toNat ∧ c.toNat ≤ 70 := by
    have number : c.val.toNat = c.toNat := rfl
    unfold hexValue? at h
    simp only [Char.le_def, UInt32.le_iff_toNat_le, number] at h
    split at h
    · next digit => exact .inl digit
    · split at h
      · next lower => exact .inr (.inl lower)
      · split at h
        · next upper => exact .inr (.inr upper)
        · cases h
  have noQuote : c ≠ '"' := by
    rintro rfl
    revert bounds
    decide
  have noEscape : c ≠ '\\' := by
    rintro rfl
    revert bounds
    decide
  have printed : ¬ c.toNat < 0x20 := by omega
  simp [Spot.next, noQuote, noEscape, printed]

theorem scan_readPoints {cs rest : List Char} {ps : Points}
    (h : readPoints cs = .ok (ps, rest)) : scan .inside cs = scan .outside rest := by
  fun_induction readPoints cs generalizing ps rest with
  | case1 => cases h
  | case2 cs =>
    cases h
    rfl
  | case3 => cases h
  | case4 a b c d cs n hex ih =>
    obtain ⟨⟨more, behind⟩, read, same⟩ := Reading.map_ok h
    cases same
    -- the scan does not know of the four digits: behind the escape's letter they pass one by one
    simp only [hexUnit?, bind, Option.bind_eq_some_iff] at hex
    obtain ⟨_, ha, _, hb, _, hc, _, hd, _⟩ := hex
    have escape : scan .inside ('\\' :: 'u' :: a :: b :: c :: d :: cs) =
      scan .inside (a :: b :: c :: d :: cs) := rfl
    rw [escape, scan_cons (next_hexDigit ha), scan_cons (next_hexDigit hb),
      scan_cons (next_hexDigit hc), scan_cons (next_hexDigit hd), ih read]
  | case5 c cs _ e found ih =>
    obtain ⟨⟨more, behind⟩, read, same⟩ := Reading.map_ok h
    cases same
    have printed : Spot.next .escaped c = some .inside := by
      unfold escaped? at found
      split at found <;> first | rfl | cases found
    have escape : scan .inside ('\\' :: c :: cs) = scan .escaped (c :: cs) := rfl
    rw [escape, scan_cons printed, ih read]
  | case6 => cases h
  | case7 => cases h
  | case8 c cs noQuote _ _ plain ih =>
    obtain ⟨⟨more, behind⟩, read, same⟩ := Reading.map_ok h
    cases same
    simp only [Bool.or_eq_true, decide_eq_true_eq, beq_iff_eq, not_or] at plain
    have next : Spot.next .inside c = some .inside := by
      simp [Spot.next, plain.1, plain.2, show c ≠ '"' from noQuote]
    rw [scan_cons next, ih read]

theorem scan_readString {cs rest : List Char} {s : Points}
    (h : readString cs = .ok (s, rest)) : scan .inside cs = scan .outside rest := by
  obtain ⟨⟨ps, behind⟩, read, same⟩ := Reading.map_ok h
  cases same
  exact scan_readPoints read

/-- What is read with some fuel is tokens and whole strings. -/
structure Reads (fuel : Nat) : Prop where
  value : ∀ {depth cs v rest}, readValue fuel depth cs = .ok (v, rest) → Passes cs rest
  items : ∀ {depth cs vs rest}, readItems fuel depth cs = .ok (vs, rest) → Passes cs rest
  fields : ∀ {depth before cs read rest}, readFields fuel depth before cs = .ok (read, rest) →
    Passes cs rest

theorem passes_skipped {c : Char} {cs rest : List Char} (token : c ∈ tokens)
    (next : skipBlanks cs = c :: rest) : Passes cs rest := by
  have first := passes_skipBlanks cs
  rw [next] at first
  exact first.trans (.token token (.refl rest))

/-- What a value at the head of a text can be, and what follows it. -/
inductive ValueRead (fuel : Nat) (v : Value) (cs rest : List Char) : Prop
  | string {more s} (text : cs = '"' :: more) (read : readString more = .ok (s, rest))
    (same : v = .text s)
  | noItems {more} (text : cs = '[' :: more) (closed : skipBlanks more = ']' :: rest)
    (same : v = .list [])
  | list {more depth items} (text : cs = '[' :: more)
    (read : readItems fuel depth (skipBlanks more) = .ok (items, rest)) (same : v = .list items)
  | noFields {more} (text : cs = '\x7b' :: more) (closed : skipBlanks more = '\x7d' :: rest)
    (same : v = .object [])
  | object {more depth fields} (text : cs = '\x7b' :: more)
    (read : readFields fuel depth [] (skipBlanks more) = .ok (fields, rest))
    (same : v = .object fields)
  | scalar (read : readScalar cs = .ok (v, rest))

theorem valueRead {fuel depth : Nat} {cs rest : List Char} {v : Value}
    (h : readValue (fuel + 1) depth cs = .ok (v, rest)) : ValueRead fuel v cs rest := by
  unfold readValue at h
  split at h
  · cases h
  · obtain ⟨⟨s, behind⟩, read, same⟩ := Reading.map_ok h
    cases same
    exact .string rfl read rfl
  · next cs more =>
    cases more
    split at h
    · cases h
    · split at h
      · next closed =>
        cases h
        exact .noItems rfl closed rfl
      · obtain ⟨⟨items, behind⟩, read, same⟩ := Reading.map_ok h
        cases same
        exact .list rfl read rfl
  · next cs more =>
    cases more
    split at h
    · cases h
    · split at h
      · next closed =>
        cases h
        exact .noFields rfl closed rfl
      · obtain ⟨⟨fields, behind⟩, read, same⟩ := Reading.map_ok h
        cases same
        exact .object rfl read rfl
  · exact .scalar h

theorem passes_readValue {fuel depth : Nat} (ih : Reads fuel) {cs rest : List Char} {v : Value}
    (h : readValue (fuel + 1) depth cs = .ok (v, rest)) : Passes cs rest := by
  cases valueRead h with
  | string text read _ =>
    rw [text]
    exact .string read (.refl _)
  | noItems text closed _ =>
    rw [text]
    exact .token (by decide) (passes_skipped (by decide) closed)
  | list text read _ =>
    rw [text]
    exact .token (by decide) ((passes_skipBlanks _).trans (ih.items read))
  | noFields text closed _ =>
    rw [text]
    exact .token (by decide) (passes_skipped (by decide) closed)
  | object text read _ =>
    rw [text]
    exact .token (by decide) ((passes_skipBlanks _).trans (ih.fields read))
  | scalar read => exact passes_readScalar read

/-- The first item among those that are read, and what follows it. -/
inductive FirstItem (fuel depth : Nat) (vs : List Value) (cs rest : List Char) : Prop
  | last {v behind} (valued : readValue fuel depth cs = .ok (v, behind))
    (closed : skipBlanks behind = ']' :: rest) (same : vs = [v])
  | next {v behind more items} (valued : readValue fuel depth cs = .ok (v, behind))
    (comma : skipBlanks behind = ',' :: more)
    (others : readItems fuel depth (skipBlanks more) = .ok (items, rest)) (same : vs = v :: items)

theorem firstItem {fuel depth : Nat} {cs rest : List Char} {vs : List Value}
    (h : readItems (fuel + 1) depth cs = .ok (vs, rest)) : FirstItem fuel depth vs cs rest := by
  unfold readItems at h
  split at h
  · cases h
  · next v behind read =>
    split at h
    · next closed =>
      cases h
      exact .last read closed rfl
    · next comma =>
      obtain ⟨⟨items, after⟩, more, same⟩ := Reading.map_ok h
      cases same
      exact .next read comma more rfl
    · cases h

theorem passes_readItems {fuel depth : Nat} (ih : Reads fuel) {cs rest : List Char}
    {vs : List Value} (h : readItems (fuel + 1) depth cs = .ok (vs, rest)) : Passes cs rest := by
  cases firstItem h with
  | last valued closed _ => exact (ih.value valued).trans (passes_skipped (by decide) closed)
  | next valued comma others _ =>
    exact (ih.value valued).trans ((passes_skipped (by decide) comma).trans
      ((passes_skipBlanks _).trans (ih.items others)))

inductive FirstField (fuel depth : Nat) (before read : Fields) (cs rest : List Char) : Prop
  | last {name key after value v behind} (text : cs = '"' :: name)
    (named : readString name = .ok (key, after)) (colon : skipBlanks after = ':' :: value)
    (valued : readValue fuel depth (skipBlanks value) = .ok (v, behind))
    (closed : skipBlanks behind = '\x7d' :: rest) (same : read = Named.put before key v)
  | next {name key after value v behind more} (text : cs = '"' :: name)
    (named : readString name = .ok (key, after)) (colon : skipBlanks after = ':' :: value)
    (valued : readValue fuel depth (skipBlanks value) = .ok (v, behind))
    (comma : skipBlanks behind = ',' :: more)
    (others : readFields fuel depth (Named.put before key v) (skipBlanks more) = .ok (read, rest))

theorem firstField {fuel depth : Nat} {before read : Fields} {cs rest : List Char}
    (h : readFields (fuel + 1) depth before cs = .ok (read, rest)) :
    FirstField fuel depth before read cs rest := by
  unfold readFields at h
  split at h
  · cases h
  · next cs more =>
    cases more
    split at h
    · cases h
    · next key named name =>
      split at h
      · next value colon =>
        split at h
        · cases h
        · next v behind valued =>
          dsimp only at h
          split at h
          · next closed =>
            cases h
            exact .last rfl name colon valued closed rfl
          · next comma => exact .next rfl name colon valued comma h
          · cases h
      · cases h
  · cases h

theorem passes_field {fuel depth : Nat} (ih : Reads fuel) {name after value behind : List Char}
    {key : Points} {v : Value} (named : readString name = .ok (key, after))
    (colon : skipBlanks after = ':' :: value)
    (valued : readValue fuel depth (skipBlanks value) = .ok (v, behind)) :
    Passes ('"' :: name) behind :=
  .string named ((passes_skipped (by decide) colon).trans
    ((passes_skipBlanks value).trans (ih.value valued)))

theorem passes_readFields {fuel depth : Nat} (ih : Reads fuel) {before : Fields}
    {cs rest : List Char} {read : Fields}
    (h : readFields (fuel + 1) depth before cs = .ok (read, rest)) : Passes cs rest := by
  cases firstField h with
  | last text named colon valued closed _ =>
    rw [text]
    exact (passes_field ih named colon valued).trans (passes_skipped (by decide) closed)
  | @next _ _ _ _ _ _ more text named colon valued comma others =>
    rw [text]
    exact (passes_field ih named colon valued).trans ((passes_skipped (by decide) comma).trans
      ((passes_skipBlanks more).trans (ih.fields others)))

theorem reads (fuel : Nat) : Reads fuel := by
  induction fuel with
  | zero => exact ⟨nofun, nofun, nofun⟩
  | succ fuel ih =>
    exact ⟨passes_readValue ih, passes_readItems ih, passes_readFields ih⟩

theorem readValue_of_parse {cs : List Char} {v : Value} (h : parse cs = .ok v) :
    ∃ rest, readValue (cs.length + 1) depthLimit (skipBlanks cs) = .ok (v, rest) ∧
      skipBlanks rest = [] := by
  unfold parse parseWithin at h
  cases read : readValue (cs.length + 1) depthLimit (skipBlanks cs) with
  | error fault =>
    rw [read] at h
    cases h
  | ok pair =>
    obtain ⟨w, rest⟩ := pair
    rw [read] at h
    change (if (skipBlanks rest).isEmpty then _ else _) = _ at h
    split at h
    · next ended =>
      cases h
      exact ⟨rest, rfl, List.isEmpty_iff.mp ended⟩
    · cases h

/-- A JSON text is tokens and whole strings. -/
theorem passes_of_parse {cs : List Char} {v : Value} (h : parse cs = .ok v) : Passes cs [] := by
  obtain ⟨rest, read, ended⟩ := readValue_of_parse h
  have behind := passes_skipBlanks rest
  rw [ended] at behind
  exact (passes_skipBlanks cs).trans (((reads _).value read).trans behind)

theorem token_ne {c : Char} (h : c ∈ tokens) : c ≠ '"' ∧ c ≠ '\\' := by
  constructor
  · rintro rfl
    exact absurd h (by decide)
  · rintro rfl
    exact absurd h (by decide)

/-- Outside of strings, tokens and whole strings lead back outside. -/
theorem Passes.scan_outside {cs rest : List Char} (h : Passes cs rest) :
    scan .outside cs = scan .outside rest := by
  induction h with
  | refl => rfl
  | @token c cs rest token _ ih =>
    have next : Spot.next .outside c = some .outside := by
      simp [Spot.next, (token_ne token).1, token]
    rw [scan_cons next, ih]
  | @string cs _ _ _ read _ ih =>
    have quote : scan .outside ('"' :: cs) = scan .inside cs := rfl
    rw [quote, scan_readString read, ih]

/-- A JSON text begins and ends outside of strings, and each of its characters may stand where it
does. -/
theorem scan_of_parse {cs : List Char} {v : Value} (h : parse cs = .ok v) :
    scan .outside cs = some .outside := (passes_of_parse h).scan_outside

/-- If what is behind a closing quote is read as a string, it is made of tokens. -/
theorem readPoints_outside {cs rest : List Char} {ps : Points}
    (h : readPoints cs = .ok (ps, rest)) {t : Spot} (scanned : scan .outside cs = some t) :
    ∃ content : List Char, ps = content.map .char ∧ (∀ c ∈ content, c ∈ tokens) ∧
      scan .inside rest = some t := by
  -- no backslash stands outside of strings, so that no escape is read
  fun_induction readPoints cs generalizing ps rest with
  | case1 => cases h
  | case2 cs =>
    cases h
    exact ⟨[], rfl, by simp, scanned⟩
  | case3 => cases h
  | case4 => cases scanned
  | case5 => cases scanned
  | case6 => cases h
  | case7 => cases h
  | case8 c cs noQuote _ _ plain ih =>
    obtain ⟨⟨more, behind⟩, read, same⟩ := Reading.map_ok h
    cases same
    obtain ⟨next, here, others⟩ := Option.bind_eq_some_iff.mp scanned
    have quote : (c == '"') = false := beq_false_of_ne noQuote
    simp only [Spot.next, quote, Bool.false_eq_true, if_false] at here
    split at here
    · next token =>
      cases here
      obtain ⟨content, rfl, all, inside⟩ := ih read others
      exact ⟨c :: content, rfl, List.forall_mem_cons.mpr ⟨by simpa using token, all⟩, inside⟩
    · cases here

theorem readString_outside {cs rest : List Char} {s : Points} (h : readString cs = .ok (s, rest))
    {t : Spot} (scanned : scan .outside cs = some t) :
    (∀ c, .char c ∈ s → c ∈ tokens) ∧ scan .inside rest = some t := by
  obtain ⟨⟨ps, behind⟩, read, same⟩ := Reading.map_ok h
  cases same
  obtain ⟨content, rfl, all, inside⟩ := readPoints_outside read scanned
  refine ⟨fun c mem => all c ?_, inside⟩
  rw [joinHalves_char] at mem
  simpa using mem

/-- Within a string, tokens and whole strings lead back into it, if the characters may stand there. -/
theorem Passes.scan_inside {cs rest : List Char} (h : Passes cs rest) {t : Spot}
    (scanned : scan .inside cs = some t) : scan .inside rest = some t := by
  induction h with
  | refl => exact scanned
  | @token c cs rest token _ ih =>
    obtain ⟨next, here, others⟩ := Option.bind_eq_some_iff.mp scanned
    obtain ⟨noQuote, noEscape⟩ := token_ne token
    simp only [Spot.next, beq_iff_eq, noQuote, noEscape, if_false] at here
    split at here
    · cases here
    · cases here
      exact ih others
  | string read _ ih => exact ih (readString_outside read scanned).2

/-- A JSON text within a string does not end it. -/
theorem inside_of_parse {cs : List Char} {v : Value} (h : parse cs = .ok v) {t : Spot}
    (scanned : scan .inside cs = some t) : t = .inside :=
  (Option.some.inj ((passes_of_parse h).scan_inside scanned)).symm

theorem keys_of_readFields {fuel depth : Nat} {before read : Fields} {cs rest : List Char}
    (h : readFields fuel depth before cs = .ok (read, rest)) {t : Spot}
    (scanned : scan .inside cs = some t) {key : Points} {v : Value}
    (found : Named.get? read key = some v) :
    (∃ w, Named.get? before key = some w) ∨ ∀ c, .char c ∈ key → c ∈ tokens := by
  -- field by field: each name that is read stands outside for the scan
  induction fuel generalizing before cs with
  | zero => cases h
  | succ fuel ih =>
    have put {name : Points} {w u : Value} {vs : Fields}
        (added : Named.get? (Named.put vs name w) key = some u) :
        (∃ w, Named.get? vs key = some w) ∨ key = name := by
      rw [Named.get?_put] at added
      split at added
      · next same => exact .inr same.symm
      · exact .inl ⟨u, added⟩
    cases firstField h with
    | last text named colon valued closed same =>
      rw [text] at scanned
      rw [same] at found
      rcases put found with known | rfl
      · exact .inl known
      · exact .inr (readString_outside named scanned).1
    | @next _ _ _ _ _ _ more text named colon valued comma others =>
      rw [text] at scanned
      have behind := (passes_field (reads fuel) named colon valued).trans
        ((passes_skipped (by decide) comma).trans (passes_skipBlanks more))
      rcases ih others (behind.scan_inside scanned) with ⟨w, added⟩ | all
      · rcases put added with known | rfl
        · exact .inl known
        · exact .inr (readString_outside named scanned).1
      · exact .inr all

theorem readNumber_ne_object {negative : Bool} {cs rest : List Char} {fields : Fields} :
    readNumber negative cs ≠ .ok (.object fields, rest) := by
  intro h
  unfold readNumber at h
  split at h
  dsimp only at h
  split at h
  · cases h
  · split at h
    · split at h <;> cases h
    · cases h

theorem readScalar_ne_object {cs rest : List Char} {fields : Fields} :
    readScalar cs ≠ .ok (.object fields, rest) := by
  intro h
  unfold readScalar at h
  dsimp only at h
  split at h
  · next found =>
    cases h
    obtain ⟨⟨word, w⟩, member, dropped⟩ := List.exists_of_findSome?_eq_some found
    obtain ⟨behind, _, same⟩ := Option.map_eq_some_iff.mp dropped
    cases same
    simp [valueWords] at member
  · split at h
    · exact readNumber_ne_object h
    · exact readNumber_ne_object h

theorem object_of_readValue {fuel depth : Nat} {cs rest : List Char} {fields : Fields}
    (h : readValue (fuel + 1) depth cs = .ok (.object fields, rest)) :
    ∃ more, cs = '\x7b' :: more ∧ (fields = [] ∨
      ∃ depth, readFields fuel depth [] (skipBlanks more) = .ok (fields, rest)) := by
  cases valueRead h with
  | string _ _ same => cases same
  | noItems _ _ same => cases same
  | list _ _ same => cases same
  | noFields text _ same =>
    cases same
    exact ⟨_, text, .inl rfl⟩
  | object text read same =>
    cases same
    exact ⟨_, text, .inr ⟨_, read⟩⟩
  | scalar read => exact absurd read readScalar_ne_object

/-- The keys of a whole text that may stand in a string are made of tokens. -/
theorem keys_of_parse {cs : List Char} {fields : Fields} (h : parse cs = .ok (.object fields))
    {t : Spot} (scanned : scan .inside cs = some t) {key : Points} {v : Value}
    (found : Named.get? fields key = some v) : ∀ c, .char c ∈ key → c ∈ tokens := by
  obtain ⟨rest, read, _⟩ := readValue_of_parse h
  obtain ⟨more, text, none | ⟨depth, all⟩⟩ := object_of_readValue read
  · rw [none] at found
    cases found
  · have start := passes_skipBlanks cs
    rw [text] at start
    have behind := start.trans ((Passes.token (by decide) (.refl more)).trans
      (passes_skipBlanks more))
    rcases keys_of_readFields all (behind.scan_inside scanned) found with ⟨w, known⟩ | all
    · cases known
    · exact all

theorem control_of_scan {s t : Spot} {cs : List Char} (h : scan s cs = some t) :
    ∀ c ∈ cs, c.toNat < 0x20 → isJsonBlank c = true := by
  induction cs generalizing s with
  | nil => simp
  | cons c cs ih =>
    obtain ⟨next, here, rest⟩ := Option.bind_eq_some_iff.mp h
    refine List.forall_mem_cons.mpr ⟨fun control => ?_, ih rest⟩
    cases s with
    | outside =>
      have blanks : tokens.all (fun c => 0x20 ≤ c.toNat || isJsonBlank c) = true := by decide
      simp only [Spot.next] at here
      split at here
      · next quote =>
        rw [eq_of_beq quote] at control
        exact absurd control (by decide)
      · split at here
        · next token =>
          have blank := List.all_eq_true.mp blanks c (by simpa using token)
          simpa [Nat.not_le.mpr control] using blank
        · cases here
    | inside =>
      simp only [Spot.next] at here
      split at here
      · next quote =>
        rw [eq_of_beq quote] at control
        exact absurd control (by decide)
      · split at here
        · next escape =>
          rw [eq_of_beq escape] at control
          exact absurd control (by decide)
        · cases here
    | escaped => simp [Spot.next, control] at here

theorem jsonBlank_of_scan {cs : List Char} {t : Spot} (blank : ∀ c ∈ cs, isBlank c = true)
    (h : scan .outside cs = some t) : ∀ c ∈ cs, isJsonBlank c = true := by
  induction cs with
  | nil => simp
  | cons c cs ih =>
    obtain ⟨here, others⟩ := List.forall_mem_cons.mp blank
    have noQuote : (c == '"') = false := by
      rw [beq_eq_false_iff_ne]
      rintro rfl
      exact absurd here (by decide)
    obtain ⟨next, behind, rest⟩ := Option.bind_eq_some_iff.mp h
    simp only [Spot.next, noQuote, Bool.false_eq_true, if_false] at behind
    split at behind
    · next token =>
      cases behind
      have blanks : tokens.all (fun c => !isBlank c || isJsonBlank c) = true := by decide
      have blank := List.all_eq_true.mp blanks c (by simpa using token)
      exact List.forall_mem_cons.mpr ⟨by simpa [here] using blank, ih others rest⟩
    · cases behind

theorem scan_of_blank {cs : List Char} (blank : ∀ c ∈ cs, isBlank c = true) {s t : Spot}
    (steady : s ≠ .escaped) (h : scan s cs = some t) : t = s := by
  induction cs with
  | nil =>
    cases h
    rfl
  | cons c cs ih =>
    obtain ⟨here, others⟩ := List.forall_mem_cons.mp blank
    have noQuote : c ≠ '"' := by
      rintro rfl
      exact absurd here (by decide)
    have noEscape : c ≠ '\\' := by
      rintro rfl
      exact absurd here (by decide)
    obtain ⟨next, behind, rest⟩ := Option.bind_eq_some_iff.mp h
    have same : next = s := by
      cases s with
      | escaped => exact absurd rfl steady
      | outside =>
        simp only [Spot.next, beq_iff_eq, noQuote, if_false] at behind
        split at behind
        · exact (Option.some.inj behind).symm
        · cases behind
      | inside =>
        simp only [Spot.next, beq_iff_eq, noQuote, noEscape, if_false] at behind
        split at behind
        · cases behind
        · exact (Option.some.inj behind).symm
    exact ih others (same ▸ rest)

theorem visible_of_parse {cs : List Char} {v : Value} (h : parse cs = .ok v) :
    cs.all isBlank = false := by
  refine Bool.eq_false_iff.mpr fun blank => ?_
  have empty : skipBlanks cs = [] := by
    have all := jsonBlank_of_scan (List.all_eq_true.mp blank) (scan_of_parse h)
    exact List.dropWhile_eq_nil_iff.mpr all
  unfold parse parseWithin at h
  rw [empty] at h
  cases h

end RouteFeed.Value
