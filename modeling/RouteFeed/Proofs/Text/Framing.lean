import RouteFeed.Text.Lines

/-! The lines of a whole text. Texts that hold no line end are found again as lines, if they are
joined by line feeds. -/
namespace RouteFeed.Text

def Unbroken (cs : List Char) : Prop := ∀ c ∈ cs, isLineEnd c = false

theorem Unbroken.reverse {cs : List Char} (h : Unbroken cs) : Unbroken cs.reverse :=
  fun c hc => h c (List.mem_reverse.mp hc)

def wholeLines (cs : List Char) : List (List Char) :=
  (LineSplitter.feed {} cs).1 ++ (LineSplitter.feed {} cs).2.flush

namespace LineSplitter

/-- A line in progress takes what holds no line end. -/
theorem feed_unbroken (begun : List Char) {cs : List Char} (h : Unbroken cs) :
    feed { begun } cs = ([], { begun := cs.reverse ++ begun }) := by
  induction cs generalizing begun with
  | nil => rfl
  | cons c cs ih =>
    obtain ⟨here, others⟩ := List.forall_mem_cons.mp h
    have noReturn : (c == '\r') = false := by
      rw [beq_eq_false_iff_ne]
      rintro rfl
      exact absurd here (by decide)
    have taken : step { begun } c = ([], { begun := c :: begun }) := by
      simp [step, take, noReturn, here]
    simp only [feed, taken, ih (c :: begun) others, List.nil_append, List.reverse_cons,
      List.append_assoc, List.singleton_append]

/-- Neither the lines that have come nor the line in progress hold a line end. -/
def Sound (r : List (List Char) × LineSplitter) : Prop :=
  (∀ line ∈ r.1, Unbroken line) ∧ Unbroken r.2.begun

theorem take_sound {s : LineSplitter} (begun : Unbroken s.begun) (c : Char) :
    Sound (s.take c) := by
  unfold take
  split
  · exact ⟨by simp, begun⟩
  · split
    · exact ⟨by simpa [line] using begun.reverse, by simp [Unbroken]⟩
    · next plain =>
      exact ⟨by simp, List.forall_mem_cons.mpr ⟨by simpa using plain, begun⟩⟩

theorem step_sound {s : LineSplitter} (begun : Unbroken s.begun) (c : Char) :
    Sound (s.step c) := by
  unfold step
  split
  · split
    · exact ⟨by simpa [line] using begun.reverse, by simp [Unbroken]⟩
    · obtain ⟨lines, behind⟩ := @take_sound {} (by simp [Unbroken]) c
      exact ⟨List.forall_mem_cons.mpr ⟨begun.reverse, lines⟩, behind⟩
  · exact take_sound begun c

theorem feed_sound {s : LineSplitter} (begun : Unbroken s.begun) (cs : List Char) :
    Sound (s.feed cs) := by
  induction cs generalizing s with
  | nil => exact ⟨by simp [feed], begun⟩
  | cons c cs ih =>
    obtain ⟨lines, behind⟩ := step_sound begun c
    obtain ⟨more, last⟩ := ih behind
    exact ⟨List.forall_mem_append.mpr ⟨lines, more⟩, last⟩

end LineSplitter

open LineSplitter

theorem unbroken_of_mem_wholeLines {cs line : List Char} (h : line ∈ wholeLines cs) :
    Unbroken line := by
  obtain ⟨lines, begun⟩ := @feed_sound {} (by simp [Unbroken]) cs
  rcases List.mem_append.mp h with h | h
  · exact lines line h
  · unfold flush at h
    split at h
    · cases h
    · cases List.mem_singleton.mp h
      exact begun.reverse

theorem wholeLines_unbroken {t : List Char} (h : Unbroken t) (some : t ≠ []) :
    wholeLines t = [t] := by
  have begun := feed_unbroken [] h
  rw [List.append_nil] at begun
  simp [wholeLines, begun, flush, some, line]

theorem wholeLines_texts {texts : List (List Char)} (some : ∀ t ∈ texts, t ≠ [])
    (unbroken : ∀ t ∈ texts, Unbroken t) : texts.flatMap wholeLines = texts := by
  induction texts with
  | nil => rfl
  | cons t texts ih =>
    obtain ⟨nonempty, rest⟩ := List.forall_mem_cons.mp some
    obtain ⟨here, others⟩ := List.forall_mem_cons.mp unbroken
    rw [List.flatMap_cons, wholeLines_unbroken here nonempty, ih rest others]
    rfl

theorem wholeLines_cut {a : List Char} (h : Unbroken a) {c : Char} (ends : isLineEnd c = true)
    (noReturn : c ≠ '\r') (b : List Char) : wholeLines (a ++ c :: b) = a :: wholeLines b := by
  have begun := feed_unbroken [] h
  have first : feed { begun := a.reverse } (c :: b) = (a :: (feed {} b).1, (feed {} b).2) := by
    have taken : step { begun := a.reverse } c = ([a], {}) := by
      simp [step, take, noReturn, ends, line]
    simp only [feed, taken, List.singleton_append]
  rw [List.append_nil] at begun
  unfold wholeLines
  rw [feed_append, begun, first]
  rfl

/-- What holds of texts without line ends, and of a text if it holds behind its first line end, holds of
all texts. -/
theorem cut_induction {P : List Char → Prop} (unbroken : ∀ a, Unbroken a → P a)
    (cut : ∀ a c b, Unbroken a → isLineEnd c = true → P b → P (a ++ c :: b)) (t : List Char) :
    P t := by
  have first (a : List Char) (h : Unbroken a) (t : List Char) : P (a ++ t) := by
    induction t generalizing a with
    | nil =>
      rw [List.append_nil]
      exact unbroken a h
    | cons c t ih =>
      cases ends : isLineEnd c with
      | true => exact cut a c t h ends (ih [] (by simp [Unbroken]))
      | false =>
        have longer : Unbroken (a ++ [c]) :=
          List.forall_mem_append.mpr ⟨h, by simpa using ends⟩
        have more := ih (a ++ [c]) longer
        rwa [List.append_assoc, List.singleton_append] at more
  exact first [] (by simp [Unbroken]) t

/-- A line feed between two texts keeps their lines apart, except that it may bring an empty one. -/
theorem wholeLines_join {p : List Char → Bool} (empty : p [] = false) {t : List Char}
    (noReturn : '\r' ∉ t) (rest : List Char) :
    (wholeLines (t ++ '\n' :: rest)).filter p =
      (wholeLines t).filter p ++ (wholeLines rest).filter p := by
  induction t using cut_induction with
  | unbroken a h =>
    rw [wholeLines_cut h (by decide) (by decide)]
    by_cases some : a = []
    · simp [some, empty, wholeLines, feed, flush]
    · simp [wholeLines_unbroken h some, List.filter_cons]
      split <;> rfl
  | cut a c b h ends ih =>
    have other : c ≠ '\r' := fun same => noReturn (by simp [same])
    have behind : '\r' ∉ b := fun member => noReturn (by simp [member])
    rw [List.append_assoc, List.cons_append, wholeLines_cut h ends other,
      wholeLines_cut h ends other, List.filter_cons, List.filter_cons, ih behind]
    split <;> rfl

/-- The lines of texts that are joined by line feeds are those of the texts, apart from empty ones. -/
theorem wholeLines_intercalate {p : List Char → Bool} (empty : p [] = false)
    {texts : List (List Char)} (noReturn : ∀ t ∈ texts, '\r' ∉ t) :
    (wholeLines (['\n'].intercalate texts)).filter p = (texts.flatMap wholeLines).filter p := by
  induction texts with
  | nil => rfl
  | cons t texts ih =>
    obtain ⟨here, others⟩ := List.forall_mem_cons.mp noReturn
    cases texts with
    | nil => simp
    | cons next texts =>
      rw [List.intercalate_cons_cons, List.append_assoc, List.singleton_append,
        wholeLines_join empty here, ih others]
      exact (List.filter_append (wholeLines t) _).symm

end RouteFeed.Text
