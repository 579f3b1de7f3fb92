import RouteFeed.Text.Blank

/-! The words of a text. Words that are joined by a blank are read back from the text. The last word is
characters that are not blank, with a blank or nothing before them, and only blanks behind them. -/
namespace RouteFeed.Text

variable {α : Type} {p : α → Bool}

structure IsWord (p : α → Bool) (word : List α) : Prop where
  nonempty : word ≠ []
  visible : ∀ c ∈ word, p c = false

theorem wordsFrom_append {word : List α} (visible : ∀ c ∈ word, p c = false)
    (begun rest : List α) :
    wordsFrom p begun (word ++ rest) = wordsFrom p (word.reverse ++ begun) rest := by
  induction word generalizing begun with
  | nil => rfl
  | cons c word ih =>
    obtain ⟨mark, visible⟩ := List.forall_mem_cons.mp visible
    simp [wordsFrom, mark, ih visible]

namespace IsWord

variable {word : List α} (h : IsWord p word)

include h

theorem words_eq : wordsBy p word = [word] := by
  have read := wordsFrom_append h.visible [] []
  simpa [wordsBy, wordsFrom, h.nonempty] using read

theorem words_append {separator : α} (blank : p separator = true) (rest : List α) :
    wordsBy p (word ++ separator :: rest) = word :: wordsBy p rest := by
  rw [wordsBy, wordsFrom_append h.visible]
  simp [wordsBy, wordsFrom, blank, h.nonempty]

end IsWord

theorem words_intercalate {separator : α} (blank : p separator = true)
    {ws : List (List α)} (each : ∀ word ∈ ws, IsWord p word) :
    wordsBy p ([separator].intercalate ws) = ws := by
  induction ws with
  | nil => rfl
  | cons word ws ih =>
    obtain ⟨first, others⟩ := List.forall_mem_cons.mp each
    cases ws with
    | nil => simpa using first.words_eq
    | cons next ws =>
      rw [List.intercalate_cons_cons, List.append_assoc, List.singleton_append,
        first.words_append blank, ih others]

structure IsLastWord (p : α → Bool) (cs word : List α) : Prop where
  nonempty : word ≠ []
  visible : ∀ c ∈ word, p c = false
  stands : ∃ before after, cs = before ++ word ++ after ∧ (∀ c ∈ after, p c = true) ∧
    ∀ c ∈ before.getLast?, p c = true

namespace IsLastWord

variable {cs word : List α}

theorem mem (h : IsLastWord p cs word) {c : α} (mem : c ∈ word) : c ∈ cs := by
  obtain ⟨before, after, rfl, _, _⟩ := h.stands
  simp [mem]

theorem behind (h : IsLastWord p cs word) (start : List α) {c : α} (blank : p c = true) :
    IsLastWord p (start ++ c :: cs) word := by
  obtain ⟨before, after, rfl, blanks, separated⟩ := h.stands
  refine ⟨h.nonempty, h.visible, start ++ c :: before, after, by simp, blanks, fun d last => ?_⟩
  obtain rfl : before.getLast?.getD c = d := by simpa [List.getLast?_cons] using last
  cases ending : before.getLast? with
  | none => exact blank
  | some e => exact separated e ending

end IsLastWord

theorem isLastWord_of_wordsFrom {begun cs word : List α}
    (visible : ∀ c ∈ begun, p c = false) (last : (wordsFrom p begun cs).getLast? = some word) :
    IsLastWord p (begun.reverse ++ cs) word := by
  -- `begun` is the word that is being read, backwards; it has no blank in it.
  induction cs generalizing begun with
  | nil =>
    unfold wordsFrom at last
    split at last
    · cases last
    · next some =>
      obtain rfl : begun.reverse = word := by simpa using last
      exact ⟨by simpa using some, by simpa using visible, [], [], by simp, by simp, by simp⟩
  | cons c cs ih =>
    unfold wordsFrom at last
    split at last
    · next blank =>
      have rest (later : (wordsFrom p [] cs).getLast? = some word) :
          IsLastWord p (begun.reverse ++ c :: cs) word :=
        (ih (by simp) later).behind begun.reverse blank
      split at last
      · exact rest last
      · next some =>
        cases later : (wordsFrom p [] cs).getLast? with
        | some other =>
          rw [List.getLast?_cons, later] at last
          exact rest (later.trans last)
        | none =>
          rw [List.getLast?_cons, later] at last
          obtain rfl : begun.reverse = word := by simpa using last
          have blanks := (wordsBy_eq_nil_iff cs).mp (List.getLast?_eq_none_iff.mp later)
          refine ⟨by simpa using some, by simpa using visible, [], c :: cs, by simp, ?_, by simp⟩
          exact List.forall_mem_cons.mpr ⟨blank, blanks⟩
    · next mark =>
      have longer := ih (List.forall_mem_cons.mpr ⟨by simpa using mark, visible⟩) last
      simpa using longer

theorem isLastWord_of_words {cs word : List α} (last : (wordsBy p cs).getLast? = some word) :
    IsLastWord p cs word :=
  isLastWord_of_wordsFrom (by simp) last

end RouteFeed.Text
