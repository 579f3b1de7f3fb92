/-! Texts cut at separators: in two at the first, or at every one. -/
namespace RouteFeed.Text

/-- The text before the first separator and the text behind it. -/
def cutFirst? (separator : Char) : List Char → Option (List Char × List Char)
  | [] => none
  | c :: cs =>
    if c == separator then some ([], cs)
    else (cutFirst? separator cs).map fun (a, b) => (c :: a, b)

theorem cutFirst?_eq_some_iff (separator : Char) (cs a b : List Char) :
    cutFirst? separator cs = some (a, b) ↔ cs = a ++ separator :: b ∧ separator ∉ a := by
  induction cs generalizing a with
  | nil => simp [cutFirst?]
  | cons c cs ih =>
    by_cases hc : c = separator
    · subst hc
      cases a <;> grind [cutFirst?]
    · have hs : separator ≠ c := fun h => hc h.symm
      have h : cutFirst? separator (c :: cs) =
          (cutFirst? separator cs).map fun (x, y) => (c :: x, y) := by simp [cutFirst?, hc]
      rw [h, Option.map_eq_some_iff]
      constructor
      · rintro ⟨⟨x, y⟩, hxy, he⟩
        obtain ⟨rfl, rfl⟩ := Prod.mk.inj he
        obtain ⟨rfl, hx⟩ := (ih x).1 hxy
        simp [hs, hx]
      · rintro ⟨he, ha⟩
        cases a with
        | nil => exact absurd (List.cons.inj he).1 hc
        | cons d a =>
          obtain ⟨rfl, rfl⟩ := List.cons.inj he
          exact ⟨(a, b), (ih a).2 ⟨rfl, fun hm => ha (List.mem_cons_of_mem _ hm)⟩, rfl⟩

def splitAll (separator : Char) : List Char → List (List Char)
  | [] => [[]]
  | c :: cs =>
    if c == separator then [] :: splitAll separator cs
    else
      match splitAll separator cs with
      | [] => [[c]]
      | part :: parts => (c :: part) :: parts

theorem splitAll_ne_nil (separator : Char) (cs : List Char) : splitAll separator cs ≠ [] := by
  induction cs with
  | nil => simp [splitAll]
  | cons c cs ih =>
    unfold splitAll
    split
    · simp
    · split <;> simp

theorem length_splitAll (separator : Char) (cs : List Char) :
    (splitAll separator cs).length = cs.count separator + 1 := by
  induction cs with
  | nil => rfl
  | cons c cs ih =>
    by_cases hc : c = separator
    · simp [splitAll, hc, ih]
    · obtain ⟨part, parts, cut⟩ := List.exists_cons_of_ne_nil (splitAll_ne_nil separator cs)
      rw [cut] at ih
      simpa [splitAll, hc, cut] using ih

end RouteFeed.Text
