/-! Values under names, in the order in which the names were first given. -/
namespace RouteFeed

abbrev Named (α : Type) := List (String × α)

namespace Named

-- the keys of an object are looked up as names are
variable {κ α : Type} [DecidableEq κ]

def get? : List (κ × α) → κ → Option α
  | [], _ => none
  | (key, v) :: vs, name => if key = name then some v else get? vs name

def put : List (κ × α) → κ → α → List (κ × α)
  | [], name, v => [(name, v)]
  | (key, w) :: vs, name, v =>
    if key = name then (name, v) :: vs else (key, w) :: put vs name v

/-- After a value has been put under a name, that name has it and every other keeps its own. -/
theorem get?_put (vs : List (κ × α)) (name other : κ) (v : α) :
    get? (put vs name v) other = if name = other then some v else get? vs other := by
  induction vs with
  | nil => simp [put, get?]
  | cons field vs ih =>
    obtain ⟨key, w⟩ := field
    by_cases hk : key = name
    · subst hk
      by_cases ho : key = other <;> simp [put, get?, ho]
    · by_cases ho : name = other
      · subst ho
        simp [put, get?, hk, ih]
      · by_cases hko : key = other <;> simp_all [put, get?]

/-- What is there after a value has been put is that value, or was there before. -/
theorem mem_put {vs : List (κ × α)} {name : κ} {v : α} {field : κ × α}
    (mem : field ∈ put vs name v) : field = (name, v) ∨ field ∈ vs := by
  induction vs with
  | nil => exact .inl (List.mem_singleton.mp mem)
  | cons first vs ih =>
    obtain ⟨key, w⟩ := first
    unfold put at mem
    split at mem
    · rcases List.mem_cons.mp mem with here | there
      · exact .inl here
      · exact .inr (List.mem_cons_of_mem _ there)
    · rcases List.mem_cons.mp mem with rfl | there
      · exact .inr List.mem_cons_self
      · exact (ih there).imp_right (List.mem_cons_of_mem _)

theorem mem_of_get? {vs : List (κ × α)} {name : κ} {v : α} (found : get? vs name = some v) :
    (name, v) ∈ vs := by
  induction vs with
  | nil => cases found
  | cons first vs ih =>
    obtain ⟨key, w⟩ := first
    unfold get? at found
    split at found
    · next same =>
      cases found
      rw [same]
      exact List.mem_cons_self
    · exact List.mem_cons_of_mem _ (ih found)

/-- A new name comes last, and no other name moves. -/
theorem map_fst_put (vs : List (κ × α)) (name : κ) (v : α) :
    (put vs name v).map Prod.fst =
      if name ∈ vs.map Prod.fst then vs.map Prod.fst else vs.map Prod.fst ++ [name] := by
  induction vs with
  | nil => simp [put]
  | cons field vs ih =>
    obtain ⟨key, w⟩ := field
    by_cases hk : key = name
    · simp [put, hk]
    · have hn : name ≠ key := fun h => hk h.symm
      by_cases hm : name ∈ vs.map Prod.fst
      · rw [if_pos hm] at ih
        rw [if_pos (by simp [hm])]
        simp [put, hk, ih]
      · rw [if_neg hm] at ih
        rw [if_neg (by simpa [hn] using hm)]
        simp [put, hk, ih]

theorem nodup_put {vs : List (κ × α)} (distinct : (vs.map Prod.fst).Nodup) (name : κ) (v : α) :
    ((put vs name v).map Prod.fst).Nodup := by
  rw [map_fst_put]
  split
  · exact distinct
  · next fresh =>
    refine List.nodup_append.mpr ⟨distinct, by simp, fun key mem other last => ?_⟩
    rw [List.mem_singleton.mp last]
    rintro rfl
    exact fresh mem

/-- If each name is there once, the values are those that are found under the names. -/
theorem mem_iff_get? {vs : List (κ × α)} (distinct : (vs.map Prod.fst).Nodup) {name : κ} {v : α} :
    (name, v) ∈ vs ↔ get? vs name = some v := by
  induction vs with
  | nil => simp [get?]
  | cons field vs ih =>
    obtain ⟨key, w⟩ := field
    obtain ⟨fresh, distinct⟩ := List.nodup_cons.mp distinct
    rw [List.mem_cons, ih distinct, get?]
    by_cases here : key = name
    · subst here
      have other : ¬ get? vs key = some v := fun found =>
        fresh (List.mem_map.mpr ⟨_, (ih distinct).mpr found, rfl⟩)
      simp [other, eq_comm]
    · simp [here, Ne.symm here]

end Named
end RouteFeed
