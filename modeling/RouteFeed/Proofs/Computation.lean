import RouteFeed.Failure

/-! Computations that may fail, taken apart at their steps. -/
namespace RouteFeed

variable {α β : Type}

/-- A computation that succeeds has succeeded at its first step. -/
theorem bind_ok {x : Except Failure α} {next : α → Except Failure β} {b : β}
    (h : x >>= next = .ok b) : ∃ a, x = .ok a ∧ next a = .ok b := by
  cases x with
  | error f => cases h
  | ok a => exact ⟨a, rfl, h⟩

theorem map_ok {ε : Type} {x : Except ε α} {g : α → β} {b : β} (h : x.map g = .ok b) :
    ∃ a, x = .ok a ∧ g a = b := by
  cases x with
  | error f => cases h
  | ok a =>
    cases h
    exact ⟨a, rfl, rfl⟩

theorem bind_error {x : Except Failure α} {next : α → Except Failure β} {f : Failure}
    (h : x >>= next = .error f) : x = .error f ∨ ∃ a, x = .ok a ∧ next a = .error f := by
  cases x with
  | error g =>
    cases h
    exact .inl rfl
  | ok a => exact .inr ⟨a, rfl, h⟩

theorem injective_of_reads {name : α → β} (read : β → Except Failure α)
    (reads : ∀ a, read (name a) = .ok a) : Function.Injective name := by
  intro a b same
  exact Except.ok.inj (by rw [← reads a, same, reads b])

/-- Every failure of a computation is of some sort. -/
def FailsOnly (P : Failure → Prop) (x : Except Failure α) : Prop := ∀ f, x = .error f → P f

namespace FailsOnly

variable {P : Failure → Prop}

theorem ok (a : α) : FailsOnly P (.ok a) := by
  intro f h
  cases h

theorem error {f : Failure} (h : P f) : FailsOnly P (.error f : Except Failure α) := by
  intro g hg
  cases hg
  exact h

theorem imp {Q : Failure → Prop} {x : Except Failure α} (h : FailsOnly P x)
    (weaker : ∀ f, P f → Q f) : FailsOnly Q x := fun f hf => weaker f (h f hf)

theorem bind {x : Except Failure α} {next : α → Except Failure β} (hx : FailsOnly P x)
    (hn : ∀ a, x = .ok a → FailsOnly P (next a)) : FailsOnly P (x >>= next) := by
  intro f h
  rcases bind_error h with first | ⟨a, reached, later⟩
  · exact hx f first
  · exact hn a reached f later

theorem map {x : Except Failure α} (g : α → β) (hx : FailsOnly P x) : FailsOnly P (x.map g) := by
  intro f h
  cases x with
  | error e =>
    cases h
    exact hx f rfl
  | ok a => cases h

end FailsOnly

end RouteFeed
