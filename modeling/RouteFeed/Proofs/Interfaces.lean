import RouteFeed.Interfaces
import RouteFeed.Proofs.CommandLine.Selection

/-! Which data interface is the default one. A registry in which interfaces are registered as the default
by their names keeps to the name that is wanted, as soon as an interface has it. -/
namespace RouteFeed

variable {σ : Type}

namespace Registry

/-- The default of a registry is the interface with a name, or the first one as long as none has that
name. -/
def Honours (r : Registry σ) (name : String) : Prop :=
  ∀ b, r.Selects none b → if r.isTaken name then b.name = name else r.backends.head? = some b

theorem honours_empty (name : String) : ({} : Registry σ).Honours name := by
  intro b selects
  cases selects.member

section Add

variable {r : Registry σ} {name description : String} {factory : Except Failure σ}
  {options : List OptionInfo} {asDefault : Bool}

theorem add_taken (taken : r.isTaken name = true) :
    r.add name description factory options asDefault = r := by
  simp [Registry.add, register, taken]

theorem add_free (free : r.isTaken name = false) :
    r.add name description factory options asDefault =
      { backends := r.backends ++ [{ id := r.nextId, name, description, options, factory }]
        preferred := if asDefault || r.preferred.isNone then some r.nextId else r.preferred } := by
  simp [Registry.add, register, free]

theorem isTaken_add (free : r.isTaken name = false) (wanted : String) :
    (r.add name description factory options asDefault).isTaken wanted =
      (r.isTaken wanted || name == wanted) := by
  simp [add_free free, isTaken]

/-- An interface with a free name becomes the default if that is asked for, or if it is the first of all;
otherwise the default stays. -/
theorem Built.selects_add (built : r.Built) (free : r.isTaken name = false) {b : Backend σ}
    (selects : (r.add name description factory options asDefault).Selects none b) :
    b = { id := r.nextId, name, description, options, factory } ∧
        (asDefault = true ∨ r.backends = []) ∨
      asDefault = false ∧ r.Selects none b := by
  have later : (r.add name description factory options asDefault).Built :=
    .add built name description factory options asDefault
  rw [add_free free] at selects later
  have last : ∀ b : Backend σ, b ∈ r.backends ++ [b] := by simp
  -- numbers are unique, so that it is enough to find one interface with the number of the default
  cases asDefault with
  | true =>
    exact .inl ⟨selects.unique later (.default (last _) rfl), .inl rfl⟩
  | false =>
    cases preferred : r.preferred with
    | none =>
      have first : r.backends = [] := by
        by_contra some
        obtain ⟨id, other⟩ := built.default some
        cases preferred.symm.trans other
      rw [preferred] at selects later
      exact .inl ⟨selects.unique later (.default (last _) rfl), .inr first⟩
    | some id =>
      obtain ⟨c, known, rfl⟩ := built.preferred preferred
      rw [preferred] at selects later
      obtain rfl := selects.unique later (.default (List.mem_append_left _ known) rfl)
      exact .inr ⟨rfl, .default known preferred⟩

end Add

theorem Honours.add {r : Registry σ} {wanted : String} (h : r.Honours wanted) (built : r.Built)
    (name description : String) (factory : Except Failure σ) (options : List OptionInfo) :
    (r.add name description factory options (name == wanted)).Honours wanted := by
  intro b selects
  cases taken : r.isTaken name with
  | true =>
    rw [add_taken taken] at selects ⊢
    exact h b selects
  | false =>
    rw [isTaken_add taken]
    rcases built.selects_add taken selects with ⟨rfl, preferred⟩ | ⟨other, before⟩
    · cases same : name == wanted with
      | true => simpa using same
      | false =>
        have first : r.backends = [] := preferred.resolve_left (by simp [same])
        simp [add_free taken, isTaken, first]
    · have word := h b before
      rw [other, Bool.or_false]
      cases known : r.isTaken wanted with
      | true => rwa [known] at word
      | false =>
        rw [known] at word
        have first : r.backends.head? = some b := word
        simp [add_free taken, List.head?_append, first]

end Registry

namespace Settings

def interfaceNames : List String := Archive.interfaces.map Archive.Interface.name ++ [Live.project]

theorem registry_names (s : Settings) (around : Surroundings) :
    (s.registry around).backends.map Backend.name = interfaceNames := by
  rfl

theorem isTaken_registry (s : Settings) (around : Surroundings) (name : String) :
    (s.registry around).isTaken name = true ↔ name ∈ interfaceNames := by
  rw [← s.registry_names around]
  simp [Registry.isTaken]

theorem addArchives_honours (s : Settings) (around : Surroundings) :
    (s.addArchives around {}).Built ∧ (s.addArchives around {}).Honours s.defaultBackend := by
  have kept (interfaces : List Archive.Interface) {r : Registry AnySource} (built : r.Built)
      (honours : r.Honours s.defaultBackend) :
      let all := interfaces.foldl (fun r i =>
        r.add i.name i.description (.ok (.inl { interface := i.name, library := around.library }))
          i.options (i.name == s.defaultBackend)) r
      all.Built ∧ all.Honours s.defaultBackend := by
    induction interfaces generalizing r with
    | nil => exact ⟨built, honours⟩
    | cons i interfaces ih =>
      exact ih (.add built ..) (honours.add built i.name i.description _ i.options)
  exact kept Archive.interfaces .empty (Registry.honours_empty _)

theorem registry_honours (s : Settings) (around : Surroundings) :
    (s.registry around).Built ∧ (s.registry around).Honours s.defaultBackend := by
  obtain ⟨built, honours⟩ := s.addArchives_honours around
  exact ⟨.add built Live.project _ _ _ _, honours.add built Live.project _ _ _⟩

/-- The interface of a command line that names none. -/
def standing (s : Settings) : String :=
  if s.defaultBackend ∈ interfaceNames then s.defaultBackend else "broker"

theorem selects_standing (s : Settings) (around : Surroundings) :
    ∃ b, (s.registry around).Selects none b ∧ b.name = s.standing := by
  obtain ⟨built, honours⟩ := s.registry_honours around
  have names := s.registry_names around
  have some : (s.registry around).backends ≠ [] := by
    intro none
    rw [none] at names
    cases names
  obtain ⟨id, preferred⟩ := built.default some
  obtain ⟨b, member, rfl⟩ := built.preferred preferred
  have selects : (s.registry around).Selects none b := .default member preferred
  refine ⟨b, selects, ?_⟩
  have known := s.isTaken_registry around s.defaultBackend
  have word := honours b selects
  unfold standing
  by_cases registered : s.defaultBackend ∈ interfaceNames
  · rw [if_pos registered]
    rwa [if_pos (known.mpr registered)] at word
  · rw [if_neg registered]
    rw [if_neg fun taken => registered (known.mp taken)] at word
    have first := congrArg List.head? names
    rw [List.head?_map, word] at first
    exact Option.some.inj first

theorem standing_plain (s : Settings) : s.standing.toList.head? ≠ some '-' := by
  have plain : ∀ name ∈ interfaceNames, name.toList.head? ≠ some '-' := by decide
  unfold standing
  split
  · next registered => exact plain _ registered
  · decide

end Settings
end RouteFeed
