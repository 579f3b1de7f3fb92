import Mathlib.Data.List.Induction
import RouteFeed.Proofs.Interfaces

/-! Registrations one after another. Those that succeed are numbered from one, and the registry answers
from what they have given, whatever is registered later. One that is refused leaves no trace, even if it
was to be the default. -/
namespace RouteFeed

variable {σ : Type}

structure Registration (σ : Type) where
  name : String
  description : String
  factory : Except Failure σ
  options : List OptionInfo := []
  asDefault : Bool := false

/-- The interface that a registration makes under a number. -/
def Registration.backend (q : Registration σ) (id : BackendId) : Backend σ :=
  { id, name := q.name, description := q.description, options := q.options, factory := q.factory }

namespace Registry

def attempt (r : Registry σ) (q : Registration σ) : Except Failure BackendId × Registry σ :=
  ((r.register q.name q.description q.factory q.options q.asDefault).map Prod.fst,
    r.add q.name q.description q.factory q.options q.asDefault)

def after (r : Registry σ) (qs : List (Registration σ)) : Registry σ :=
  qs.foldl (fun r q => (r.attempt q).2) r

abbrev History (σ : Type) := List (Registration σ × Except Failure BackendId)

def history : Registry σ → List (Registration σ) → History σ
  | _, [] => []
  | r, q :: qs => (q, (r.attempt q).1) :: history (r.attempt q).2 qs

namespace History

def made (h : History σ) : List (Backend σ) := h.filterMap fun e => e.2.toOption.map e.1.backend

def numbers (h : History σ) : List BackendId := h.filterMap fun e => e.2.toOption

/-- The number that was given last to an interface that was to be the default, or else the first one. -/
def chosen (h : History σ) : Option BackendId :=
  (numbers (h.filter fun e => e.1.asDefault)).getLast?.or (numbers h).head?

theorem concat_error (h : History σ) (q : Registration σ) (f : Failure) :
    made (h ++ [(q, .error f)]) = made h ∧ chosen (h ++ [(q, .error f)]) = chosen h := by
  cases asDefault : q.asDefault <;> simp [made, chosen, numbers, asDefault, Except.toOption]

theorem made_concat_ok (h : History σ) (q : Registration σ) (id : BackendId) :
    made (h ++ [(q, .ok id)]) = made h ++ [q.backend id] := by
  simp [made, Except.toOption]

theorem chosen_concat_ok (h : History σ) (q : Registration σ) (id : BackendId) :
    chosen (h ++ [(q, .ok id)]) = if q.asDefault || (chosen h).isNone then some id else chosen h := by
  cases asDefault : q.asDefault with
  | true => simp [chosen, numbers, asDefault, Except.toOption]
  | false =>
    have same : chosen (h ++ [(q, .ok id)]) = (chosen h).or (some id) := by
      simp [chosen, numbers, asDefault, Except.toOption]
    rw [same]
    cases chosen h <;> rfl

end History

open History

variable {r : Registry σ} {q : Registration σ} {qs : List (Registration σ)}

theorem after_append (r : Registry σ) (qs more : List (Registration σ)) :
    r.after (qs ++ more) = (r.after qs).after more := List.foldl_append

theorem history_concat (r : Registry σ) (qs : List (Registration σ)) (q : Registration σ) :
    r.history (qs ++ [q]) = r.history qs ++ [(q, ((r.after qs).attempt q).1)] := by
  induction qs generalizing r with
  | nil => rfl
  | cons p qs ih => exact congrArg ((p, _) :: ·) (ih _)

theorem attempt_taken (taken : r.isTaken q.name = true) :
    r.attempt q = (.error (.badValue s!"Backend '{q.name}' is already registered"), r) := by
  simp [attempt, add_taken taken, register, taken, Except.map]

theorem attempt_free (free : r.isTaken q.name = false) :
    r.attempt q = (.ok r.nextId,
      { backends := r.backends ++ [q.backend r.nextId]
        preferred := if q.asDefault || r.preferred.isNone then some r.nextId else r.preferred }) := by
  simp [attempt, add_free free, register, free, Except.map, Registration.backend]

theorem isTaken_iff {name : String} : r.isTaken name = true ↔ ∃ b ∈ r.backends, b.name = name := by
  simp [isTaken]

theorem Built.after (built : r.Built) (qs : List (Registration σ)) : (r.after qs).Built := by
  induction qs generalizing r with
  | nil => exact built
  | cons q qs ih => exact ih (.add built ..)

theorem backends_prefix_after (r : Registry σ) (qs : List (Registration σ)) :
    r.backends <+: (r.after qs).backends := by
  induction qs generalizing r with
  | nil => exact List.prefix_rfl
  | cons q qs ih =>
    have step : r.backends <+: (r.attempt q).2.backends := by
      cases taken : r.isTaken q.name with
      | true => simp [attempt_taken taken]
      | false =>
        rw [attempt_free taken]
        exact List.prefix_append _ _
    exact step.trans (ih _)

theorem after_eq (qs : List (Registration σ)) :
    after {} qs =
      { backends := made (history {} qs), preferred := chosen (history (σ := σ) {} qs) } := by
  -- from the end: the last registration decides what is added and chosen
  induction qs using List.reverseRecOn with
  | nil => rfl
  | append_singleton qs q ih =>
    have last : after {} (qs ++ [q]) = ((after {} qs).attempt q).2 := after_append _ _ _
    have backends : (after {} qs).backends = made (history {} qs) := congrArg Registry.backends ih
    have preferred : (after {} qs).preferred = chosen (history {} qs) :=
      congrArg Registry.preferred ih
    rw [last, history_concat]
    cases taken : (after {} qs).isTaken q.name with
    | true =>
      obtain ⟨made, chosen⟩ := (history {} qs).concat_error q
        (.badValue s!"Backend '{q.name}' is already registered")
      rw [attempt_taken taken, made, chosen]
      exact ih
    | false =>
      rw [attempt_free taken, made_concat_ok, chosen_concat_ok, backends, preferred]

theorem Built.info_iff (built : r.Built) {id : BackendId} {b : Backend σ} :
    r.info id = .ok b ↔ b ∈ r.backends ∧ b.id = id := by
  constructor
  · intro info
    obtain ⟨c, member, rfl⟩ := knows_of_info info
    cases info.symm.trans (built.info member)
    exact ⟨member, rfl⟩
  · rintro ⟨member, rfl⟩
    exact built.info member

theorem info_unknown {id : BackendId} (unknown : ∀ b ∈ r.backends, b.id ≠ id) :
    r.info id = .error (unknownNumber id) := by
  have none : r.find? id = none := List.find?_eq_none.mpr fun b member => by
    simpa using unknown b member
  rw [info, none]

theorem resolveOption_unknown {id : BackendId} (unknown : ∀ b ∈ r.backends, b.id ≠ id)
    (name : String) : r.resolveOption id name = .error (unknownNumber id) := by
  rw [resolveOption, info_unknown unknown]
  rfl

theorem Built.resolveBackend_iff (built : r.Built) {name : String} {id : BackendId} :
    r.resolveBackend name = .ok id ↔ ∃ b, r.info id = .ok b ∧ b.name = name := by
  constructor
  · intro resolved
    unfold Registry.resolveBackend at resolved
    split at resolved
    · next b found =>
      cases resolved
      exact ⟨b, built.info (List.mem_of_find?_eq_some found), by simpa using List.find?_some found⟩
    · cases resolved
  · rintro ⟨b, info, rfl⟩
    obtain ⟨member, rfl⟩ := built.info_iff.mp info
    exact built.resolveBackend member

theorem resolveBackend_unknown {name : String} (unknown : ∀ b ∈ r.backends, b.name ≠ name) :
    r.resolveBackend name = .error (.backendNotFound name) := by
  have none : (r.backends.find? fun b => b.name == name) = none :=
    List.find?_eq_none.mpr fun b member => by simpa using unknown b member
  rw [resolveBackend, none]

theorem resolveOption_of_info {id : BackendId} {b : Backend σ} (info : r.info id = .ok b)
    (name : String) :
    r.resolveOption id name =
      if ∃ o ∈ b.options, o.name = name then .ok ⟨id, name⟩ else .error (.optionNotFound b.name name) := by
  have owns : b.owns name = true ↔ ∃ o ∈ b.options, o.name = name := by simp [Backend.owns]
  unfold resolveOption
  rw [info]
  change (if b.owns name = true then _ else _) = _
  split
  · next owned => rw [if_pos (owns.mp owned)]; rfl
  · next missing => rw [if_neg (mt owns.mpr missing)]; rfl

/-- Later registrations change nothing of what an interface is known for. -/
theorem Built.info_after (built : r.Built) {id : BackendId} {b : Backend σ} (info : r.info id = .ok b)
    (more : List (Registration σ)) : (r.after more).info id = .ok b := by
  obtain ⟨member, same⟩ := built.info_iff.mp info
  exact (built.after more).info_iff.mpr ⟨(r.backends_prefix_after more).subset member, same⟩

theorem Built.default_iff (built : r.Built) (some : r.backends ≠ []) :
    ∃ b ∈ r.backends, r.preferred = .some b.id ∧
      ∀ c ∈ r.backends, r.isDefault c.id = true ↔ c = b := by
  obtain ⟨id, preferred⟩ := built.default some
  obtain ⟨b, member, rfl⟩ := built.preferred preferred
  refine ⟨b, member, preferred, fun c other => ?_⟩
  rw [isDefault, preferred, beq_iff_eq, Option.some.injEq]
  exact ⟨fun same => List.inj_on_of_nodup_map built.ids_nodup other member same.symm, fun same => by
    rw [same]⟩

theorem Built.undefaulted (built : r.Built) (none : r.backends = []) :
    r.defaultBackend = .error (.backendNotFound "<default>") := by
  unfold defaultBackend
  split
  · next preferred =>
    obtain ⟨b, member, _⟩ := built.preferred preferred
    cases none ▸ member
  · rfl

structure Answers (r : Registry σ) (qs : List (Registration σ)) : Prop where
  /-- The interfaces are listed in order, as they were registered, -/
  listed : r.backends = made (history {} qs)
  numbered : r.backends.map Backend.id =
    (List.range r.backends.length).map fun n => Int.ofNat (n + 1)
  distinct : (r.backends.map Backend.name).Nodup
  /-- The same is known of an interface by its number. -/
  info : ∀ id b, r.info id = .ok b ↔ b ∈ r.backends ∧ b.id = id
  unnumbered : ∀ id, (∀ b ∈ r.backends, b.id ≠ id) →
    r.info id = .error (unknownNumber id) ∧
      ∀ name, r.resolveOption id name = .error (unknownNumber id)
  name : ∀ name id, r.resolveBackend name = .ok id ↔ ∃ b, r.info id = .ok b ∧ b.name = name
  unnamed : ∀ name, (∀ id b, r.info id = .ok b → b.name ≠ name) →
    r.resolveBackend name = .error (.backendNotFound name)
  option : ∀ id b, r.info id = .ok b → r.listOptions id = .ok b.options ∧
    ∀ name, r.resolveOption id name =
      if ∃ o ∈ b.options, o.name = name then .ok ⟨id, name⟩ else .error (.optionNotFound b.name name)
  /-- Exactly one of the interfaces is the default: the last one that was to be it, or else the first. -/
  default : r.backends ≠ [] → ∃ b ∈ r.backends, chosen (history (σ := σ) {} qs) = some b.id ∧
    r.defaultBackend = .ok b.id ∧ ∀ c ∈ r.backends, r.isDefault c.id = true ↔ c = b
  undefaulted : r.backends = [] → r.defaultBackend = .error (.backendNotFound "<default>")
  /-- Nothing of this changes, apart from the default, when others are registered. -/
  lasting : ∀ more, r.backends <+: (r.after more).backends ∧
    ∀ id b, r.info id = .ok b → (r.after more).info id = .ok b
  /-- A name that is taken is refused, and nothing changes. -/
  refused : ∀ q, q.name ∈ r.backends.map Backend.name →
    r.attempt q = (.error (.badValue s!"Backend '{q.name}' is already registered"), r)
  /-- Any other name is registered under the next number. -/
  accepted : ∀ q, q.name ∉ r.backends.map Backend.name →
    (r.attempt q).1 = .ok (Int.ofNat (r.backends.length + 1))

theorem answers_as_registered (qs : List (Registration σ)) : (after {} qs).Answers qs := by
  have built : (after (σ := σ) {} qs).Built := Built.empty.after qs
  have whole := after_eq qs
  have taken (q : Registration σ) : (after {} qs).isTaken q.name = true ↔
      q.name ∈ (after {} qs).backends.map Backend.name := isTaken_iff.trans List.mem_map.symm
  exact {
    listed := congrArg Registry.backends whole
    numbered := built.ids
    distinct := built.names_nodup
    info := fun _ _ => built.info_iff
    unnumbered := fun _ unknown => ⟨info_unknown unknown, resolveOption_unknown unknown⟩
    name := fun _ _ => built.resolveBackend_iff
    unnamed := fun _ unknown => resolveBackend_unknown fun b member =>
      unknown b.id b (built.info member)
    option := fun id b info => ⟨by rw [listOptions, info]; rfl, resolveOption_of_info info⟩
    default := fun some => by
      obtain ⟨b, member, preferred, only⟩ := built.default_iff some
      refine ⟨b, member, ?_, ?_, only⟩
      · rw [← preferred, whole]
      · rw [defaultBackend, preferred]
    undefaulted := built.undefaulted
    lasting := fun more => ⟨backends_prefix_after _ more, fun _ _ info => built.info_after info more⟩
    refused := fun q member => attempt_taken ((taken q).mpr member)
    accepted := fun q fresh => by
      rw [attempt_free (Bool.eq_false_iff.mpr (mt (taken q).mp fresh))]
      rfl }

/-- The last one is refused. -/
example : (after {} [⟨"a", "", .ok (), [], false⟩, ⟨"b", "", .ok (), [], true⟩,
    ⟨"a", "", .ok (), [], true⟩]).defaultBackend = .ok 2 := rfl

end Registry
end RouteFeed
