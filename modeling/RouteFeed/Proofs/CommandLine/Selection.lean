import RouteFeed.Proofs.CommandLine.Refusals
import Mathlib.Data.List.Nodup

/-! What speaks against the arguments of a command line. The limits, the data interface and its options
are checked one after another, and the first thing that speaks against the arguments is what refuses
them. Over a registry that has been built by registering interfaces, an interface has its number and
its name for itself. -/
namespace RouteFeed

variable {σ : Type}

namespace Registry

theorem add_backends (r : Registry σ) (name description : String) (factory : Except Failure σ)
    (options : List OptionInfo) (asDefault : Bool) :
    (r.add name description factory options asDefault).backends = r.backends ∨
      (∀ b ∈ r.backends, b.name ≠ name) ∧
        (r.add name description factory options asDefault).backends =
          r.backends ++ [{ id := r.nextId, name, description, options, factory }] := by
  unfold add register
  by_cases taken : r.isTaken name
  · simp only [taken, if_true]
    exact .inl trivial
  · simp only [taken, Bool.false_eq_true, if_false]
    refine .inr ⟨fun b member same => taken ?_, trivial⟩
    exact List.any_eq_true.mpr ⟨b, member, by simp [same]⟩

theorem Built.ids {r : Registry σ} (built : r.Built) :
    r.backends.map Backend.id = (List.range r.backends.length).map fun n => Int.ofNat (n + 1) := by
  induction built with
  | empty => rfl
  | @add r before name description factory options asDefault ih =>
    rcases r.add_backends name description factory options asDefault with same | ⟨_, more⟩
    · rw [same]
      exact ih
    · rw [more, List.map_append, ih, List.length_append, List.length_singleton, List.range_succ,
        List.map_append]
      rfl

theorem Built.ids_nodup {r : Registry σ} (built : r.Built) : (r.backends.map Backend.id).Nodup := by
  rw [built.ids]
  refine List.Nodup.map (fun m n same => ?_) List.nodup_range
  have := Int.ofNat.inj same
  omega

theorem Built.names_nodup {r : Registry σ} (built : r.Built) :
    (r.backends.map Backend.name).Nodup := by
  induction built with
  | empty => exact .nil
  | @add r before name description factory options asDefault ih =>
    rcases r.add_backends name description factory options asDefault with same | ⟨free, more⟩
    · rw [same]
      exact ih
    · rw [more, List.map_append]
      refine List.nodup_append.mpr ⟨ih, List.nodup_singleton _, fun taken mem other last => ?_⟩
      obtain ⟨b, member, rfl⟩ := List.mem_map.mp mem
      rw [List.map_singleton, List.mem_singleton] at last
      exact last ▸ free b member

/-- In a list without repeated keys, the entry with a key is found. -/
theorem find?_key {α β : Type} [BEq β] [LawfulBEq β] {key : α → β} {xs : List α}
    (distinct : (xs.map key).Nodup) {x : α} (member : x ∈ xs) :
    xs.find? (fun y => key y == key x) = some x := by
  cases found : xs.find? fun y => key y == key x with
  | none => simpa using List.find?_eq_none.mp found x member
  | some y =>
    have same : key y = key x := by simpa using List.find?_some found
    exact congrArg some
      (List.inj_on_of_nodup_map distinct (List.mem_of_find?_eq_some found) member same)

theorem Built.info {r : Registry σ} (built : r.Built) {b : Backend σ} (member : b ∈ r.backends) :
    r.info b.id = .ok b := by
  unfold Registry.info find?
  rw [find?_key built.ids_nodup member]

theorem Built.resolveBackend {r : Registry σ} (built : r.Built) {b : Backend σ}
    (member : b ∈ r.backends) : r.resolveBackend b.name = .ok b.id := by
  unfold Registry.resolveBackend
  rw [find?_key built.names_nodup member]

theorem Built.default {r : Registry σ} (built : r.Built) (some : r.backends ≠ []) :
    ∃ id, r.preferred = .some id := by
  induction built with
  | empty => exact absurd rfl some
  | @add r before name description factory options asDefault ih =>
    unfold Registry.add register at some ⊢
    by_cases taken : r.isTaken name
    · simp only [taken, if_true] at some ⊢
      exact ih some
    · simp only [taken, Bool.false_eq_true, if_false]
      split
      · exact ⟨_, rfl⟩
      · next kept =>
        simp only [Bool.or_eq_true, not_or, Bool.not_eq_true, Option.isNone_eq_false_iff] at kept
        exact Option.isSome_iff_exists.mp kept.2

inductive Selects (r : Registry σ) : Option (Given String) → Backend σ → Prop
  | default {b} (member : b ∈ r.backends) (preferred : r.preferred = some b.id) : Selects r none b
  | named {b} (member : b ∈ r.backends) : Selects r (some (.value b.name)) b

theorem Selects.member {r : Registry σ} {interface : Option (Given String)} {b : Backend σ}
    (h : r.Selects interface b) : b ∈ r.backends := by
  cases h <;> assumption

theorem Selects.unique {r : Registry σ} (built : r.Built) {interface : Option (Given String)}
    {b c : Backend σ} (hb : r.Selects interface b) (hc : r.Selects interface c) : b = c := by
  cases hb with
  | default member preferred =>
    cases hc with
    | default member' preferred' =>
      have same : b.id = c.id := Option.some.inj (preferred.symm.trans preferred')
      exact List.inj_on_of_nodup_map built.ids_nodup member member' same
  | named member =>
    generalize named : some (Given.value b.name) = interface at hc
    cases hc with
    | default => cases named
    | named member' =>
      have same : b.name = c.name := by simpa using named
      exact List.inj_on_of_nodup_map built.names_nodup member member' same

end Registry

namespace CommandLine

open Registry

variable {registry : Registry σ}

/-- What speaks against the choice of an interface. -/
def interfaceObjections (registry : Registry σ) (interface : Option (Given String)) : List Failure :=
  match registry.preferred with
  | none => [.backendNotFound "<default>"]
  | some _ =>
    match interface with
    | none => []
    | some .erased => [.backendNotFound "[]"]
    | some (.value name) => if registry.isTaken name then [] else [.backendNotFound name]

theorem openSession_cases (built : registry.Built) (interface : Option (Given String)) :
    (∃ f, interfaceObjections registry interface = [f] ∧
      openSession registry interface = .error f) ∨
    ∃ b, interfaceObjections registry interface = [] ∧ registry.Selects interface b ∧
      openSession registry interface = .ok { registry, backend := b.id } := by
  unfold openSession Session.new Registry.defaultBackend interfaceObjections
  cases preferred : registry.preferred with
  | none => exact .inl ⟨_, rfl, rfl⟩
  | some id =>
    cases interface with
    | none =>
      obtain ⟨b, member, rfl⟩ := built.preferred preferred
      exact .inr ⟨b, rfl, .default member preferred, rfl⟩
    | some name =>
      cases name with
      | erased => exact .inl ⟨_, rfl, rfl⟩
      | value name =>
        dsimp only [Except.map, bind, Except.bind]
        by_cases taken : registry.isTaken name
        · obtain ⟨b, member, same⟩ := List.any_eq_true.mp taken
          obtain rfl : b.name = name := by simpa using same
          rw [if_pos taken, built.resolveBackend member]
          refine .inr ⟨b, rfl, .named member, ?_⟩
          dsimp only
          unfold Session.selectBackend
          rw [Session.configuring_allows rfl]
          dsimp only [bind, Except.bind]
          rw [built.info member]
          rfl
        · have unknown : registry.resolveBackend name = .error (.backendNotFound name) := by
            unfold Registry.resolveBackend
            have none : registry.backends.find? (fun b => b.name == name) = none :=
              List.find?_eq_none.mpr fun b member same =>
                taken (List.any_eq_true.mpr ⟨b, member, same⟩)
            rw [none]
          rw [if_neg taken, unknown]
          exact .inl ⟨_, rfl, rfl⟩

theorem interfaceObjections_of_selects (built : registry.Built) {interface : Option (Given String)}
    {b : Backend σ} (selects : registry.Selects interface b) :
    interfaceObjections registry interface = [] := by
  unfold interfaceObjections
  cases selects with
  | default member preferred => rw [preferred]
  | named member =>
    have taken : registry.isTaken b.name = true := List.any_eq_true.mpr ⟨b, member, by simp⟩
    obtain ⟨id, preferred⟩ := built.default (List.ne_nil_of_mem member)
    rw [preferred]
    exact if_pos taken

/-- A check that fails with the first thing that speaks against it. -/
def checked : List Failure → Except Failure Unit
  | [] => .ok ()
  | f :: _ => .error f

theorem checked_append (fs gs : List Failure) :
    checked (fs ++ gs) = checked fs >>= fun _ => checked gs := by
  cases fs <;> rfl

/-- What speaks against a number of values. -/
def excess (number : Nat) (limit : Int) (what : String) : List Failure :=
  if limit < number then [.usage ("A maximum of " ++ Text.decimal limit ++ " " ++ what)] else []

theorem checkLimit_eq {α : Type} (values : List α) (limit : Int) (what : String) :
    checkLimit values limit what = checked (excess values.length limit what) := by
  unfold checkLimit excess
  split <;> rfl

/-- What speaks against the numbers of values. -/
def Arguments.excesses (a : Arguments) (s : Settings) : List Failure :=
  excess a.projects.length s.maxProjects "projects can be specified on the command line" ++
  excess a.collectors.length s.maxCollectors "collectors can be specified on the command line" ++
  excess a.types.length s.maxRecordTypes "types can be specified on the command line" ++
  excess a.windows.length s.maxWindows "windows can be specified on the command line" ++
  excess a.options.length s.maxOptions "interface options can be specified"

theorem checkLimits_eq (a : Arguments) (s : Settings) : a.checkLimits s = checked (a.excesses s) := by
  unfold Arguments.checkLimits Arguments.excesses
  simp only [checkLimit_eq, checked_append]
  cases checked (excess a.projects.length s.maxProjects _) with
  | error f => rfl
  | ok u =>
    cases checked (excess a.collectors.length s.maxCollectors _) with
    | error f => rfl
    | ok u =>
      cases checked (excess a.types.length s.maxRecordTypes _) with
      | error f => rfl
      | ok u => cases checked (excess a.windows.length s.maxWindows _) <;> rfl

def asks : Given String → Bool
  | .value raw => raw.toList.head? == some '?'
  | .erased => false

/-- An erased value stands before any that asks for the options of the interface. -/
def Stumbles (options : List (Given String)) : Prop :=
  .erased ∈ options.takeWhile fun option => !asks option

instance : DecidablePred Stumbles := fun options =>
  inferInstanceAs (Decidable (.erased ∈ options.takeWhile fun option => !asks option))

theorem asksForOptions_eq (options : List (Given String)) :
    asksForOptions options =
      if Stumbles options then .error (.lacksOperation (.list []) "startswith")
      else .ok (options.any asks) := by
  induction options with
  | nil => rfl
  | cons option options ih =>
    cases option with
    | erased => rfl
    | value raw =>
      change (if asks (.value raw) then _ else asksForOptions options) = _
      cases question : asks (.value raw) with
      | true => simp [Stumbles, question]
      | false =>
        have same : Stumbles (.value raw :: options) = Stumbles options := by
          simp [Stumbles, question]
        simp only [same, ih, List.any_cons, question, Bool.false_or, Bool.false_eq_true, if_false]

def setting? : Given String → Option (String × String)
  | .erased => none
  | .value raw =>
    (Text.cutFirst? ',' raw.toList).map fun cut => (String.ofList cut.1, String.ofList cut.2)

/-- What speaks against an option of an interface. -/
def optionObjections (b : Backend σ) : Given String → List Failure
  | .erased => []
  | .value raw =>
    match setting? (.value raw) with
    | none => [malformedOption raw]
    | some (name, _) => if b.owns name then [] else [.optionNotFound b.name name]

def assigned (options : Named String) (given : List (Given String)) : Named String :=
  (given.filterMap setting?).foldl (fun options setting => Named.put options setting.1 setting.2) options

variable {s : Session σ} {b : Backend σ}

theorem applyOption_eq (configuring : s.phase = .configuring)
    (info : s.registry.info s.backend = .ok b) (raw : String) :
    applyOption s (.value raw) = (checked (optionObjections b (.value raw))).map fun _ =>
      { s with options := assigned s.options [.value raw] } := by
  unfold applyOption optionObjections assigned setting?
  dsimp only [List.filterMap]
  cases Text.cutFirst? ',' raw.toList with
  | none => rfl
  | some parts =>
    obtain ⟨name, value⟩ := parts
    dsimp only [Option.map]
    unfold Registry.resolveOption
    rw [info]
    dsimp only [bind, Except.bind]
    cases b.owns (String.ofList name) with
    | false => rfl
    | true =>
      exact setBackendOption_own configuring (String.ofList name) (String.ofList value)

theorem assigned_cons (options : Named String) (first : Given String) (rest : List (Given String)) :
    assigned options (first :: rest) = assigned (assigned options [first]) rest := by
  unfold assigned
  rw [← List.foldl_append, ← List.filterMap_append]
  rfl

/-- Options that have not been erased are set in order, or refused by the first thing that speaks against
them. -/
theorem applyOptions_eq (configuring : s.phase = .configuring)
    (info : s.registry.info s.backend = .ok b) {options : List (Given String)}
    (whole : .erased ∉ options) :
    applyOptions s options = (checked (options.flatMap (optionObjections b))).map fun _ =>
      { s with options := assigned s.options options } := by
  induction options generalizing s with
  | nil => rfl
  | cons option options ih =>
    cases option with
    | erased => exact absurd List.mem_cons_self whole
    | value raw =>
      rw [applyOptions, applyOption_eq configuring info, List.flatMap_cons, checked_append,
        assigned_cons s.options (.value raw) options]
      cases checked (optionObjections b (.value raw)) with
      | error f => rfl
      | ok u =>
        exact ih (s := { s with options := assigned s.options [.value raw] }) configuring info
          fun erased => whole (List.mem_cons_of_mem _ erased)

/-- What speaks against arguments before the options of the interface are looked at. -/
def Arguments.objections (a : Arguments) (s : Settings) (registry : Registry σ) : List Failure :=
  a.excesses s ++ interfaceObjections registry a.interface

/-- The session over an interface before its options are set. -/
def fresh (registry : Registry σ) (b : Backend σ) : Session σ := { registry, backend := b.id }

theorem request_cases (built : registry.Built) {a : Arguments} (plain : a.help = false)
    (settings : Settings) :
    (∃ f rest, a.objections settings registry = f :: rest ∧
      a.request settings registry = .error f) ∨
    ∃ b, a.objections settings registry = [] ∧ registry.Selects a.interface b ∧
      a.request settings registry = do
        if ← asksForOptions a.options then return .help (← optionHelp (fresh registry b))
        return .retrieval (← applyOptions (fresh registry b) a.options) a := by
  unfold Arguments.request Arguments.objections
  rw [plain, checkLimits_eq]
  simp only [Bool.false_eq_true, if_false]
  cases a.excesses settings with
  | cons f rest => exact .inl ⟨f, _, rfl, rfl⟩
  | nil =>
    rcases openSession_cases built a.interface with ⟨f, objections, opened⟩ | ⟨b, none, selects, opened⟩
    · rw [objections, opened]
      exact .inl ⟨f, [], rfl, rfl⟩
    · rw [none, opened]
      exact .inr ⟨b, rfl, selects, rfl⟩

end CommandLine
end RouteFeed
