import RouteFeed.CommandLine.Run
import RouteFeed.Proofs.CommandLine.Asking

/-! What keeps a command line from a retrieval. Over a registry that has been built by registering
interfaces, everything that fails before a session is started is a refusal, unless the value of an
option is erased. -/
namespace RouteFeed

variable {σ : Type}

/-- Registries that are made by registering interfaces one after another. -/
inductive Registry.Built : Registry σ → Prop
  | empty : Built {}
  | add {r} (before : Built r) (name description : String) (factory : Except Failure σ)
    (options : List OptionInfo) (asDefault : Bool) :
    Built (r.add name description factory options asDefault)

namespace Registry

def Knows (r : Registry σ) (id : BackendId) : Prop := ∃ b ∈ r.backends, b.id = id

theorem Knows.info {r : Registry σ} {id : BackendId} (h : r.Knows id) :
    ∃ b, r.info id = .ok b := by
  obtain ⟨b, member, same⟩ := h
  unfold Registry.info find?
  cases found : r.backends.find? fun b => b.id == id with
  | some b => exact ⟨b, rfl⟩
  | none =>
    have other := List.find?_eq_none.mp found b member
    simp [same] at other

theorem knows_of_info {r : Registry σ} {id : BackendId} {b : Backend σ} (h : r.info id = .ok b) :
    r.Knows id := by
  unfold Registry.info find? at h
  split at h
  · rename_i found
    exact ⟨_, List.mem_of_find?_eq_some found, by simpa using List.find?_some found⟩
  · cases h

theorem knows_of_resolveBackend {r : Registry σ} {name : String} {id : BackendId}
    (h : r.resolveBackend name = .ok id) : r.Knows id := by
  unfold resolveBackend at h
  split at h
  · rename_i found
    cases h
    exact ⟨_, List.mem_of_find?_eq_some found, rfl⟩
  · cases h

theorem eq_of_resolveOption {r : Registry σ} {id : BackendId} {name : String}
    {handle : OptionHandle} (h : r.resolveOption id name = .ok handle) : handle = ⟨id, name⟩ := by
  obtain ⟨b, _, h⟩ := bind_ok h
  split at h
  · cases h
    rfl
  · cases h

theorem Built.preferred {r : Registry σ} (built : r.Built) {id : BackendId}
    (h : r.preferred = some id) : r.Knows id := by
  induction built with
  | empty => cases h
  | @add r before name description factory options asDefault ih =>
    unfold Registry.add Registry.register at h ⊢
    by_cases taken : r.isTaken name
    · simp only [taken, if_true] at h ⊢
      exact ih h
    · simp only [taken, Bool.false_eq_true, if_false] at h ⊢
      split at h
      · cases h
        exact ⟨_, List.mem_append_right _ (List.mem_singleton_self _), rfl⟩
      · obtain ⟨b, member, same⟩ := ih h
        exact ⟨b, List.mem_append_left _ member, same⟩

end Registry

namespace CommandLine

def Refuses (f : Failure) : Prop := isRefusal f = true

variable {registry : Registry σ} {s : Session σ}

theorem switchFault_refuses (switch : Switch) (message : String) :
    Refuses (switchFault switch message) := rfl

theorem unbundle_failsOnly (switch : Switch) (cs : List Char) :
    FailsOnly Refuses (unbundle switch cs) := by
  induction cs generalizing switch with
  | nil =>
    unfold unbundle
    split
    · exact .ok _
    · exact .error (switchFault_refuses _ _)
  | cons c cs ih =>
    unfold unbundle
    split
    · exact .ok _
    · split
      · exact .error (switchFault_refuses _ _)
      · split
        · split
          · exact .ok _
          · exact .ok _
        · exact (ih _).map _

theorem convert_failsOnly {α : Type} {f : String → Except Failure α}
    (h : ∀ text, FailsOnly Refuses (f text)) (value : Given (List Char)) :
    FailsOnly Refuses (convert f value) := by
  cases value with
  | erased => exact .ok _
  | value cs => exact (h _).map _

theorem note_failsOnly (a : Arguments) (switch : Switch) (value : Given (List Char)) :
    FailsOnly Refuses (a.note switch value) := by
  have plain : ∀ text : String, FailsOnly Refuses (.ok text) := fun text => .ok text
  have window (text : String) : FailsOnly Refuses (windowOf .window text) := by
    unfold windowOf
    cases TimeWindow.parse text with
    | ok w => exact .ok w
    | error f => exact .error (switchFault_refuses _ _)
  have period (text : String) : FailsOnly Refuses (integerOf .period text) := by
    unfold integerOf
    split
    · exact .ok _
    · exact .error (switchFault_refuses _ _)
  cases switch with
  | window => exact (convert_failsOnly window value).bind fun _ _ => .ok _
  | period => exact (convert_failsOnly period value).bind fun _ _ => .ok _
  | interface | option | project | collector | type =>
    exact (convert_failsOnly plain value).bind fun _ _ => .ok _
  | blocking | records | bgpdump | elements | help => exact .ok _

theorem apply_failsOnly (a : Arguments) (switch : Switch) (attached : Option (List Char))
    (following : Option Piece) : FailsOnly Refuses (a.apply switch attached following) := by
  have bundle : FailsOnly Refuses (Bundle.of switch attached) := by
    cases attached with
    | some attached => exact unbundle_failsOnly switch attached
    | none => exact .ok _
  refine bundle.bind fun bundle _ => ?_
  dsimp only
  split
  · exact .ok _
  · exact (note_failsOnly _ _ _).bind fun _ _ => .ok _
  · split
    · exact (note_failsOnly _ _ _).bind fun _ _ => .ok _
    · exact .error (switchFault_refuses _ _)

theorem readPieces_failsOnly (a : Arguments) (extras : List (List Char)) (pieces : List Piece) :
    FailsOnly Refuses (readPieces a extras pieces) := by
  fun_induction readPieces a extras pieces with
  | case1 => exact .ok _
  | case2 a extras text switch attached rest f applied =>
    exact .error (apply_failsOnly _ _ _ _ f applied)
  | case3 => assumption
  | case4 => exact .ok _
  | case5 => assumption
  | case6 => assumption

theorem parse_failsOnly (argv : List String) : FailsOnly Refuses (Arguments.parse argv) := by
  refine (readPieces_failsOnly _ _ _).bind fun parsed _ => ?_
  dsimp only
  split
  · exact .ok _
  · exact .error rfl

theorem checkLimit_failsOnly {α : Type} (values : List α) (limit : Int) (what : String) :
    FailsOnly Refuses (checkLimit values limit what) := by
  unfold checkLimit
  split
  · exact .error rfl
  · exact .ok _

theorem checkLimits_failsOnly (a : Arguments) (settings : Settings) :
    FailsOnly Refuses (a.checkLimits settings) :=
  (checkLimit_failsOnly _ _ _).bind fun _ _ => (checkLimit_failsOnly _ _ _).bind fun _ _ =>
    (checkLimit_failsOnly _ _ _).bind fun _ _ => (checkLimit_failsOnly _ _ _).bind fun _ _ =>
      checkLimit_failsOnly _ _ _

theorem info_failsOnly {r : Registry σ} {id : BackendId} (known : r.Knows id) :
    FailsOnly Refuses (r.info id) := by
  obtain ⟨b, info⟩ := known.info
  rw [info]
  exact .ok _

theorem selectBackend_failsOnly (configuring : s.phase = .configuring) {id : BackendId}
    (known : s.registry.Knows id) : FailsOnly Refuses (s.selectBackend id) := by
  unfold Session.selectBackend
  rw [Session.configuring_allows (congrArg Phase.state configuring)]
  exact (info_failsOnly known).bind fun _ _ => .ok _

theorem openSession_failsOnly (registry : Registry σ) (interface : Option (Given String)) :
    FailsOnly Refuses (openSession registry interface) := by
  have fresh : FailsOnly Refuses (Session.new registry) := by
    unfold Session.new Registry.defaultBackend
    cases registry.preferred with
    | some id => exact .ok _
    | none => exact .error rfl
  refine fresh.bind fun session made => ?_
  obtain ⟨id, _, rfl⟩ := map_ok made
  cases interface with
  | none => exact .ok _
  | some name =>
    cases name with
    | erased => exact .error rfl
    | value name =>
      have resolved : FailsOnly Refuses (registry.resolveBackend name) := by
        unfold Registry.resolveBackend
        split
        · exact .ok _
        · exact .error rfl
      exact resolved.bind fun _ found =>
        selectBackend_failsOnly rfl (Registry.knows_of_resolveBackend found)

theorem resolveOption_failsOnly {r : Registry σ} {id : BackendId} (known : r.Knows id)
    (name : String) : FailsOnly Refuses (r.resolveOption id name) := by
  refine (info_failsOnly known).bind fun b _ => ?_
  split
  · exact .ok _
  · exact .error rfl

theorem setBackendOption_own (configuring : s.phase = .configuring) (name value : String) :
    s.setBackendOption ⟨s.backend, name⟩ value =
      .ok { s with options := Named.put s.options name value } := by
  unfold Session.setBackendOption
  rw [Session.configuring_allows (congrArg Phase.state configuring)]
  dsimp only [bind, Except.bind]
  rw [if_pos rfl]
  rfl

theorem applyOption_failsOnly (configuring : s.phase = .configuring)
    (known : s.registry.Knows s.backend) (raw : String) :
    FailsOnly Refuses (applyOption s (.value raw)) := by
  unfold applyOption
  dsimp only
  split
  · exact .error rfl
  · refine (resolveOption_failsOnly known _).bind fun handle resolved => ?_
    obtain rfl := Registry.eq_of_resolveOption resolved
    rw [setBackendOption_own configuring]
    exact .ok _

theorem applyOptions_failsOnly (configuring : s.phase = .configuring)
    (known : s.registry.Knows s.backend) (options : List (Given String)) :
    FailsOnly (fun f => Refuses f ∨ .erased ∈ options) (applyOptions s options) := by
  induction options generalizing s with
  | nil => exact .ok _
  | cons option options ih =>
    cases option with
    | erased => exact fun _ _ => .inr List.mem_cons_self
    | value raw =>
      unfold applyOptions
      intro f h
      cases applied : applyOption s (.value raw) with
      | error g =>
        rw [applied] at h
        cases h
        exact .inl (applyOption_failsOnly configuring known raw f applied)
      | ok next =>
        rw [applied] at h
        dsimp only at h
        obtain ⟨set, rfl⟩ := applyOption_ok applied
        rcases ih (s := { s with options := set }) configuring known f h with refused | erased
        · exact .inl refused
        · exact .inr (List.mem_cons_of_mem _ erased)

theorem asksForOptions_failsOnly (options : List (Given String)) :
    FailsOnly (fun _ => .erased ∈ options) (asksForOptions options) := by
  induction options with
  | nil => exact .ok _
  | cons option options ih =>
    cases option with
    | erased => exact fun _ _ => List.mem_cons_self
    | value raw =>
      unfold asksForOptions
      split
      · exact .ok _
      · exact fun f h => List.mem_cons_of_mem _ (ih f h)

theorem openSession_knows {registry : Registry σ} (built : registry.Built)
    {interface : Option (Given String)} (h : openSession registry interface = .ok s) :
    s.registry.Knows s.backend := by
  obtain ⟨fresh, made, h⟩ := bind_ok h
  obtain ⟨id, chosen, rfl⟩ := map_ok made
  cases interface with
  | none =>
    cases h
    unfold Registry.defaultBackend at chosen
    split at chosen
    · rename_i id preferred
      cases chosen
      exact built.preferred preferred
    · cases chosen
  | some name =>
    cases name with
    | erased => cases h
    | value name =>
      obtain ⟨id, _, h⟩ := bind_ok h
      obtain ⟨⟨b, info⟩, rfl⟩ := Session.selectBackend_ok h
      exact Registry.knows_of_info info

/-- A command line without an erased option is refused, or asks for help or for a retrieval. -/
theorem request_failsOnly (settings : Settings) {registry : Registry σ} (built : registry.Built)
    (argv : List String) :
    FailsOnly (fun f => Refuses f ∨ ∃ a, Arguments.parse argv = .ok a ∧ .erased ∈ a.options)
      (request settings registry argv) := by
  intro f failed
  rcases bind_error failed with unparsed | ⟨a, parsed, failed⟩
  · exact .inl (parse_failsOnly argv f unparsed)
  have asked : FailsOnly (fun f => Refuses f ∨ .erased ∈ a.options)
      (a.request settings registry) := by
    unfold Arguments.request
    split
    · exact .ok _
    · refine ((checkLimits_failsOnly a settings).imp fun _ => .inl).bind fun _ _ => ?_
      refine ((openSession_failsOnly registry a.interface).imp fun _ => .inl).bind
        fun session opened => ?_
      refine ((asksForOptions_failsOnly a.options).imp fun _ => .inr).bind fun asks _ => ?_
      have help : FailsOnly Refuses (optionHelp session) :=
        ((info_failsOnly (openSession_knows built opened)).map _).bind fun _ _ => .ok _
      split
      · exact (help.imp fun _ => .inl).bind fun _ _ => .ok _
      · exact (applyOptions_failsOnly (openSession_ok opened).1 (openSession_knows built opened)
          a.options).bind fun _ _ => .ok _
  rcases asked f failed with refused | erased
  · exact .inl refused
  · exact .inr ⟨a, parsed, erased⟩

theorem request_info {settings : Settings} {registry : Registry σ} (built : registry.Built)
    {argv : List String} {a : Arguments}
    (h : request settings registry argv = .ok (.retrieval s a)) :
    ∃ b, s.registry.info s.backend = .ok b := by
  obtain ⟨fresh, opened, applied⟩ := opened_of_request h
  have known := openSession_knows built opened
  obtain ⟨_, rfl⟩ := applyOptions_ok applied
  exact known.info

end CommandLine
end RouteFeed
