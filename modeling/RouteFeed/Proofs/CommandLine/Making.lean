import RouteFeed.Proofs.CommandLine.Faults
import RouteFeed.Proofs.CommandLine.Orders
import RouteFeed.Proofs.Session.Creating
import Mathlib.Data.List.TakeWhile

/-! When a run makes a source. A factory may do more than to give a source, so the run is also carried
out in a monad, in which the factories are called. With a record of the calls it is seen that whatever
refuses a command line, and whatever informs about it, comes before the call of any factory, and that
everything else leads to one call of the factory of the interface that is selected. -/
namespace RouteFeed

variable {σ : Type}

section Via

variable {m : Type → Type} [Monad m] (call : Backend σ → m (Except Failure σ)) [Source σ]

namespace CommandLine

def readStarted (started : Session.Step σ Unit) (modes : OutputModes) (elementBuffer : Int) :
    Reading σ :=
  match started.outcome with
  | .raised f =>
    Reading.stop { outcome := .raised f, session := started.session, log := started.log }
  | .blocked => { outcome := .blocked, session := started.session, log := started.log }
  | .returned () =>
    let r := retrieve started.session modes elementBuffer
    Reading.stop { r with log := started.log ++ r.log }

def finished (r : Reading σ) : Run σ :=
  let run := ended r
  { run with
    output := r.lines
    log := r.log ++ run.log ++ leftover r.session
    session := some r.session }

/-- A retrieval whose factory is called in a monad. -/
def retrievalVia (s : Settings) (session : Session σ) (a : Arguments) : m (Run σ) :=
  match a.filters with
  | .error f => return failed session f
  | .ok filters => do
    let started ← session.startVia call filters a.blocking
    return finished
      (readStarted started (.resolve a.records a.bgpdump a.elements) s.elementBuffer)

/-- A run whose factories are called in a monad. -/
def runVia (s : Settings) (registry : Registry σ) (argv : List String) : m (Run σ) :=
  match request s registry argv with
  | .error f => return if isRefusal f then refused registry f else { exit := .escaped f }
  | .ok (.help text) => return { exit := .success, errors := text }
  | .ok (.retrieval session a) => retrievalVia call s session a

end CommandLine
end Via

namespace CommandLine

variable [Source σ]

/-- A run with a record of the interfaces whose factories it has called. -/
def recordedRun (s : Settings) (registry : Registry σ) (argv : List String) : Run σ × List BackendId :=
  (runVia Backend.recordedCall s registry argv).run []

theorem runVia_id (s : Settings) (registry : Registry σ) (argv : List String) :
    runVia (m := Id) Backend.factory s registry argv = run s registry argv := rfl

variable {settings : Settings} {registry : Registry σ} {session : Session σ} {b : Backend σ}

theorem retrievalVia_recorded (configuring : session.phase = .configuring)
    (info : session.registry.info session.backend = .ok b) {a : Arguments} {filters : FilterSet}
    (filtered : a.filters = .ok filters) (calls : List BackendId) :
    (retrievalVia Backend.recordedCall settings session a).run calls =
      (retrieval settings session a, calls ++ if filters.windows.isEmpty then [] else [b.id]) := by
  unfold retrievalVia retrieval
  rw [filtered]
  have started := Session.startVia_recorded (congrArg Phase.state configuring) info filters
    a.blocking calls
  dsimp only [bind, StateT.bind, StateT.run] at started ⊢
  rw [started]
  rfl

/-- The run refuses its command line for a reason, and tells how the program is called. -/
structure Run.Refuses (run : Run σ) (registry : Registry σ) (reason : Failure) : Prop where
  exit : run.exit = .failure
  output : run.output = []
  errors : run.errors = errorLine reason.message ++ usage registry

structure Run.Informs (run : Run σ) (text : String) : Prop where
  exit : run.exit = .success
  output : run.output = []
  errors : run.errors = text

/-- The run is ended by a failure that no one handles, before it has written anything. -/
structure Run.Stumbles (run : Run σ) : Prop where
  exit : ∃ f, run.exit = .escaped f
  output : run.output = []
  errors : run.errors = ""

/-- What speaks against arguments once their interface is known. -/
def Arguments.reservations (a : Arguments) (b : Backend σ) : List Failure :=
  a.options.flatMap (optionObjections b) ++ if a.windows = [] then [.noWindow] else []

/-- A value that has been erased is in the way: that of an option, or, if nothing is said against the
options, that of a window or of the period. -/
def Arguments.Trips (a : Arguments) (b : Backend σ) : Prop :=
  CommandLine.Stumbles a.options ∨
    a.options.any asks = false ∧ a.options.flatMap (optionObjections b) = [] ∧ ¬ a.Intact

theorem values_of_not_erased {α : Type} {given : List (Given α)} (h : .erased ∉ given) :
    ∃ values : List α, given = values.map .value := by
  induction given with
  | nil => exact ⟨[], rfl⟩
  | cons first rest ih =>
    obtain ⟨values, same⟩ := ih fun erased => h (List.mem_cons_of_mem _ erased)
    cases first with
    | erased => exact absurd List.mem_cons_self h
    | value v => exact ⟨v :: values, congrArg _ same⟩

theorem Arguments.Intact.split {a : Arguments} (h : a.Intact) :
    ∃ filters, a.filters = .ok filters ∧ filters.windows.isEmpty = a.windows.isEmpty := by
  obtain ⟨windows, period⟩ := h
  obtain ⟨ws, given⟩ := values_of_not_erased windows
  cases last : a.period with
  | erased => exact absurd last period
  | value n =>
    obtain ⟨filters, made, same, -⟩ := Arguments.filters_of_values given last
    refine ⟨filters, made, ?_⟩
    rw [same, given]
    cases ws <;> rfl

variable {argv : List String}

theorem recordedRun_of_refused {f : Failure} (refuses : Refuses f)
    (refused : request settings registry argv = .error f) :
    (recordedRun settings registry argv).1.Refuses registry f ∧
      (recordedRun settings registry argv).2 = [] := by
  have same : recordedRun settings registry argv = (CommandLine.refused registry f, []) := by
    unfold recordedRun runVia
    have refuses : isRefusal f = true := refuses
    simp only [refused, refuses, if_true]
    rfl
  rw [same]
  exact ⟨⟨rfl, rfl, rfl⟩, rfl⟩

theorem recordedRun_of_help {text : String}
    (asked : request settings registry argv = .ok (.help text)) :
    (recordedRun settings registry argv).1.Informs text ∧
      (recordedRun settings registry argv).2 = [] := by
  have same : recordedRun settings registry argv = ({ exit := .success, errors := text }, []) := by
    unfold recordedRun runVia
    simp only [asked]
    rfl
  rw [same]
  exact ⟨⟨rfl, rfl, rfl⟩, rfl⟩

theorem recordedRun_of_escaped {f : Failure} (handled : isRefusal f = false)
    (raised : request settings registry argv = .error f) :
    (recordedRun settings registry argv).1.Stumbles ∧
      (recordedRun settings registry argv).2 = [] := by
  have same : recordedRun settings registry argv = ({ exit := .escaped f }, []) := by
    unfold recordedRun runVia
    simp only [raised, handled, Bool.false_eq_true, if_false]
    rfl
  rw [same]
  exact ⟨⟨⟨f, rfl⟩, rfl, rfl⟩, rfl⟩

/-- A retrieval whose filters can be made is refused for want of a window, or calls the factory. -/
theorem recordedRun_of_retrieval {a : Arguments} {filters : FilterSet}
    (asked : request settings registry argv = .ok (.retrieval session a))
    (configuring : session.phase = .configuring) (registered : session.registry = registry)
    (info : session.registry.info session.backend = .ok b) (filtered : a.filters = .ok filters) :
    (filters.windows.isEmpty = true →
      (recordedRun settings registry argv).1.Refuses registry .noWindow ∧
        (recordedRun settings registry argv).2 = []) ∧
    (filters.windows.isEmpty = false → (recordedRun settings registry argv).2 = [b.id]) := by
  have same : recordedRun settings registry argv =
      (retrieval settings session a, if filters.windows.isEmpty then [] else [b.id]) := by
    unfold recordedRun runVia
    simp only [asked]
    exact retrievalVia_recorded configuring info filtered []
  rw [same]
  refine ⟨fun empty => ?_, fun some => if_neg (by simp [some])⟩
  have none : filters.windows = [] := List.isEmpty_iff.mp empty
  have ended : retrieval settings session a =
      finished
        { outcome := .raised .noWindow, session := { session with phase := .stopped .none } } := by
    unfold retrieval
    simp only [filtered, readStream_of_no_windows configuring none]
    rfl
  rw [ended]
  exact ⟨⟨rfl, rfl, by rw [← registered]; rfl⟩, if_pos empty⟩

theorem recordedRun_of_no_filters {a : Arguments}
    (asked : request settings registry argv = .ok (.retrieval session a)) (erased : ¬ a.Intact) :
    (recordedRun settings registry argv).1.Stumbles ∧
      (recordedRun settings registry argv).2 = [] := by
  obtain ⟨f, unfiltered, kind⟩ := Arguments.filters_error erased
  have same : recordedRun settings registry argv = ({ exit := .escaped f }, []) := by
    unfold recordedRun runVia
    simp only [asked, retrievalVia, unfiltered]
    unfold failed
    rcases kind with kind | kind
    · simp only [kind]
      rfl
    · simp only [kind]
      rfl
  rw [same]
  exact ⟨⟨⟨f, rfl⟩, rfl, rfl⟩, rfl⟩

theorem recordedRun_run (built : registry.Built) :
    (recordedRun settings registry argv).1 = run settings registry argv := by
  unfold recordedRun runVia run
  cases asked : request settings registry argv with
  | error f => rfl
  | ok request =>
    cases request with
    | help text => rfl
    | retrieval session a =>
      obtain ⟨configuring, registered⟩ := request_retrieval asked
      obtain ⟨b, info⟩ := request_info built asked
      cases filtered : a.filters with
      | error f =>
        simp only [retrievalVia, retrieval, filtered]
        rfl
      | ok filters =>
        exact congrArg Prod.fst (retrievalVia_recorded configuring info filtered [])

/-- What becomes of arguments over an interface that nothing speaks against. -/
structure Settles (r : Run σ × List BackendId) (registry : Registry σ) (a : Arguments)
    (b : Backend σ) : Prop where
  informs : a.options.any asks = true →
    ∃ text, optionHelp (fresh registry b) = .ok text ∧ r.1.Informs text ∧ r.2 = []
  refuses : a.options.any asks = false → ∀ f rest, a.reservations b = f :: rest →
    r.1.Refuses registry f ∧ r.2 = []
  makes : a.options.any asks = false → a.reservations b = [] → r.2 = [b.id]

namespace Settles

variable {r : Run σ × List BackendId} {a : Arguments}

omit [Source σ]

theorem of_asked (question : a.options.any asks = true)
    (informs : ∃ text, optionHelp (fresh registry b) = .ok text ∧ r.1.Informs text ∧ r.2 = []) :
    Settles r registry a b where
  informs _ := informs
  refuses unasked := by cases question.symm.trans unasked
  makes unasked := by cases question.symm.trans unasked

theorem of_reserved (unasked : a.options.any asks = false) {f : Failure} {rest : List Failure}
    (reserved : a.reservations b = f :: rest) (refuses : r.1.Refuses registry f ∧ r.2 = []) :
    Settles r registry a b where
  informs asked := by cases unasked.symm.trans asked
  refuses _ g more first := by
    cases reserved.symm.trans first
    exact refuses
  makes _ none := by cases reserved.symm.trans none

theorem of_unreserved (unasked : a.options.any asks = false) (unreserved : a.reservations b = [])
    (makes : r.2 = [b.id]) : Settles r registry a b where
  informs asked := by cases unasked.symm.trans asked
  refuses _ f rest first := by cases unreserved.symm.trans first
  makes _ _ := makes

end Settles

omit [Source σ] in
theorem stumbles_of_unasked {options : List (Given String)} (unasked : options.any asks = false) :
    CommandLine.Stumbles options ↔ .erased ∈ options := by
  have all : options.takeWhile (fun option => !asks option) = options := by
    refine List.takeWhile_eq_self_iff.mpr fun option member => ?_
    simpa using List.any_eq_false.mp unasked option member
  unfold CommandLine.Stumbles
  rw [all]

theorem excess_refuses (number : Nat) (limit : Int) (what : String) :
    ∀ f ∈ excess number limit what, Refuses f := by
  intro f member
  unfold excess at member
  split at member
  · obtain rfl := List.mem_singleton.mp member
    rfl
  · cases member

omit [Source σ] in
theorem interfaceObjections_refuse (registry : Registry σ) (interface : Option (Given String)) :
    ∀ f ∈ interfaceObjections registry interface, Refuses f := by
  intro f member
  unfold interfaceObjections at member
  split at member
  · obtain rfl := List.mem_singleton.mp member
    rfl
  · split at member
    · cases member
    · obtain rfl := List.mem_singleton.mp member
      rfl
    · split at member
      · cases member
      · obtain rfl := List.mem_singleton.mp member
        rfl

omit [Source σ] in
theorem Arguments.objections_refuse (a : Arguments) (settings : Settings) (registry : Registry σ) :
    ∀ f ∈ a.objections settings registry, Refuses f := by
  intro f member
  unfold Arguments.objections Arguments.excesses at member
  simp only [List.mem_append, or_assoc] at member
  rcases member with h | h | h | h | h | chosen
  case inr.inr.inr.inr.inr => exact interfaceObjections_refuse registry a.interface f chosen
  all_goals exact excess_refuses _ _ _ f h

omit [Source σ] in
theorem optionObjections_refuse (b : Backend σ) (option : Given String) :
    ∀ f ∈ optionObjections b option, Refuses f := by
  intro f member
  unfold optionObjections at member
  split at member
  · cases member
  · split at member
    · obtain rfl := List.mem_singleton.mp member
      rfl
    · split at member
      · cases member
      · obtain rfl := List.mem_singleton.mp member
        rfl

theorem settles_of_question (info : registry.info b.id = .ok b) {a : Arguments}
    (question : a.options.any asks = true)
    (asked : request settings registry argv = do
      return .help (← optionHelp (fresh registry b))) :
    Settles (recordedRun settings registry argv) registry a b := by
  obtain ⟨text, help⟩ : ∃ text, optionHelp (fresh registry b) = .ok text := by
    unfold optionHelp describeOptions fresh
    rw [info]
    exact ⟨_, rfl⟩
  rw [help] at asked
  exact .of_asked question ⟨text, help, recordedRun_of_help asked⟩

theorem settles_of_objections {a : Arguments} (unasked : a.options.any asks = false) {f : Failure}
    {rest : List Failure} (objections : a.options.flatMap (optionObjections b) = f :: rest)
    (refused : request settings registry argv = .error f) :
    Settles (recordedRun settings registry argv) registry a b := by
  have refuses : Refuses f := by
    obtain ⟨option, _, member⟩ := List.mem_flatMap.mp (objections ▸ List.mem_cons_self)
    exact optionObjections_refuse b option f member
  have reserved : a.reservations b = f :: (rest ++ if a.windows = [] then [.noWindow] else []) := by
    rw [Arguments.reservations, objections, List.cons_append]
  exact .of_reserved unasked reserved (recordedRun_of_refused refuses refused)

/-- Arguments whose options are set want a window, and then nothing more. -/
theorem settles_of_retrieval {a : Arguments} (unasked : a.options.any asks = false)
    (accepted : a.options.flatMap (optionObjections b) = []) (intact : a.Intact)
    (asked : request settings registry argv = .ok (.retrieval session a))
    (configuring : session.phase = .configuring) (registered : session.registry = registry)
    (info : session.registry.info session.backend = .ok b) :
    Settles (recordedRun settings registry argv) registry a b := by
  obtain ⟨filters, filtered, windows⟩ := intact.split
  obtain ⟨refuses, makes⟩ := recordedRun_of_retrieval asked configuring registered info filtered
  cases given : a.windows with
  | nil =>
    have reserved : a.reservations b = [.noWindow] := by
      simp [Arguments.reservations, accepted, given]
    exact .of_reserved unasked reserved (refuses (by rw [windows, given]; rfl))
  | cons w ws =>
    have unreserved : a.reservations b = [] := by
      simp [Arguments.reservations, accepted, given]
    exact .of_unreserved unasked unreserved (makes (by rw [windows, given]; rfl))

/-- Over an interface that nothing speaks against, a value that has been erased ends the run; and
otherwise it informs, refuses, or calls the factory. -/
theorem settles_of_selects (built : registry.Built) {a : Arguments}
    (selects : registry.Selects a.interface b)
    (asked : request settings registry argv = do
      if ← asksForOptions a.options then return .help (← optionHelp (fresh registry b))
      return .retrieval (← applyOptions (fresh registry b) a.options) a) :
    (a.Trips b → (recordedRun settings registry argv).1.Stumbles ∧
      (recordedRun settings registry argv).2 = []) ∧
    (¬ a.Trips b → Settles (recordedRun settings registry argv) registry a b) := by
  have info : registry.info b.id = .ok b := built.info selects.member
  rw [asksForOptions_eq] at asked
  -- in the order of the program: an erased option, a question, an objection, an erased filter
  by_cases stumbles : CommandLine.Stumbles a.options
  · rw [if_pos stumbles] at asked
    exact ⟨fun _ => recordedRun_of_escaped rfl asked, fun steady => absurd (.inl stumbles) steady⟩
  rw [if_neg stumbles] at asked
  have late (trips : a.Trips b) : a.options.any asks = false ∧
      a.options.flatMap (optionObjections b) = [] ∧ ¬ a.Intact := trips.resolve_left stumbles
  cases question : a.options.any asks with
  | true =>
    rw [question] at asked
    refine ⟨fun trips => ?_, fun _ => settles_of_question info question asked⟩
    cases question.symm.trans (late trips).1
  | false =>
    have whole : .erased ∉ a.options := fun erased =>
      stumbles ((stumbles_of_unasked question).mpr erased)
    rw [question, applyOptions_eq rfl info whole] at asked
    cases objections : a.options.flatMap (optionObjections b) with
    | cons f rest =>
      rw [objections] at asked
      refine ⟨fun trips => ?_, fun _ => settles_of_objections question objections asked⟩
      cases objections.symm.trans (late trips).2.1
    | nil =>
      rw [objections] at asked
      by_cases intact : a.Intact
      · exact ⟨fun trips => absurd intact (late trips).2.2,
          fun _ => settles_of_retrieval question objections intact asked rfl rfl info⟩
      · refine ⟨fun _ => recordedRun_of_no_filters asked intact, fun steady => ?_⟩
        exact absurd (.inr ⟨question, objections, intact⟩) steady

/-- What speaks against a command line is found before anything is made: the run then fails with the
first reason and how the program is called, and writes no output. A call for help, and a question for
the options of an interface that nothing speaks against, are answered without an output too. In none
of these cases a factory is called, and in every other case the factory of the selected interface is
called once, unless a value that has been erased is in the way: then the run is ended by a failure
that no one handles. -/
theorem run_settles_before_making (settings : Settings) {registry : Registry σ}
    (built : registry.Built) (argv : List String) :
    let r := recordedRun settings registry argv
    r.1 = run settings registry argv ∧
    (∀ f, Arguments.parse argv = .error f → r.1.Refuses registry f ∧ r.2 = []) ∧
    ∀ a, Arguments.parse argv = .ok a →
      (a.help = true → r.1.Informs (banner ++ usage registry) ∧ r.2 = []) ∧
      (a.help = false →
        (∀ f rest, a.objections settings registry = f :: rest → r.1.Refuses registry f ∧ r.2 = []) ∧
        (a.objections settings registry = [] → ∃ b, registry.Selects a.interface b ∧
          (a.Trips b → r.1.Stumbles ∧ r.2 = []) ∧
          (¬ a.Trips b → Settles r registry a b))) := by
  intro r
  refine ⟨recordedRun_run built, fun f unparsed => ?_,
    fun a parsed => ⟨fun help => ?_, fun plain => ?_⟩⟩
  · have refused : request settings registry argv = .error f := by
      unfold request
      rw [unparsed]
      rfl
    exact recordedRun_of_refused (parse_failsOnly argv f unparsed) refused
  · have asked : request settings registry argv = .ok (.help (banner ++ usage registry)) := by
      unfold request Arguments.request
      rw [parsed]
      exact if_pos help
    exact recordedRun_of_help asked
  · have same : request settings registry argv = a.request settings registry := by
      unfold request
      rw [parsed]
      rfl
    rcases request_cases built plain settings with
      ⟨f, rest, objections, refused⟩ | ⟨b, none, selects, asked⟩
    · refine ⟨fun g more first => ?_, fun none => ?_⟩
      · cases objections.symm.trans first
        have refuses : Refuses f := by
          refine a.objections_refuse settings registry f ?_
          rw [objections]
          exact List.mem_cons_self
        exact recordedRun_of_refused refuses (same.trans refused)
      · cases objections.symm.trans none
    · refine ⟨fun g more first => ?_, fun _ => ⟨b, selects, ?_⟩⟩
      · cases none.symm.trans first
      · exact settles_of_selects built selects (same.trans asked)

def silentRegistry : Registry ScriptedSource := Registry.add {} "silent" "" (.ok {})

theorem silentRegistry_built : silentRegistry.Built := .add .empty _ _ _ _ _

/-- A window is enough to make a source. An option without a comma is in the way of that, and a question
for the options comes before either. -/
theorem run_settles_before_making_silent :
    let run := recordedRun {} silentRegistry
    (run ["-w", "0,9"]).2 = [1] ∧
    (run ["-w", "0,9", "-o", "a"]).1.Refuses silentRegistry (malformedOption "a") ∧
    (run ["-w", "0,9", "-o", "a", "-o", "?"]).1.exit.code? = some 0 := by
  intro run
  let b : Backend ScriptedSource := ⟨1, "silent", "", [], .ok {}⟩
  have settles (argv : List String) {a : Arguments} (parsed : Arguments.parse argv = .ok a)
      (plain : a.help = false) (unselected : a.interface = none)
      (accepted : a.objections {} silentRegistry = []) (steady : ¬ a.Trips b) :
      Settles (run argv) silentRegistry a b := by
    obtain ⟨_, _, asked⟩ := run_settles_before_making {} silentRegistry_built argv
    obtain ⟨c, selects, _, settled⟩ := ((asked a parsed).2 plain).2 accepted
    rw [unselected] at selects
    obtain rfl : c = b := selects.unique silentRegistry_built (.default List.mem_cons_self rfl)
    exact settled steady
  have intact {options : List (Given String)} :
      ({ options, windows := [.value ⟨0, 9⟩] } : Arguments).Intact := ⟨by simp, nofun⟩
  have steady {options : List (Given String)} (whole : ¬ CommandLine.Stumbles options) :
      ¬ ({ options, windows := [.value ⟨0, 9⟩] } : Arguments).Trips b := by
    rintro (stumbles | ⟨_, _, erased⟩)
    · exact whole stumbles
    · exact erased intact
  refine ⟨?_, ?_, ?_⟩
  · have made := settles ["-w", "0,9"] rfl rfl rfl rfl (steady (by decide))
    exact made.makes rfl rfl
  · have refused := settles ["-w", "0,9", "-o", "a"] rfl rfl rfl rfl (steady (by decide))
    exact (refused.refuses rfl _ _ rfl).1
  · have asked := settles ["-w", "0,9", "-o", "a", "-o", "?"] rfl rfl rfl rfl
      (steady (by decide))
    obtain ⟨_, _, informs, _⟩ := asked.informs rfl
    rw [informs.exit]
    rfl

/-- An option that has lost its value hides the question for the options that stands behind it. -/
theorem erased_option_escapes :
    let argv := ["-o--", "-o", "?"]
    ∃ a b, Arguments.parse argv = .ok a ∧ a.help = false ∧ a.objections {} silentRegistry = [] ∧
      silentRegistry.Selects a.interface b ∧ a.options.any asks = true ∧
      (run {} silentRegistry argv).exit.code? = none :=
  ⟨{ options := [.erased, .value "?"] }, ⟨1, "silent", "", [], .ok {}⟩, rfl, rfl, rfl,
    .default List.mem_cons_self rfl, rfl, rfl⟩

end CommandLine
end RouteFeed
