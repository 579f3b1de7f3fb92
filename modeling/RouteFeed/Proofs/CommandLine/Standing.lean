import RouteFeed.Proofs.CommandLine.Items
import RouteFeed.Proofs.CommandLine.Making
import RouteFeed.Proofs.Interfaces
import RouteFeed.Proofs.Settings

/-! The data interface of a command line that names none. It stands in front of the command line as if
it had been named there, before everything else. Which one it is depends on the settings: the interface
that they name, if it is registered at all, and else the first one. -/
namespace RouteFeed

variable {σ : Type}

namespace CommandLine

def Arguments.over (name : String) (a : Arguments) : Arguments :=
  { a with interface := a.interface.or (some (.value name)) }

variable {name : String}

theorem note_over (a : Arguments) (switch : Switch) (value : Given (List Char)) :
    (a.over name).note switch value = (a.note switch value).map (Arguments.over name) := by
  unfold Arguments.note
  cases switch with
  | interface => cases value <;> rfl
  | option | project | collector | type => cases value <;> rfl
  | window => cases convert (windowOf .window) value <;> rfl
  | period => cases convert (integerOf .period) value <;> rfl
  | blocking | records | bgpdump | elements | help => rfl

theorem set_over (a : Arguments) (switch : Switch) :
    (a.over name).set switch = (a.set switch).over name := by
  cases switch <;> rfl

theorem foldl_set_over (a : Arguments) (flags : List Switch) :
    flags.foldl Arguments.set (a.over name) = (flags.foldl Arguments.set a).over name := by
  induction flags generalizing a with
  | nil => rfl
  | cons flag flags ih => rw [List.foldl_cons, set_over, ih, List.foldl_cons]

theorem apply_over (a : Arguments) (switch : Switch) (attached : Option (List Char))
    (following : Option Piece) :
    (a.over name).apply switch attached following =
      (a.apply switch attached following).map (Prod.map (Arguments.over name) id) := by
  unfold Arguments.apply
  cases Bundle.of switch attached with
  | error f => rfl
  | ok bundle =>
    dsimp only [bind, Except.bind]
    rw [foldl_set_over]
    cases bundle.last with
    | none => rfl
    | some last =>
      obtain ⟨last, value⟩ := last
      cases value with
      | some value =>
        dsimp only
        rw [note_over]
        cases Arguments.note _ last (attachedValue value) <;> rfl
      | none =>
        dsimp only
        split
        · rw [note_over]
          cases Arguments.note _ last _ <;> rfl
        · rfl

theorem readPieces_over (a : Arguments) (extras : List (List Char)) (pieces : List Piece) :
    readPieces (a.over name) extras pieces =
      (readPieces a extras pieces).map (Prod.map (Arguments.over name) id) := by
  fun_induction readPieces a extras pieces with
  | case1 a extras => rfl
  | case2 a extras text switch attached rest f failed =>
    rw [readPieces, apply_over, failed]
    rfl
  | case3 a extras text switch attached rest a' applied ih =>
    rw [readPieces, apply_over, applied]
    exact ih
  | case4 a extras text switch attached a' applied =>
    rw [readPieces, apply_over, applied]
    rfl
  | case5 a extras text switch attached a' first rest applied ih =>
    rw [readPieces, apply_over, applied]
    exact ih
  | case6 a extras text token rest other ih =>
    rw [readPieces]
    · exact ih
    · exact other

theorem classifyAll_interface (args : List String) :
    classifyAll (("-d" :: args).map String.toList) =
      (['-', 'd'], .switch .interface none) :: classifyAll (args.map String.toList) := by
  rfl

/-- An interface in front of a command line is the one of its arguments, unless they name one. -/
theorem parse_named (plain : classify name.toList = .plain) (argv : List String) :
    Arguments.parse ("-d" :: name :: argv) = (Arguments.parse argv).map (Arguments.over name) := by
  have mark : (name.toList == ['-', '-']) = false := by
    refine beq_false_of_ne fun same => ?_
    rw [same] at plain
    cases plain
  have pieces : classifyAll (("-d" :: name :: argv).map String.toList) =
      (['-', 'd'], .switch .interface none) :: (name.toList, .plain) ::
        classifyAll (argv.map String.toList) := by
    rw [classifyAll_interface, List.map_cons, classifyAll, mark, plain]
    rfl
  have front (rest : List Piece) :
      readPieces {} [] ((['-', 'd'], .switch .interface none) :: (name.toList, .plain) :: rest) =
        readPieces (({} : Arguments).over name) [] rest := by
    have value : String.ofList name.toList = name := String.ofList_toList
    change readPieces { interface := some (.value (String.ofList name.toList)) } [] rest = _
    rw [value]
    rfl
  unfold Arguments.parse
  rw [pieces, front, readPieces_over]
  cases readPieces {} [] (classifyAll (argv.map String.toList)) with
  | error f => rfl
  | ok read =>
    obtain ⟨a, extras⟩ := read
    cases extras <;> rfl

theorem parse_dashed (dashed : classify name.toList ≠ .plain) (argv : List String) :
    Arguments.parse ("-d" :: name :: argv) =
      .error (switchFault .interface "expected one argument") := by
  -- the end mark is no value either, although behind it everything is plain
  have pieces : ∃ token rest, token ≠ .plain ∧
      classifyAll (("-d" :: name :: argv).map String.toList) =
        (['-', 'd'], .switch .interface none) :: (name.toList, token) :: rest := by
    rw [classifyAll_interface, List.map_cons, classifyAll]
    split
    · exact ⟨.endMark, _, Token.noConfusion, rfl⟩
    · exact ⟨_, _, dashed, rfl⟩
  obtain ⟨token, rest, other, pieces⟩ := pieces
  unfold Arguments.parse
  rw [pieces]
  cases token with
  | plain => exact absurd rfl other
  | endMark | switch | unknown => rfl

variable {registry : Registry σ} {b : Backend σ}

theorem openSession_of_selects (built : registry.Built) {interface : Option (Given String)}
    (selects : registry.Selects interface b) :
    openSession registry interface = .ok { registry, backend := b.id } := by
  rcases openSession_cases built interface with ⟨f, objections, -⟩ | ⟨c, -, selected, opened⟩
  · rw [interfaceObjections_of_selects built selects] at objections
    cases objections
  · rw [opened, selected.unique built selects]

theorem openSession_or (built : registry.Built) (standing : registry.Selects none b)
    (interface : Option (Given String)) :
    openSession registry (interface.or (some (.value b.name))) =
      openSession registry interface := by
  cases interface with
  | some given => rfl
  | none =>
    exact (openSession_of_selects built (.named standing.member)).trans
      (openSession_of_selects built standing).symm

def Request.over (name : String) : Request σ → Request σ
  | .help text => .help text
  | .retrieval session a => .retrieval session (a.over name)

theorem request_over (built : registry.Built) (standing : registry.Selects none b)
    (settings : Settings) (a : Arguments) :
    (a.over b.name).request settings registry =
      (a.request settings registry).map (Request.over b.name) := by
  have limits : (a.over b.name).checkLimits settings = a.checkLimits settings := rfl
  unfold Arguments.request
  cases help : a.help with
  | true =>
    simp only [Arguments.over, help, if_true]
    rfl
  | false =>
    have opened : openSession registry (a.over b.name).interface = openSession registry a.interface :=
      openSession_or built standing a.interface
    have none : (a.over b.name).help = false := help
    have options : (a.over b.name).options = a.options := rfl
    simp only [none, limits, opened, options, Bool.false_eq_true, if_false]
    cases a.checkLimits settings with
    | error f => rfl
    | ok u =>
      cases openSession registry a.interface with
      | error f => rfl
      | ok session =>
        cases asksForOptions a.options with
        | error f => rfl
        | ok asked =>
          cases asked with
          | true =>
            simp only [bind, Except.bind, if_true]
            cases optionHelp session <;> rfl
          | false =>
            simp only [bind, Except.bind, Bool.false_eq_true, if_false]
            cases applyOptions session a.options <;> rfl

/-- Wherever the factories are called, to name the default interface first is to name none. -/
theorem runVia_named {m : Type → Type} [Monad m] [Source σ]
    (call : Backend σ → m (Except Failure σ)) (settings : Settings) (built : registry.Built)
    (standing : registry.Selects none b) (plain : classify b.name.toList = .plain)
    (argv : List String) :
    runVia call settings registry ("-d" :: b.name :: argv) = runVia call settings registry argv := by
  have asked : request settings registry ("-d" :: b.name :: argv) =
      (request settings registry argv).map (Request.over b.name) := by
    unfold request
    rw [parse_named plain]
    cases Arguments.parse argv with
    | error f => rfl
    | ok a => exact request_over built standing settings a
  unfold runVia
  rw [asked]
  cases request settings registry argv with
  | error f => rfl
  | ok asked => cases asked <;> rfl

/-- A command line without a data interface. -/
def NamesNone (argv : List String) : Prop :=
  ∀ a, Arguments.parse argv = .ok a → a.interface = none

variable {s : Settings}

def asking (interface : Option (Given String)) : Arguments where
  interface
  options := [.value "?"]

theorem asking_objections {o : Settings.Origins} (accepted : Settings.load o = .ok s)
    (registry : Registry σ) (interface : Option (Given String)) :
    (asking interface).objections s registry = interfaceObjections registry interface := by
  have limits := Settings.load_limits accepted
  simp only [List.forall_mem_cons] at limits
  obtain ⟨projects, collectors, types, windows, options, -⟩ := limits
  have none (number : Nat) (small : number ≤ 1) {limit : Int} (enough : 1 ≤ limit) (what : String) :
      excess number limit what = [] := if_neg (by omega)
  have nothing : (asking interface).excesses s = [] := by
    unfold Arguments.excesses asking
    simp only [List.length_nil, List.length_singleton]
    rw [none 0 (by decide) projects, none 0 (by decide) collectors, none 0 (by decide) types,
      none 0 (by decide) windows, none 1 (by decide) options]
    rfl
  unfold Arguments.objections
  rw [nothing]
  rfl

theorem request_of_parse {argv : List String} {a : Arguments}
    (parsed : Arguments.parse argv = .ok a) (s : Settings) (registry : Registry σ) :
    request s registry argv = a.request s registry := by
  unfold request
  rw [parsed]
  rfl

theorem parse_asking : Arguments.parse ["-o", "?"] = .ok (asking none) := by
  rfl

theorem run_asking [Source σ] {o : Settings.Origins} (accepted : Settings.load o = .ok s)
    (built : registry.Built) (standing : registry.Selects none b) :
    (recordedRun s registry ["-o", "?"]).1.exit = .success := by
  have asked := request_of_parse parse_asking s registry
  have clear := asking_objections accepted registry none
  rw [interfaceObjections_of_selects built standing] at clear
  rcases request_cases built (a := asking none) rfl s with
    ⟨f, rest, objections, -⟩ | ⟨c, -, selects, request⟩
  · cases objections.symm.trans clear
  · have info := built.info selects.member
    obtain ⟨text, -, informs, -⟩ :=
      (settles_of_question (a := asking none) info rfl (asked.trans request)).informs rfl
    exact informs.exit

theorem run_asking_unknown [Source σ] {o : Settings.Origins} (accepted : Settings.load o = .ok s)
    (built : registry.Built) (standing : registry.Selects none b) {name : String}
    (unknown : registry.isTaken name = false) :
    (recordedRun s registry ("-d" :: name :: ["-o", "?"])).1.exit = .failure := by
  by_cases plain : classify name.toList = .plain
  · have parsed := parse_named plain ["-o", "?"]
    rw [parse_asking] at parsed
    have asked := request_of_parse parsed s registry
    have against : interfaceObjections registry (some (.value name)) = [.backendNotFound name] := by
      obtain ⟨id, preferred⟩ := built.default (List.ne_nil_of_mem standing.member)
      simp [interfaceObjections, preferred, unknown]
    have objections := asking_objections accepted registry (some (.value name))
    rw [against] at objections
    rcases request_cases built (a := asking (some (.value name))) rfl s with
      ⟨f, rest, first, refused⟩ | ⟨c, clear, -, -⟩
    · cases objections.symm.trans first
      have refuses : Refuses (.backendNotFound name) := rfl
      exact (recordedRun_of_refused refuses (asked.trans refused)).1.exit
    · cases objections.symm.trans clear
  · have refused : request s registry ("-d" :: name :: ["-o", "?"]) =
        .error (switchFault .interface "expected one argument") := by
      unfold request
      rw [parse_dashed plain]
      rfl
    exact (recordedRun_of_refused (switchFault_refuses _ _) refused).1.exit

/-- To name the interface that stands in, in front of a command line, changes nothing. To name the one of
the settings changes nothing exactly if it is registered. -/
theorem settings_interface_stands_in_iff {o : Settings.Origins} (accepted : Settings.load o = .ok s)
    (around : Surroundings) :
    let registry := s.registry around
    (∀ argv, recordedRun s registry ("-d" :: s.standing :: argv) = recordedRun s registry argv) ∧
    ((∀ argv, NamesNone argv →
        recordedRun s registry ("-d" :: s.defaultBackend :: argv) = recordedRun s registry argv) ↔
      s.defaultBackend ∈ Settings.interfaceNames) := by
  intro registry
  obtain ⟨built, -⟩ := s.registry_honours around
  obtain ⟨b, standing, named⟩ := s.selects_standing around
  have stands (argv : List String) :
      recordedRun s registry ("-d" :: s.standing :: argv) = recordedRun s registry argv := by
    have plain : classify b.name.toList = .plain := classify_plain (named ▸ s.standing_plain)
    have same := runVia_named Backend.recordedCall s built standing plain argv
    rw [named] at same
    exact congrArg (fun run => run.run []) same
  refine ⟨stands, fun same => ?_, fun registered argv _ => ?_⟩
  · by_contra unregistered
    have unknown : registry.isTaken s.defaultBackend = false :=
      Bool.eq_false_iff.mpr fun taken => unregistered ((s.isTaken_registry around _).mp taken)
    -- a question for the options tells the names apart
    have none : NamesNone ["-o", "?"] := by
      intro a parsed
      cases parse_asking.symm.trans parsed
      rfl
    have refused := run_asking_unknown accepted built standing unknown
    rw [same _ none, run_asking accepted built standing] at refused
    cases refused
  · have stood : s.standing = s.defaultBackend := if_pos registered
    rw [← stood]
    exact stands argv

def preferring (name : String) : Settings.Origins where
  given := [("DEFAULT_BACKEND", .text name)]

/-- Nothing is at hand, and the feed replies with nothing. -/
def bareSurroundings : Surroundings where
  library := {}
  server := .replies {}
  clock := fun _ => 0

theorem settings_interface_stands_in_live :
    ∃ s, Settings.load (preferring "ris-live") = .ok s ∧ s.standing = "ris-live" ∧
      (∀ argv, recordedRun s (s.registry bareSurroundings) ("-d" :: s.standing :: argv) =
        recordedRun s (s.registry bareSurroundings) argv) ∧
      ((∀ argv, NamesNone argv →
          recordedRun s (s.registry bareSurroundings) ("-d" :: s.defaultBackend :: argv) =
            recordedRun s (s.registry bareSurroundings) argv) ↔
        s.defaultBackend ∈ Settings.interfaceNames) :=
  ⟨_, rfl, rfl, settings_interface_stands_in_iff (o := preferring "ris-live") rfl bareSurroundings⟩

/-- Settings with a name that is not registered are accepted, and the name is passed over. -/
theorem unknown_default_passed_over :
    ∃ s, Settings.load (preferring "nosuch") = .ok s ∧ s.defaultBackend = "nosuch" ∧
      NamesNone ["-o", "?"] ∧
      (recordedRun s (s.registry bareSurroundings) ["-o", "?"]).1.exit.code? = some 0 ∧
      (recordedRun s (s.registry bareSurroundings)
        ("-d" :: s.defaultBackend :: ["-o", "?"])).1.exit.code? = some (-1) :=
  ⟨_, rfl, rfl, fun a parsed => by cases parse_asking.symm.trans parsed; rfl, rfl, rfl⟩

end CommandLine
end RouteFeed
