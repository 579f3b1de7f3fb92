import RouteFeed.Proofs.CommandLine.Asking
import RouteFeed.Proofs.CommandLine.Reading
import RouteFeed.Proofs.Session.History
import RouteFeed.Proofs.Session.Morphism

/-! The output, the exit code and the source of a whole run of the program. -/
namespace RouteFeed.CommandLine

variable {σ : Type}

theorem failed_of_reported {session : Session σ} {f : Failure} {name : String}
    (h : f.IsReported) (named : session.backendName = .ok name) :
    (failed session f).exit = .failure := by
  unfold failed
  rcases h with kind | kind | ⟨truncated, kind⟩
  · simp only [kind, sourceFailed, named]
  · simp only [kind, sourceFailed, named]
  · simp only [kind]

variable [Source σ] {supply : Supply}

/-- A run whose output, exit code and source are as they should be. -/
structure Run.Delivers (run : Run (Traced σ)) (made : Bool) (size : Int) (entries : List Entry)
    (supply : Supply) : Prop where
  output : run.output = Entry.written size entries
  code : run.exit.code? = some (if supply.Complete size entries then 0 else -1)
  closed : ∃ s, run.session = some s ∧ s.state = .stopped ∧
    s.calls.count .closed = if made then 1 else 0

theorem retrieval_delivers {settings : Settings} {session : Session (Traced σ)} {a : Arguments}
    {filters : FilterSet} {b : Backend (Traced σ)} {records : List Record} (sound : session.Sound)
    (configuring : session.phase = .configuring) (filtered : a.filters = .ok filters)
    (windows : filters.windows ≠ []) (info : session.registry.info session.backend = .ok b)
    (plays : Source.Plays signalToken (session.config filters a.blocking) b.factory records supply)
    (printable : ∀ record ∈ records, record.Printable)
    (bounded : supply = .goesOn → ¬ ∀ e ∈ records.flatMap
      (Record.entries (.resolve a.records a.bgpdump a.elements)), e.Fits settings.elementBuffer) :
    (retrieval settings session a).Delivers b.factory.isOk settings.elementBuffer
      (records.flatMap (Record.entries (.resolve a.records a.bgpdump a.elements))) supply := by
  obtain ⟨renders, named, source, stopped, made⟩ :=
    readStream_renders configuring windows info plays printable bounded
  have last := readStream_sound sound filters (.resolve a.records a.bgpdump a.elements) a.blocking
    settings.elementBuffer
  unfold retrieval
  simp only [filtered]
  generalize readStream session filters _ a.blocking settings.elementBuffer = r at *
  refine ⟨renders.lines, ?_, r.session, rfl, congrArg Phase.state stopped, ?_⟩
  · change (ended r).exit.code? = _
    unfold ended
    by_cases complete : supply.Complete settings.elementBuffer
        (records.flatMap (Record.entries (.resolve a.records a.bgpdump a.elements)))
    · obtain ⟨stats, outcome⟩ := renders.complete complete
      rw [outcome, if_pos complete]
      rfl
    · obtain ⟨f, outcome, reported⟩ := renders.broken complete
      rw [outcome, if_neg complete]
      exact congrArg Exit.code? (failed_of_reported reported named)
  · rw [last.count_closed stopped, made]

/-- A run whose records do not end does not end either. -/
theorem retrieval_never {settings : Settings} {session : Session σ} {a : Arguments}
    {filters : FilterSet} {b : Backend σ} (configuring : session.phase = .configuring)
    (filtered : a.filters = .ok filters) (windows : filters.windows ≠ [])
    (info : session.registry.info session.backend = .ok b)
    (endless : Record.Endless (.resolve a.records a.bgpdump a.elements) settings.elementBuffer
      fun records =>
        Source.Plays signalToken (session.config filters a.blocking) b.factory records .goesOn) :
    (retrieval settings session a).exit = .never := by
  have blocked := readStream_blocked configuring windows info endless
  unfold retrieval
  simp only [filtered, ended, blocked]

/-- A command line without filters ends in a failure that no one handles, before a source is made. -/
theorem retrieval_escapes {settings : Settings} {session : Session σ} {a : Arguments}
    (h : ¬ a.Intact) : ∃ f, retrieval settings session a = { exit := .escaped f } := by
  obtain ⟨f, filtered, kind⟩ := Arguments.filters_error h
  refine ⟨f, ?_⟩
  unfold retrieval failed
  rw [filtered]
  rcases kind with kind | kind
  · simp only [kind]
  · simp only [kind]

/-- What the interface of a session plays when it is started with the filters of the arguments. -/
def Arguments.Plays (a : Arguments) (session : Session (Traced σ)) (b : Backend σ)
    (records : List Record) (supply : Supply) : Prop :=
  ∀ filters, a.filters = .ok filters →
    Source.Plays signalToken (session.config filters a.blocking) b.factory records supply

/-- A run that is asked for help gives it. A retrieval with a window writes the entries of the records
that its source delivers, up to the first element that does not fit, and ends with success exactly
if the source is exhausted and all of them have been written; its source is closed once. It goes on
forever only while records that fit do not end. An erased window or period alone keeps it from that:
then the run does not end in order, and has made no source. -/
theorem run_delivers_or_escapes (settings : Settings) (registry : Registry σ)
    (argv : List String) :
    let run := run settings registry.traced argv
    (∀ text, request settings registry.traced argv = .ok (.help text) →
      run = { exit := .success, errors := text }) ∧
    ∀ session a b, request settings registry.traced argv = .ok (.retrieval session a) →
      a.windows ≠ [] → registry.info session.backend = .ok b →
      let size := settings.elementBuffer
      let modes := OutputModes.resolve a.records a.bgpdump a.elements
      (a.Intact →
        (∀ records supply, a.Plays session b records supply →
          (∀ record ∈ records, record.Printable) →
          (supply = .goesOn → ¬ ∀ e ∈ records.flatMap (Record.entries modes), e.Fits size) →
          run.Delivers b.factory.isOk size (records.flatMap (Record.entries modes)) supply) ∧
        (Record.Endless modes size (a.Plays session b · .goesOn) → run.exit = .never)) ∧
      (¬ a.Intact → ∃ f, run = { exit := .escaped f }) := by
  intro run
  refine ⟨fun text asked => ?_, ?_⟩
  · simp only [run, CommandLine.run, asked]
  intro session a b asked windows info size modes
  have same : run = retrieval settings session a := by
    simp only [run, CommandLine.run, asked]
  rw [same]
  refine ⟨fun intact => ?_, retrieval_escapes⟩
  obtain ⟨configuring, traced⟩ := request_retrieval asked
  obtain ⟨filters, filtered, many⟩ := intact.filters
  have some : filters.windows ≠ [] := by
    intro none
    rw [none] at many
    exact windows (List.length_eq_zero_iff.mp (Nat.le_zero.mp many))
  have found : session.registry.info session.backend =
      .ok (b.map fun source => ⟨source, [.made]⟩) := by
    rw [traced, Registry.traced, Session.info_map, info]
    rfl
  refine ⟨fun records supply plays printable bounded => ?_, fun endless => ?_⟩
  · have delivers := retrieval_delivers (Session.sound_of_configuring traced configuring)
      configuring filtered some found ((plays filters filtered).traced [.made]) printable bounded
    have made : (b.factory.map fun source => (⟨source, [.made]⟩ : Traced σ)).isOk =
        b.factory.isOk := by
      cases b.factory <;> rfl
    rwa [← made]
  · refine retrieval_never configuring filtered some found fun n => ?_
    obtain ⟨records, longer, plays, written⟩ := endless n
    exact ⟨records, longer, (plays filters filtered).traced [.made], written⟩

def announcement (peer : String) : Element :=
  { type := .announcement, peerAddress := .text peer }

theorem announcement_printable (peer : String) :
    (announcement peer).Printable ∧ (announcement peer).origin.Printable := by
  have zero : Value.isShort 0 = true := by decide
  exact ⟨⟨⟨peer, rfl⟩, ⟨[], rfl⟩, .inl rfl, by simp [announcement, zero]⟩, Value.printable_null⟩

def announcements (status : RecordStatus) (peers : List String) : Record where
  time := 1
  project := "p"
  collector := "c"
  dumpType := .update
  dumpPosition := .middle
  status := status
  dumpTime := 1
  payload := .stored (peers.map announcement)

theorem announcements_printable (status : RecordStatus) (peers : List String) :
    (announcements status peers).Printable := by
  have all : ∀ e ∈ peers.map announcement, e.Printable ∧ e.origin.Printable := by
    intro e he
    obtain ⟨peer, _, rfl⟩ := List.mem_map.mp he
    exact announcement_printable peer
  have one : Value.isShort 1 = true := by decide
  refine ⟨Record.line_of_strings rfl rfl one one, ?_⟩
  cases status with
  | valid =>
    have walked : (announcements .valid peers).elements.1 =
        .ok (upToGap ((peers.map announcement).map some)) := rfl
    rw [upToGap_some] at walked
    exact ⟨_, walked, all⟩
  | _ => exact ⟨[], rfl, nofun⟩

def announcer (records : List Record) (failure : Option Failure) : ScriptedSource where
  events := (records.map fun record => { record := some record }) ++ [{ failure }]

def announcerRegistry (records : List Record) (failure : Option Failure) :
    Registry ScriptedSource :=
  Registry.add {} "announcer" "" (.ok (announcer records failure))

/-- Three records: the second is corrupted, and the third has a peer with a long address. -/
def troubledRecords : List Record := [
  announcements .valid ["a"], announcements .corruptedRecord ["b"],
  announcements .valid ["c", "2001:db8::1"]]

theorem run_delivers_troubled :
    let run := run { elementBuffer := 20 }
      (announcerRegistry troubledRecords (some (.badValue "broken"))).traced ["-w", "0,9", "-rme"]
    run.output = [
      "1|p|c|update|valid_record|1|middle|", "BGP4MP|0|A|a|0|||||0|0||NAG||", "A|0|a|0|||||||",
      "1|p|c|update|corrupted_record|1|middle|", "1|p|c|update|valid_record|1|middle|",
      "BGP4MP|0|A|c|0|||||0|0||NAG||", "BGP4MP|0|A|2001:db8::1|0|||||0|0||NAG||",
      "A|0|c|0|||||||"] ∧
    run.exit.code? = some (-1) ∧
    ∃ s, run.session = some s ∧ s.state = .stopped ∧ s.calls.count .closed = 1 := by
  let failure := Failure.badValue "broken"
  have plays (config : StreamConfig) : Source.Plays signalToken config
      (.ok (announcer troubledRecords (some failure))) troubledRecords .fails :=
    .opened rfl <| .gives (.done _ _) ⟨rfl, fun _ => rfl⟩ <|
      .gives (.done _ _) ⟨rfl, fun _ => rfl⟩ <| .gives (.done _ _) ⟨rfl, fun _ => rfl⟩ <|
        .fails (.done _ _) nofun ⟨rfl, fun _ => rfl⟩
  have printable : ∀ record ∈ troubledRecords, record.Printable := by
    intro record member
    simp only [troubledRecords, List.mem_cons, List.not_mem_nil, or_false] at member
    rcases member with rfl | rfl | rfl <;> exact announcements_printable _ _
  have delivers := (((run_delivers_or_escapes { elementBuffer := 20 }
      (announcerRegistry troubledRecords (some failure)) ["-w", "0,9", "-rme"]).2
    { registry := (announcerRegistry troubledRecords (some failure)).traced, backend := 1 }
    { windows := [.value ⟨0, 9⟩], records := true, bgpdump := true, elements := true }
    ⟨1, "announcer", "", [], .ok (announcer troubledRecords (some failure))⟩ rfl (by simp) rfl).1
    (by decide)).1 troubledRecords .fails (fun _ _ => plays _) printable nofun
  refine ⟨delivers.output.trans ?_, delivers.code.trans ?_, delivers.closed⟩
  · decide +kernel
  · decide +kernel

/-- An erased period passes the reading of the arguments, and then nothing is delivered. -/
theorem erased_period_escapes :
    let registry := announcerRegistry [announcements .valid []] none
    let argv := ["-w", "0,9", "-P--"]
    request {} registry.traced argv = .ok (.retrieval { registry := registry.traced, backend := 1 }
      { windows := [.value ⟨0, 9⟩], period := .erased }) ∧
    (∀ config, Source.Plays signalToken config (.ok (announcer [announcements .valid []] none))
      [announcements .valid []] .exhausted) ∧
    (announcements .valid []).Printable ∧
    ∀ made size entries supply,
      ¬ (run {} registry.traced argv).Delivers made size entries supply := by
  refine ⟨rfl, fun config => ?_, announcements_printable _ _, fun made size entries supply h => ?_⟩
  · exact .opened rfl <| .gives (.done _ _) ⟨rfl, fun _ => rfl⟩ <|
      .ends (.done _ _) ⟨rfl, fun _ => rfl⟩
  · have none : (run {} (announcerRegistry [announcements .valid []] none).traced
        ["-w", "0,9", "-P--"]).exit.code? = none := by decide +kernel
    cases none.symm.trans h.code

end RouteFeed.CommandLine
