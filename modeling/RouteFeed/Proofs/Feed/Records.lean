import RouteFeed.Proofs.Feed.Line
import RouteFeed.Proofs.Feed.Opening

/-! The records that a live feed gives for the lines of its reply. -/
namespace RouteFeed

namespace Live

/-- A time behind the end of every window. -/
def IsPast (f : StreamFilters) (time : Int) : Prop :=
  f.windows ≠ [] ∧ ∀ w ∈ f.windows, w.finish < time

instance (f : StreamFilters) (time : Int) : Decidable (IsPast f time) :=
  inferInstanceAs (Decidable (_ ∧ _))

/-- A record in some window, and of a listed collector if any are listed. -/
def Admitted (f : StreamFilters) (r : Record) : Prop :=
  (∃ w ∈ f.windows, w.start ≤ r.time ∧ r.time ≤ w.finish) ∧
    (f.collectors = [] ∨ ∃ name ∈ r.collector.string?, .value name ∈ f.collectors)

instance (f : StreamFilters) (r : Record) : Decidable (Admitted f r) :=
  inferInstanceAs (Decidable (_ ∧ _))

/-- A line with a well-formed message behind every window. -/
def isLast (f : StreamFilters) (line : List Char) : Bool :=
  (wellFormed? line).any fun r => decide (IsPast f r.time)

/-- The lines before the first message behind every window. -/
def considered (f : StreamFilters) (lines : List (List Char)) : List (List Char) :=
  lines.takeWhile fun line => !isLast f line

/-- The record that a line gives: that of a well-formed message if the filters let it through, and a
stand-in, whatever the filters, if the line is corrupt. -/
def lineRecord? (f : StreamFilters) (w : Watch) (line : List Char) : Option Record :=
  match wellFormed? line with
  | some r => if Admitted f r then some r else none
  | none => if isCorrupt line then some w.standIn else none

def lineRecords (f : StreamFilters) : Watch → List (List Char) → List Record
  | _, [] => []
  | w, line :: lines => (lineRecord? f (w.at line) line).toList ++ lineRecords f (w.past line) lines

/-- The answer that a line gives: a failure that the feed reports, or a record. -/
def lineAnswer? (f : StreamFilters) (w : Watch) (line : List Char) : Option PullAnswer :=
  match message? "ris_error" line with
  | some fields => some (.error (feedFailure (.object fields)))
  | none => (lineRecord? f w line).map fun r => .ok (some r)

def lineAnswers (f : StreamFilters) : Watch → List (List Char) → List PullAnswer
  | _, [] => []
  | w, line :: lines => (lineAnswer? f (w.at line) line).toList ++ lineAnswers f (w.past line) lines

/-- The course behind the last line: the end, if a message was behind every window, and what the end
of the reply gives otherwise. -/
def closing (f : StreamFilters) (t : Transmission) : Course :=
  if t.lines.any (isLast f) then {} else t.ending.course

def promised (f : StreamFilters) (w : Watch) (t : Transmission) : Course :=
  { closing f t with
    answers := lineAnswers f w (considered f t.lines) ++ (closing f t).answers }

theorem isPast_iff_lastEnd (f : StreamFilters) (time : Int) :
    IsPast f time ↔ ∃ e, f.lastEnd = some e ∧ e < time := by
  unfold IsPast StreamFilters.lastEnd
  constructor
  · rintro ⟨some_window, past⟩
    cases hm : (f.windows.map TimeWindow.finish).max? with
    | none => simp [some_window] at hm
    | some e =>
      refine ⟨e, rfl, ?_⟩
      obtain ⟨w, hw, rfl⟩ := List.mem_map.mp (List.max?_eq_some_iff.mp hm).1
      exact past w hw
  · rintro ⟨e, hm, he⟩
    obtain ⟨member, greatest⟩ := List.max?_eq_some_iff.mp hm
    constructor
    · intro none
      simp [none] at member
    · intro w hw
      have := greatest w.finish (List.mem_map_of_mem hw)
      omega

theorem matches_iff_admitted (f : StreamFilters) (r : Record) :
    (f.matchesTime r.time && f.matchesCollector r.collector) = true ↔ Admitted f r := by
  simp [StreamFilters.matchesTime, StreamFilters.matchesCollector, StreamFilters.admits, Admitted,
    TimeWindow.contains, Option.any_eq_true]

theorem verdict_cases (f : StreamFilters) (r : Record) :
    (IsPast f r.time ∧ ∃ e, LiveSource.verdict f r = .stop e) ∨
    (¬ IsPast f r.time ∧
      LiveSource.verdict f r = if Admitted f r then .give else .skip) := by
  by_cases past : IsPast f r.time
  · obtain ⟨e, he, behind⟩ := (isPast_iff_lastEnd f r.time).mp past
    exact .inl ⟨past, e, by simp [LiveSource.verdict, he, behind]⟩
  · refine .inr ⟨past, ?_⟩
    have inside : LiveSource.verdict f r =
        if f.matchesTime r.time && f.matchesCollector r.collector then .give else .skip := by
      unfold LiveSource.verdict
      cases he : f.lastEnd with
      | none => rfl
      | some e =>
        have before : ¬ e < r.time := fun behind =>
          past ((isPast_iff_lastEnd f r.time).mpr ⟨e, he, behind⟩)
        simp only [before, if_false]
    rw [inside]
    simp only [matches_iff_admitted]

theorem reading_of_last {f : StreamFilters} {line : List Char} (stop : isLast f line = true) :
    ∃ r e, reading line = .record r ∧ LiveSource.verdict f r = .stop e := by
  obtain ⟨r, found, past⟩ := (Option.any_eq_true _ _).mp stop
  simp only [decide_eq_true_eq] at past
  rcases verdict_cases f r with ⟨_, e, verdict⟩ | ⟨before, _⟩
  · exact ⟨r, e, reading_of_wellFormed found, verdict⟩
  · exact absurd past before

theorem verdict_of_going {f : StreamFilters} {line : List Char} (going : isLast f line = false)
    {r : Record} (read : reading line = .record r) :
    LiveSource.verdict f r = if Admitted f r then .give else .skip := by
  rcases verdict_cases f r with ⟨past, _⟩ | ⟨_, verdict⟩
  · simp [isLast, wellFormed_of_reading read, past] at going
  · exact verdict

theorem promised_cons {f : StreamFilters} (w : Watch) {line : List Char}
    {lines : List (List Char)} (ending : Ending) (h : isLast f line = false) :
    promised f w { lines := line :: lines, ending } =
      { promised f (w.past line) { lines, ending } with
        answers := (lineAnswer? f (w.at line) line).toList ++
          (promised f (w.past line) { lines, ending }).answers } := by
  simp [promised, closing, considered, lineAnswers, h]

theorem promised_last {f : StreamFilters} (w : Watch) {line : List Char}
    {lines : List (List Char)} (ending : Ending) (h : isLast f line = true) :
    promised f w { lines := line :: lines, ending } = {} := by
  simp [promised, closing, considered, lineAnswers, h]

theorem course_eq_promised (f : StreamFilters) (w : Watch) (t : Transmission)
    (safe : ∀ line ∈ considered f t.lines, ¬ Hazard line) :
    course f t.ending w t.lines = promised f w t := by
  obtain ⟨lines, ending⟩ := t
  induction lines generalizing w with
  | nil => simp [course, promised, closing, considered, lineAnswers]
  | cons line lines ih =>
    simp only at safe ih ⊢
    cases stop : isLast f line with
    | true =>
      rw [promised_last w ending stop]
      obtain ⟨r, found, past⟩ := (Option.any_eq_true _ _).mp stop
      simp only [decide_eq_true_eq] at past
      rcases verdict_cases f r with ⟨_, e, hv⟩ | ⟨before, _⟩
      · simp [course, reading_of_wellFormed found, hv]
      · exact absurd past before
    | false =>
      have split : considered f (line :: lines) = line :: considered f lines := by
        simp [considered, stop]
      rw [split] at safe
      have rest := ih (w.past line) fun l hl => safe l (List.mem_cons_of_mem line hl)
      have here := safe line List.mem_cons_self
      rw [promised_cons w ending stop, ← rest]
      -- one way of reading a line for each clause of the promise
      cases view line with
      | nothing read quiet noRecord sound time =>
        have still : w.at line = w := by simp [Watch.at, time]
        simp [course, read, lineAnswer?, quiet, lineRecord?, noRecord, sound, still,
          Watch.past_of_sound sound]
      | @record r read quiet found sound time =>
        have behind : w.past line = w.hear r.time := by
          rw [Watch.past_of_sound sound, Watch.at_eq_hear (some r.time) time]
        have verdict := verdict_of_going stop read
        by_cases admitted : Admitted f r
        · simp [course, read, lineAnswer?, quiet, lineRecord?, found, verdict, admitted, behind,
            Course.after]
        · simp [course, read, lineAnswer?, quiet, lineRecord?, found, verdict, admitted, behind]
      | corrupt read quiet noRecord broken time =>
        simp [course, read, lineAnswer?, quiet, lineRecord?, noRecord, broken, Course.after,
          Watch.past_of_broken broken, Watch.at_eq_hear _ time]
      | complaint read found noRecord sound time =>
        have behind : w.past line = w.hear none := by
          rw [Watch.past_of_sound sound, Watch.at_eq_hear none time]
        simp [course, read, lineAnswer?, found, behind, Course.after]
      | escapes read kind quiet hazard => exact absurd hazard here

theorem lineAnswers_of_quiet (f : StreamFilters) (w : Watch) (lines : List (List Char))
    (quiet : ∀ line ∈ lines, message? "ris_error" line = none) :
    lineAnswers f w lines = (lineRecords f w lines).map fun r => .ok (some r) := by
  induction lines generalizing w with
  | nil => rfl
  | cons line lines ih =>
    have rest := ih (w.past line) fun l hl => quiet l (List.mem_cons_of_mem line hl)
    have here := quiet line List.mem_cons_self
    rw [lineAnswers, lineRecords, rest, List.map_append, lineAnswer?, here]
    cases lineRecord? f (w.at line) line with
    | none => rfl
    | some r => rfl

/-- The valid records among those of some lines are those that the filters let through. -/
theorem lineRecords_valid (f : StreamFilters) (w : Watch) (lines : List (List Char)) :
    (lineRecords f w lines).filter (fun r => r.status == .valid) =
      (lines.filterMap wellFormed?).filter (Admitted f) := by
  induction lines generalizing w with
  | nil => rfl
  | cons line lines ih =>
    rw [lineRecords, List.filter_append, ih, List.filterMap_cons]
    cases found : wellFormed? line with
    | none =>
      by_cases broken : isCorrupt line
      · simp [lineRecord?, found, broken, Watch.standIn, makeRecord]
      · simp [lineRecord?, found, broken]
    | some r =>
      have valid := wellFormed_status found
      by_cases admitted : Admitted f r
      · simp [lineRecord?, found, admitted, valid]
      · simp [lineRecord?, found, admitted]

theorem not_admitted_of_isPast {f : StreamFilters} {r : Record} (h : IsPast f r.time) :
    ¬ Admitted f r := by
  rintro ⟨⟨w, hw, _, before⟩, _⟩
  have := h.2 w hw
  omega

theorem IsPast.mono {f : StreamFilters} {time later : Int} (h : IsPast f time)
    (le : time ≤ later) : IsPast f later :=
  ⟨h.1, fun w hw => Int.lt_of_lt_of_le (h.2 w hw) le⟩

/-- If the times of the messages never decrease, the early end loses nothing. -/
theorem admitted_considered {f : StreamFilters} {lines : List (List Char)}
    (ordered : (lines.filterMap wellFormed?).Pairwise fun r q => r.time ≤ q.time) :
    ((considered f lines).filterMap wellFormed?).filter (Admitted f) =
      (lines.filterMap wellFormed?).filter (Admitted f) := by
  induction lines with
  | nil => rfl
  | cons line lines ih =>
    cases stop : isLast f line with
    | false =>
      have split : considered f (line :: lines) = line :: considered f lines := by
        simp [considered, stop]
      rw [split, List.filterMap_cons, List.filterMap_cons]
      rw [List.filterMap_cons] at ordered
      cases found : wellFormed? line with
      | none =>
        rw [found] at ordered
        exact ih ordered
      | some r =>
        rw [found] at ordered
        simp only [List.filter_cons, ih (List.pairwise_cons.mp ordered).2]
    | true =>
      obtain ⟨r, found, past⟩ := (Option.any_eq_true _ _).mp stop
      simp only [decide_eq_true_eq] at past
      rw [List.filterMap_cons, found] at ordered ⊢
      -- the times only grow, so that nothing behind this message is in a window
      have behind : ∀ q ∈ r :: lines.filterMap wellFormed?, ¬ Admitted f q := by
        intro q hq
        rcases List.mem_cons.mp hq with rfl | hq
        · exact not_admitted_of_isPast past
        · exact not_admitted_of_isPast (past.mono ((List.pairwise_cons.mp ordered).1 q hq))
      have none : (r :: lines.filterMap wellFormed?).filter (Admitted f) = [] := by
        rw [List.filter_eq_nil_iff]
        intro q hq
        simpa using behind q hq
      simp [considered, stop, none]

end Live

namespace LiveSource

open Live

/-- A live feed gives the records of its reply's lines, in order and each once, and then nothing any
more. If the times of the messages never decrease, no record within the filters is lost. -/
theorem answers_of_closed_reply {s : LiveSource} {config : StreamConfig} {reply : Reply}
    {limit : Option Number.Binary64} (closed : s.isOpen = false)
    (project : config.filters.matchesProject project = true)
    (type : config.filters.matchesRecordType "updates" = true)
    (server : s.server = .replies reply) (opened : (s.start config).result = .ok ())
    (limited : (s.start config).source.idleLimit = .ok limit)
    (positive : limit.any isNotPositive = false)
    (complete : (reply.transmission limit).ending = .closed)
    (sound : ∀ line ∈ (reply.transmission limit).lines, ∀ f time, readLine line ≠ .fails f time) :
    let lines := (reply.transmission limit).lines
    let given := lineRecords config.filters s.watch (considered config.filters lines)
    (∀ n, Source.answers n (s.start config).source =
      (given.map (fun r => (.ok (some r) : PullAnswer)) ++
        List.replicate n (.ok none : PullAnswer)).take n) ∧
    ((lines.filterMap wellFormed?).Pairwise (fun r q => r.time ≤ q.time) →
      given.filter (fun r => r.status == .valid) =
        (lines.filterMap wellFormed?).filter (Admitted config.filters)) := by
  intro lines given
  have readable : ∀ line ∈ considered config.filters lines, ∀ f time,
      reading line ≠ .fails f time := by
    intro line hl f time hr
    unfold reading at hr
    split at hr
    · cases hr
    · exact sound line (List.takeWhile_subset _ hl) f time hr
  have safe : ∀ line ∈ considered config.filters lines, ¬ Hazard line := by
    intro line hl hazard
    obtain ⟨f, time, hr, _⟩ := (hazard_iff line).mp hazard
    exact readable line hl f time hr
  have quiet : ∀ line ∈ considered config.filters lines, message? "ris_error" line = none := by
    intro line hl
    refine Option.eq_none_iff_forall_ne_some.mpr fun fields found => ?_
    exact readable line hl _ _ (reading_complaint found)
  have wanted : isWanted config.filters = true := by simp [isWanted, project, type]
  constructor
  · intro n
    have follows := start_follows closed wanted server opened limited positive
    rw [course_eq_promised _ _ _ safe] at follows
    rw [answers_eq_course follows n, promised, lineAnswers_of_quiet _ _ _ quiet]
    have ends : closing config.filters (reply.transmission limit) = {} := by
      simp [closing, complete, Ending.course]
    simp [Course.first, ends, given, lines]
  · intro ordered
    rw [← admitted_considered ordered]
    exact lineRecords_valid _ _ _

/-- A reply that brings some lines, each as a piece of its own. -/
def rehearsalReply (lines : List String) : Reply where
  body := lines.map fun line => .bytes ((line.toList ++ ['\n']).map Char.toNat)

def rehearsal (lines : List String) : LiveSource where
  endpoint := "http://feed.example/stream"
  server := .replies (rehearsalReply lines)
  watch := { clock := fun n => 7 + n }

/-- A blank line, two broken ones, a message inside the window, another type, a message behind it. -/
def mixedLines : List String := [
  " ", "x", "z",
  "\x7b\"type\":\"ris_message\",\"data\":\x7b\"timestamp\":5,\"host\":\"rrc00.ripe.net\"\x7d\x7d",
  "\x7b\"type\":\"pong\"\x7d",
  "\x7b\"type\":\"ris_message\",\"data\":\x7b\"timestamp\":10\x7d\x7d",
  "y"]

theorem answers_of_closed_reply_mixed :
    ∃ given : List Record,
      given.map (fun r => (r.time, r.collector, r.status)) =
        ([(7, [], .corruptedRecord), (8, [], .corruptedRecord), (5, "rrc00", .valid)] :
          List (Int × Points × RecordStatus)) ∧
      ∀ n, Source.answers n
          ((rehearsal mixedLines).start { filters := { windows := [⟨0, 9⟩] } }).source =
        (given.map (fun r => (.ok (some r) : PullAnswer)) ++
          List.replicate n (.ok none : PullAnswer)).take n := by
  have sound : (((rehearsalReply mixedLines).transmission (some (.ofInt 10))).lines.all fun line =>
      match readLine line with
      | .fails _ _ => false
      | _ => true) = true := by decide +kernel
  have h := @answers_of_closed_reply (rehearsal mixedLines)
    { filters := { windows := [⟨0, 9⟩] } } (rehearsalReply mixedLines) (some (.ofInt 10))
    rfl rfl rfl rfl (by rfl) (by rfl) (by decide +kernel) (by decide +kernel) (by
      intro line hl f time hr
      have := List.all_eq_true.mp sound line hl
      simp [hr] at this)
  exact ⟨_, by decide +kernel, h.1⟩

end LiveSource
end RouteFeed
