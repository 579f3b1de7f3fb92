import RouteFeed.Proofs.Feed.Faults

/-! The times of the records that stand for broken lines. Such a record should bear the time of the
last message that became a valid record. The feed remembers the time of every message whose contents
can be read, also if its host cannot, and takes the time zero for none at all. -/
namespace RouteFeed

namespace Course

/-- Courses of the same shape have the same answers if every number of pulls has. -/
theorem answers_eq_iff {c d : Course} (length : c.answers.length = d.answers.length)
    (waits : c.waits = d.waits) : c.answers = d.answers ↔ ∀ n, c.first n = d.first n := by
  constructor
  · intro same n
    have equal : c = d := by
      cases c
      cases d
      simp_all
    rw [equal]
  · intro first
    have all (e : Course) : e.first e.answers.length = e.answers := by
      cases hw : e.waits <;> simp [Course.first, hw]
    have same := first c.answers.length
    rw [all c, length, all d] at same
    exact same

end Course

namespace Live

/-- What is remembered from line to line to stamp the records that stand for broken ones. -/
structure Memory (σ : Type) where
  /-- What is remembered behind a line. -/
  after : σ → List Char → σ
  /-- The stamp for a broken line, by what is remembered before it and the time now. -/
  stamp : σ → List Char → (now : Int) → Int

variable {σ τ : Type}

/-- The course of a feed with a memory of its own for the stamps. The clock is looked at for every
broken line. -/
def stampedCourse (f : StreamFilters) (ending : Ending) (memory : Memory σ) :
    (clock : Nat → Int) → σ → List (List Char) → Course
  | _, _, [] => ending.course
  | clock, known, line :: lines =>
    let rest (clock : Nat → Int) :=
      stampedCourse f ending memory clock (memory.after known line) lines
    match reading line with
    | .nothing => rest clock
    | .fails failure _ => (rest clock).after (.error failure)
    | .broken _ _ =>
      let stamp := memory.stamp known line (clock 0)
      (rest fun n => clock (n + 1)).after (.ok (some (makeRecord stamp [] .corruptedRecord .none)))
    | .record r =>
      match LiveSource.verdict f r with
      | .skip => rest clock
      | .give => (rest clock).after (.ok (some r))
      | .stop _ => {}

/-- The time of the last valid record behind a line; no other line counts. -/
def validAfter (valid : Option Int) (line : List Char) : Option Int :=
  match wellFormed? line with
  | some r => some r.time
  | none => valid

/-- The memory as it should be: the time of the last valid record, whether or not the filters let it
through, or the time now if there is none. -/
def dutiful : Memory (Option Int) where
  after := validAfter
  stamp valid _ now := valid.getD now

/-- The memory of the feed: the time of the last message whose contents could be read, where zero
stands for none. -/
def actual : Memory Int where
  after := timeAfter
  stamp last line now := if timeAfter last line = 0 then now else timeAfter last line

def isBroken (line : List Char) : Bool :=
  match reading line with
  | .broken _ _ => true
  | _ => false

theorem time_of_fails {line : List Char} {f : Failure} {time : Option Int}
    (read : reading line = .fails f time) : time = none ∧ ∀ last, timeAfter last line = last := by
  cases view line with
  | nothing h => simp [h] at read
  | record h => simp [h] at read
  | corrupt h => simp [h] at read
  | complaint h _ _ _ unchanged =>
    rw [h] at read
    cases read
    exact ⟨rfl, unchanged⟩
  | escapes h _ quiet hazard =>
    cases hazard with
    | @unreadable fault present parsed limit =>
      have hr : reading line = readLine line := by simp [reading, present]
      simp only [readLine, parsed] at hr
      rw [hr] at read
      cases fault with
      | malformed => exact absurd rfl limit
      | _ =>
        cases read
        exact ⟨rfl, fun last => by simp [timeAfter, message?, present, parsed]⟩
    | overflows m beyond =>
      have hr := reading_message m
      simp only [convert, content_of_overflows beyond] at hr
      rw [hr] at read
      cases read
      exact ⟨rfl, fun last => by simp [timeAfter, m, content_of_overflows beyond]⟩
    | complaint m _ => simp [quiet] at m

theorem course_eq_stampedCourse (f : StreamFilters) (ending : Ending) (w : Watch)
    (lines : List (List Char)) :
    course f ending w lines = stampedCourse f ending actual w.clock w.last lines := by
  induction lines generalizing w with
  | nil => rfl
  | cons line lines ih =>
    rw [course, stampedCourse]
    simp only [ih]
    cases view line with
    | nothing read _ _ _ time => simp [read, actual, time]
    | @record r read _ _ _ time =>
      have behind : actual.after w.last line = r.time := time w.last
      cases verdict : LiveSource.verdict f r <;> simp [read, behind, verdict, Watch.hear]
    | corrupt read _ _ _ time =>
      simp only [read, actual, time, Watch.standIn, Watch.date, Watch.hear, Watch.tick]
      rfl
    | complaint read _ _ _ time => simp [read, actual, time, Watch.hear]
    | escapes read =>
      obtain ⟨rfl, time⟩ := time_of_fails read
      simp [read, actual, time, Watch.hear]

variable (f : StreamFilters) (ending : Ending)

/-- The memory decides neither how many answers there are nor how the feed ends. -/
theorem stampedCourse_shape (m : Memory σ) (k : Memory τ) (clock : Nat → Int) (known : σ)
    (other : τ) (lines : List (List Char)) :
    (stampedCourse f ending m clock known lines).answers.length =
      (stampedCourse f ending k clock other lines).answers.length ∧
    (stampedCourse f ending m clock known lines).waits =
      (stampedCourse f ending k clock other lines).waits := by
  induction lines generalizing clock known other with
  | nil => exact ⟨rfl, rfl⟩
  | cons line lines ih =>
    have rest (clock : Nat → Int) := ih clock (m.after known line) (k.after other line)
    simp only [stampedCourse]
    cases reading line with
    | nothing => exact rest clock
    | fails failure time => exact (rest clock).imp_left (congrArg (· + 1))
    | broken entry time => exact (rest _).imp_left (congrArg (· + 1))
    | record r =>
      cases hv : LiveSource.verdict f r with
      | skip => simpa only [hv] using rest clock
      | give =>
        simp only [hv]
        exact (rest clock).imp_left (congrArg (· + 1))
      | stop lastEnd => simp only [hv, and_self]

/-- What is said of every member of a list and of the members before it. -/
theorem forall_split_cons {α : Type} {a : α} {as : List α} {P : List α → α → Prop} :
    (∀ earlier b later, a :: as = earlier ++ b :: later → P earlier b) ↔
      P [] a ∧ ∀ earlier b later, as = earlier ++ b :: later → P (a :: earlier) b := by
  constructor
  · intro h
    exact ⟨h [] a as rfl, fun earlier b later split =>
      h (a :: earlier) b later (congrArg (a :: ·) split)⟩
  · rintro ⟨head, rest⟩ earlier b later split
    cases earlier with
    | nil =>
      cases split
      exact head
    | cons first earlier =>
      cases split
      exact rest earlier b later rfl

/-- Two memories give the same answers exactly if they give the same stamp for every broken line. -/
theorem stampedCourse_answers_iff (m : Memory σ) (k : Memory τ) (clock : Nat → Int) (known : σ)
    (other : τ) (lines : List (List Char)) :
    (stampedCourse f ending m clock known lines).answers =
        (stampedCourse f ending k clock other lines).answers ↔
      ∀ earlier line later, considered f lines = earlier ++ line :: later →
        isBroken line = true →
        m.stamp (earlier.foldl m.after known) line (clock (earlier.countP isBroken)) =
          k.stamp (earlier.foldl k.after other) line (clock (earlier.countP isBroken)) := by
  induction lines generalizing clock known other with
  | nil => simp [stampedCourse, considered]
  | cons line lines ih =>
    cases stop : isLast f line with
    | true =>
      -- a line that ends the feed holds a record, and whatever is behind it has no part in the answers
      obtain ⟨r, e, read, verdict⟩ := reading_of_last stop
      simp [stampedCourse, read, verdict, considered, stop]
    | false =>
      have split : considered f (line :: lines) = line :: considered f lines := by
        simp [considered, stop]
      have rest (clock : Nat → Int) := ih clock (m.after known line) (k.after other line)
      rw [split, forall_split_cons]
      simp only [List.foldl_nil, List.foldl_cons, List.countP_nil, List.countP_cons]
      rw [stampedCourse, stampedCourse]
      cases read : reading line with
      | nothing => simp [isBroken, read, rest]
      | fails failure time => simp [isBroken, read, rest, Course.after]
      | broken entry time =>
        simp [isBroken, read, rest, Course.after, makeRecord]
      | record r =>
        have verdict := verdict_of_going stop read
        by_cases admitted : Admitted f r <;>
          simp [isBroken, read, rest, verdict, admitted, Course.after]

/-- A message whose contents can be read, but that becomes no valid record or bears the time zero. -/
def Misdates (line : List Char) : Prop :=
  ∃ fields p es, message? "ris_message" line = some fields ∧
    content (dataOf fields) = .ok (p, es) ∧ (wellFormed? line = none ∨ p.time = 0)

/-- A line leaves the times alone, or holds a message whose contents can be read. -/
theorem readable_cases (line : List Char) :
    (wellFormed? line = none ∧ ∀ last, timeAfter last line = last) ∨
    ∃ fields p es, message? "ris_message" line = some fields ∧
      content (dataOf fields) = .ok (p, es) ∧ (∀ last, timeAfter last line = p.time) ∧
      ∀ r, wellFormed? line = some r → r.time = p.time := by
  cases m : message? "ris_message" line with
  | none => exact .inl ⟨by simp [wellFormed?, m], fun last => by simp [timeAfter, m]⟩
  | some fields =>
    cases read : content (dataOf fields) with
    | error failure =>
      refine .inl ⟨?_, fun last => by simp [timeAfter, m, read]⟩
      simp [wellFormed?, m, convert, read, Except.toOption]
    | ok pair =>
      obtain ⟨p, es⟩ := pair
      refine .inr ⟨fields, p, es, rfl, read, fun last => by simp [timeAfter, m, read], ?_⟩
      intro r found
      obtain ⟨fields', m', converted⟩ := wellFormed?_eq_some_iff.mp found
      cases m.symm.trans m'
      simp only [convert, read] at converted
      split at converted
      · cases converted
      · cases converted
        rfl

/-- A line that does not misdate leaves the memory of the feed at the last valid record. -/
theorem timeAfter_eq_validAfter {line : List Char} (sound : ¬ Misdates line) {valid : Option Int}
    (set : valid ≠ some 0) :
    timeAfter (valid.getD 0) line = (validAfter valid line).getD 0 ∧
      validAfter valid line ≠ some 0 := by
  obtain ⟨noRecord, unchanged⟩ | ⟨fields, p, es, m, read, behind, same⟩ := readable_cases line
  · simp only [validAfter, noRecord, unchanged]
    exact ⟨trivial, set⟩
  · cases found : wellFormed? line with
    | none => exact absurd ⟨fields, p, es, m, read, .inl found⟩ sound
    | some r =>
      have some_time : p.time ≠ 0 := fun zero =>
        sound ⟨fields, p, es, m, read, .inr zero⟩
      simp only [validAfter, found, behind, same r found]
      exact ⟨rfl, fun h => some_time (Option.some.inj h)⟩

/-- Along lines that do not misdate, the memory of the feed is the time of the last valid record. -/
theorem foldl_timeAfter {lines : List (List Char)} (sound : ∀ line ∈ lines, ¬ Misdates line)
    {valid : Option Int} (set : valid ≠ some 0) :
    lines.foldl timeAfter (valid.getD 0) = (lines.foldl validAfter valid).getD 0 ∧
      lines.foldl validAfter valid ≠ some 0 := by
  induction lines generalizing valid with
  | nil => exact ⟨rfl, set⟩
  | cons line lines ih =>
    obtain ⟨here, others⟩ := List.forall_mem_cons.mp sound
    obtain ⟨same, set⟩ := timeAfter_eq_validAfter here set
    rw [List.foldl_cons, List.foldl_cons, same]
    exact ih others set

theorem stamp_of_sound {line : List Char} (broken : isBroken line = true)
    (sound : ¬ Misdates line) (now : Int) {valid : Option Int} (set : valid ≠ some 0) :
    actual.stamp (valid.getD 0) line now = dutiful.stamp valid line now := by
  have noRecord : wellFormed? line = none := by
    refine Option.eq_none_iff_forall_ne_some.mpr fun r found => ?_
    simp [isBroken, reading_of_wellFormed found] at broken
  obtain ⟨_, unchanged⟩ | ⟨fields, p, es, m, read, _⟩ := readable_cases line
  · simp only [actual, dutiful, unchanged]
    cases valid with
    | none => rfl
    | some time => exact if_neg fun zero => set (congrArg some zero)
  · exact absurd ⟨fields, p, es, m, read, .inl noRecord⟩ sound

theorem course_eq_dutiful_iff (w : Watch) (valid : Option Int) (lines : List (List Char)) :
    (∀ n, (course f ending w lines).first n =
      (stampedCourse f ending dutiful w.clock valid lines).first n) ↔
    ∀ earlier line later, considered f lines = earlier ++ line :: later → isBroken line = true →
      let now := w.clock (earlier.countP isBroken)
      actual.stamp (earlier.foldl timeAfter w.last) line now =
        dutiful.stamp (earlier.foldl validAfter valid) line now := by
  obtain ⟨length, waits⟩ :=
    stampedCourse_shape f ending actual dutiful w.clock w.last valid lines
  rw [course_eq_stampedCourse, ← Course.answers_eq_iff length waits]
  exact stampedCourse_answers_iff f ending _ _ _ _ _ lines

end Live

namespace LiveSource

open Live

/-- Every record that stands for a broken line bears the time of the last valid record, or the time
now if there is none, exactly if the memory of the feed gives that time at every broken line. It does
so as long as no message misdates. -/
theorem stamps_dutiful_iff {s : LiveSource} {config : StreamConfig} {reply : Reply}
    {limit : Option Number.Binary64} (closed : s.isOpen = false)
    (wanted : isWanted config.filters = true) (server : s.server = .replies reply)
    (opened : (s.start config).result = .ok ())
    (limited : (s.start config).source.idleLimit = .ok limit)
    (positive : limit.any isNotPositive = false) (valid : Option Int) :
    let t := reply.transmission limit
    let lines := considered config.filters t.lines
    let promise := stampedCourse config.filters t.ending dutiful s.watch.clock valid t.lines
    ((∀ n, Source.answers n (s.start config).source = promise.first n) ↔
      ∀ earlier line later, lines = earlier ++ line :: later → isBroken line = true →
        let now := s.watch.clock (earlier.countP isBroken)
        actual.stamp (earlier.foldl timeAfter s.watch.last) line now =
          (earlier.foldl validAfter valid).getD now) ∧
    (s.watch.last = valid.getD 0 → valid ≠ some 0 → (∀ line ∈ lines, ¬ Misdates line) →
      ∀ n, Source.answers n (s.start config).source = promise.first n) := by
  intro t lines promise
  have follows := start_follows closed wanted server opened limited positive
  have same_iff := course_eq_dutiful_iff config.filters (reply.transmission limit).ending s.watch
    valid (reply.transmission limit).lines
  simp only [← answers_eq_course follows] at same_iff
  refine ⟨same_iff, fun fresh set sound => same_iff.mpr ?_⟩
  intro earlier line later (split : lines = earlier ++ line :: later) broken
  -- up to the broken line both memories hold the same time
  have before : ∀ l ∈ earlier, ¬ Misdates l := fun l h =>
    sound l (by rw [split]; exact List.mem_append_left _ h)
  have here : ¬ Misdates line := sound line (by rw [split]; simp)
  obtain ⟨same, still⟩ := foldl_timeAfter before set
  rw [fresh, same]
  exact stamp_of_sound broken here _ still

/-- A message, a broken line, and a message without a time whose peer's number is no number. -/
def soundLines : List String := [
  "\x7b\"type\":\"ris_message\",\"data\":\x7b\"timestamp\":5\x7d\x7d", "x",
  "\x7b\"type\":\"ris_message\",\"data\":\x7b\"peer_asn\":\"AS1\"\x7d\x7d"]

def times (answers : List PullAnswer) : List (Option Int) :=
  answers.map fun answer => answer.toOption.join.map Record.time

theorem stamps_dutiful_sound :
    ∃ promise : Course, times promise.answers = [some 5, some 5, some 5] ∧
      ∀ n, Source.answers n
        ((rehearsal soundLines).start { filters := { windows := [⟨0, 9⟩] } }).source =
          promise.first n := by
  have clear : ((considered { windows := [⟨0, 9⟩] }
      ((rehearsalReply soundLines).transmission (some (.ofInt 10))).lines).all fun line =>
        (message? "ris_message" line).all fun fields =>
          match content (dataOf fields) with
          | .ok (p, _) => (wellFormed? line).isSome && p.time != 0
          | .error _ => true) = true := by decide +kernel
  have h := @stamps_dutiful_iff (rehearsal soundLines) { filters := { windows := [⟨0, 9⟩] } }
    (rehearsalReply soundLines) (some (.ofInt 10)) rfl (by decide) rfl (by rfl) (by rfl)
    (by decide +kernel) none
  refine ⟨_, by decide +kernel, h.2 rfl nofun ?_⟩
  rintro line hl ⟨fields, p, es, m, read, wrong⟩
  have := List.all_eq_true.mp clear line hl
  simp only [m, read, Option.all_some, Bool.and_eq_true, bne_iff_ne, ne_eq] at this
  rcases wrong with noRecord | zero
  · simp [noRecord] at this
  · exact this.2 zero

/-- A message, one whose host is no text, and a broken line. -/
def misdatedLines : List String := [
  "\x7b\"type\":\"ris_message\",\"data\":\x7b\"timestamp\":5\x7d\x7d",
  "\x7b\"type\":\"ris_message\",\"data\":\x7b\"timestamp\":6,\"host\":[]\x7d\x7d", "x"]

/-- The malformed message changes the stamp of the record for the line behind it, and its own. -/
theorem misdated_stamps :
    times (Source.answers 3
      ((rehearsal misdatedLines).start { filters := { windows := [⟨0, 9⟩] } }).source) =
        [some 5, some 6, some 6] ∧
    times ((stampedCourse { windows := [⟨0, 9⟩] } .closed dutiful (rehearsal misdatedLines).watch.clock none
      ((rehearsalReply misdatedLines).transmission (some (.ofInt 10))).lines).first 3) =
        [some 5, some 5, some 5] :=
  ⟨by decide +kernel, by decide +kernel⟩

end LiveSource
end RouteFeed
