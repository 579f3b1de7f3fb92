import RouteFeed.Proofs.Feed.Counting
import RouteFeed.Proofs.Interruption

/-! When a live feed that waits for new data tells the end of the data. It does so behind a message
behind every window, and if its filters exclude the feed; but a reply that ends or breaks off, and a
pull that was interrupted while it waited, end the data as well. -/
namespace RouteFeed

namespace Course

/-- What is left of a course behind some pulls. -/
def behind (c : Course) (n : Nat) : Course := { c with answers := c.answers.drop n }

@[simp] theorem behind_end (n : Nat) : behind {} n = {} := by simp [behind]

theorem behind_behind (c : Course) (m n : Nat) : (c.behind m).behind n = c.behind (m + n) := by
  simp [behind]

end Course

namespace LiveSource

open Live

structure Stays (s t : LiveSource) : Prop where
  isOpen : t.isOpen = s.isOpen
  blocking : t.blocking = s.blocking
  endpoint : t.endpoint = s.endpoint
  idleTimeout : t.idleTimeout = s.idleTimeout

/-- What a pull of a source may come to. An interrupted one fails, and nothing can be read behind it. -/
structure Continues (s : LiveSource) (late : Bool) (answer : PullAnswer) (t : LiveSource) : Prop
    extends Stays s t where
  cut : late = true → answer = .error .cancelled ∧
    ∃ stream, t.stream = some stream ∧ stream.ready = [] ∧ stream.ended = true

/-- Whatever a pull comes to, it is what it may come to. -/
abbrev Proceeds (s : LiveSource) (p : Pull LiveSource) : Prop :=
  p.Every (fun _ => True) s.Continues false

variable {s t : LiveSource}

theorem Stays.reading (h : s.Stays t) (stream : Option LiveStream) (released : List Bool)
    (watch : Watch) : s.Stays { t with stream, released, watch } :=
  ⟨h.isOpen, h.blocking, h.endpoint, h.idleTimeout⟩

theorem Stays.done (h : s.Stays t) (answer : PullAnswer) : s.Proceeds (.done answer t) := ⟨h, nofun⟩

theorem Stays.cancelled (h : s.Stays t) (stream : LiveStream) :
    (t.cancelled stream).Every (fun _ => True) s.Continues true :=
  ⟨h.reading _ _ _, fun _ => ⟨rfl, _, rfl, rfl, rfl⟩⟩

theorem Stays.idle (h : s.Stays t) : s.Proceeds t.idle := Stays.done (h.reading _ _ _) _

theorem Stays.readFailure (h : s.Stays t) (stream : LiveStream) (f : Failure) :
    s.Proceeds (t.readFailure stream f) := by
  unfold LiveSource.readFailure
  split
  · exact h.idle
  · exact Stays.done (h.reading _ _ _) _

theorem Stays.starved (h : s.Stays t) (limit : Option Number.Binary64) (stream : LiveStream) :
    s.Proceeds (t.starved limit stream) := by
  unfold LiveSource.starved
  split
  · exact ⟨trivial, h.cancelled stream⟩
  · exact ⟨trivial, h.idle, h.cancelled stream⟩

theorem proceeds_reporting {p : Pull LiveSource} (h : s.Proceeds p) (log : Log) :
    s.Proceeds (reporting log p) := by
  induction log with
  | nil => exact h
  | cons entry log ih => exact ih

/-- A pull that goes through some lines proceeds if it does so when they are used up. -/
theorem Stays.conclude (h : s.Stays t) (stream : LiveStream) (lines : List (List Char))
    (onward : LiveSource → Pull LiveSource) (dry : ∀ u, s.Stays u → s.Proceeds (onward u)) :
    s.Proceeds (LiveSource.conclude stream (t.scan lines) onward) := by
  have agrees := scan_agrees t lines { ending := .closed }
  generalize t.courseOf _ = c at agrees
  generalize t.scan lines = r at agrees ⊢
  cases agrees with
  | ends last => exact proceeds_reporting (Stays.done (h.reading _ _ _) _) _
  | passed last => exact proceeds_reporting (Stays.done (h.reading _ _ _) _) _
  | dry last => exact proceeds_reporting (dry _ (h.reading _ _ _)) _

theorem Stays.read (limit : Option Number.Binary64) (stream : LiveStream) (h : s.Stays t)
    (time : Number.Duration) (arrivals : List Arrival) :
    s.Proceeds (LiveSource.read limit stream t time arrivals) := by
  induction arrivals generalizing stream t time with
  | nil =>
    have released : s.Stays (t.release stream.index) := h.reading _ _ _
    unfold LiveSource.read
    cases stream.decoder.flush with
    | error f => exact released.readFailure stream f
    | ok text => exact released.conclude _ _ _ fun u same => Stays.done (same.reading _ _ _) _
  | cons arrival rest ih =>
    cases arrival with
    | bytes bs =>
      unfold LiveSource.read
      cases stream.decoder.feed bs with
      | error f => exact h.readFailure stream f
      | ok fed => exact h.conclude _ _ _ fun u same => ih _ same _
    | fails f => exact h.readFailure stream f
    | stalls => exact h.starved limit stream
    | signals => exact h.starved limit stream
    | pauses length =>
      have held : s.Stays { t with stream := some { stream with rest } } := h.reading _ _ _
      unfold LiveSource.read
      dsimp only
      split
      · exact ⟨trivial, ih _ held _, held.cancelled _⟩
      · exact ⟨trivial, held.idle, held.cancelled _⟩

theorem pull_proceeds (s : LiveSource) : s.Proceeds s.pull := by
  have same : s.Stays s := ⟨rfl, rfl, rfl, rfl⟩
  unfold pull
  split
  · exact same.done _
  · split
    · exact same.done _
    · exact same.done _
    · split
      · exact same.idle
      · refine same.conclude _ _ _ fun u h => ?_
        split
        · exact Stays.done (h.reading _ _ _) _
        · exact h.read _ _ _ _

theorem follows_cut {c : Course} {answer : PullAnswer} (h : s.Follows c)
    (way : (Source.pull s).Comes true answer t) : answer = .error .cancelled ∧ t.Follows {} := by
  have continues : s.Continues true answer t := (pull_proceeds s).comes way
  obtain ⟨cancelled, stream, held, ready, ended⟩ := continues.cut rfl
  refine ⟨cancelled, ?_⟩
  cases h with
  | ended isOpen done =>
    have finished : s.pull = .done (.ok none) s := by simp [pull, isOpen, done]
    change s.pull.Comes true answer t at way
    rw [finished] at way
    cases way
  | @reads _ limit sound _ =>
    have limited : t.idleLimit = .ok limit := by
      rw [← sound.limited]
      simp only [idleLimit, continues.blocking, continues.idleTimeout]
    have follows := Follows.reads ⟨continues.isOpen.trans sound.isOpen, limited, sound.positive⟩ held
    have nothing : t.courseOf (stream.remaining limit) = {} := by
      simp [LiveStream.remaining, ended, ready, courseOf, course, Ending.course]
    rwa [nothing] at follows

theorem follows_pulled {c : Course} {answer : PullAnswer} (h : s.Follows c)
    (way : (Source.pull s).Comes false answer t) : t.Follows (c.behind 1) := by
  have finish := Pull.comes_iff_finish.mp way
  cases takes_pull s c h with
  | gives given rest =>
    cases given.symm.trans finish
    exact rest
  | ends given rest =>
    cases given.symm.trans finish
    exact rest
  | waits stuck => cases stuck.symm.trans finish

theorem pull_none_iff {c : Course} (h : s.Follows c)
    (given : ∀ answer ∈ c.answers, Course.isGiven answer = true) :
    (∃ cut t, (Source.pull s).Comes cut (.ok none) t) ↔ c.answers = [] ∧ c.waits = false := by
  constructor
  · rintro ⟨cut, t, way⟩
    cases cut with
    | true => cases (follows_cut h way).1
    | false =>
      have finish := Pull.comes_iff_finish.mp way
      cases takes_pull s c h with
      | gives answered rest =>
        cases answered.symm.trans finish
        exact absurd (given _ List.mem_cons_self) (by decide)
      | ends => exact ⟨rfl, rfl⟩
      | waits stuck => cases stuck.symm.trans finish
  · rintro ⟨none, ends⟩
    cases takes_pull s c h with
    | gives => cases none
    | ends answered => exact ⟨false, _, Pull.comes_iff_finish.mpr answered⟩
    | waits => cases ends

theorem pull_none_of_end (h : s.Follows {}) : ∃ cut t, (Source.pull s).Comes cut (.ok none) t :=
  (pull_none_iff h (by simp)).mpr ⟨rfl, rfl⟩

/-- The sources behind some pulls of a source, with the answers of these pulls; the flag tells whether
one of them was interrupted while it waited. -/
inductive Drawn (first : LiveSource) : List PullAnswer → Bool → LiveSource → Prop
  | opened : Drawn first [] false first
  | pulled {given late answer cut s t} (before : Drawn first given late s)
    (way : (Source.pull s).Comes cut answer t) : Drawn first (given ++ [answer]) (late || cut) t

theorem Drawn.follows {first : LiveSource} {c : Course} {given : List PullAnswer} {late : Bool}
    (opened : first.Follows c) (h : Drawn first given late s) :
    s.Follows (if late then {} else c.behind given.length) := by
  induction h with
  | opened => exact opened
  | @pulled given late answer cut s t before way ih =>
    cases cut with
    | true =>
      rw [Bool.or_true, if_pos rfl]
      exact (follows_cut ih way).2
    | false =>
      have follows := follows_pulled ih way
      rw [Bool.or_false, List.length_append, List.length_singleton]
      cases late with
      | true => exact follows
      | false =>
        rw [if_neg (by decide), Course.behind_behind] at follows
        exact follows

theorem drawn_of_ends {first : LiveSource} {c : Course} (opened : first.Follows c)
    (ends : c.waits = false) (n : Nat) : ∃ given s, Drawn first given false s ∧ given.length = n := by
  induction n with
  | zero => exact ⟨[], first, .opened, rfl⟩
  | succ n ih =>
    obtain ⟨given, s, drawn, length⟩ := ih
    have follows : s.Follows (c.behind given.length) := drawn.follows opened
    have onward {answer : PullAnswer} {t : LiveSource}
        (finish : (Source.pull s).finish = .answered answer t) :
        ∃ given s, Drawn first given false s ∧ given.length = n + 1 :=
      ⟨given ++ [answer], t, .pulled drawn (Pull.comes_iff_finish.mpr finish), by simp [length]⟩
    have going : (c.behind given.length).waits = false := ends
    generalize c.behind given.length = left at follows going
    cases takes_pull s left follows with
    | gives answered => exact onward answered
    | ends answered => exact onward answered
    | waits => cases going

theorem course_waits_iff (ending : Ending) : ending.course.waits = true ↔ ending = .endless := by
  cases ending <;> simp [Ending.course]

/-- Behind pulls of which none was interrupted, a course of lines is at its end once everything before
a message behind every window has been answered, or everything and the end of the reply. -/
theorem course_behind_iff (f : StreamFilters) (w : Watch) (t : Transmission) (n : Nat) :
    let left := (course f t.ending w t.lines).behind n
    left.answers = [] ∧ left.waits = false ↔
      (t.lines.any (isLast f) = true ∧ total f t.lines ≤ n) ∨
      (t.lines.any (isLast f) = false ∧ t.ending ≠ .endless ∧
        total f t.lines + t.ending.course.answers.length ≤ n) := by
  intro left
  have answered : left.answers = [] ↔ (course f t.ending w t.lines).answers.length ≤ n :=
    List.drop_eq_nil_iff
  have waits : left.waits = (closing f t).waits := waits_course t.ending w t.lines
  rw [answered, waits, length_course]
  unfold closing
  cases t.lines.any (isLast f) with
  | true => simp
  | false =>
    have ends : t.ending.course.waits = false ↔ t.ending ≠ .endless := by
      rw [← Bool.not_eq_true, course_waits_iff]
    simp only [Bool.false_eq_true, if_false, false_and, false_or, true_and, ends, and_comm]

section Blocking

variable {config : StreamConfig} {reply : Reply} (closed : s.isOpen = false)
  (unread : s.stream = none)
  (server : isWanted config.filters = true → s.server = .replies reply)
  (blocking : config.blocking = true) (opened : (s.start config).result = .ok ())

include closed server blocking opened in
theorem blocking_follows (wanted : isWanted config.filters = true) :
    (s.start config).source.Follows (course config.filters (reply.transmission none).ending
      s.watch (reply.transmission none).lines) := by
  have limited : (s.start config).source.idleLimit = .ok none := by
    obtain ⟨_, _, _, _, _, _, source⟩ := start_connected closed wanted (server wanted) opened
    rw [source]
    simp [idleLimit, blocking]
  exact start_follows closed wanted (server wanted) opened limited rfl

include closed unread server blocking opened in
theorem drawn_none_iff {given : List PullAnswer} {late : Bool} {u : LiveSource}
    (drawn : Drawn (s.start config).source given late u) :
    (∃ cut v, (Source.pull u).Comes cut (.ok none) v) ↔
      isWanted config.filters = false ∨ late = true ∨
      ((reply.transmission none).lines.any (isLast config.filters) = true ∧
        total config.filters (reply.transmission none).lines ≤ given.length) ∨
      ((reply.transmission none).lines.any (isLast config.filters) = false ∧
        (reply.transmission none).ending ≠ .endless ∧
        total config.filters (reply.transmission none).lines +
          (reply.transmission none).ending.course.answers.length ≤ given.length) := by
  cases wanted : isWanted config.filters with
  | false =>
    have follows := drawn.follows (start_unwanted closed unread wanted opened)
    rw [Course.behind_end, ite_self] at follows
    exact iff_of_true (pull_none_of_end follows) (.inl rfl)
  | true =>
    have follows := drawn.follows (blocking_follows closed server blocking opened wanted)
    cases late with
    | true => exact iff_of_true (pull_none_of_end follows) (.inr (.inl rfl))
    | false =>
      rw [if_neg (by decide)] at follows
      have answers := @course_given config.filters (reply.transmission none).ending s.watch
        (reply.transmission none).lines
      rw [pull_none_iff follows fun answer member => answers answer (List.mem_of_mem_drop member)]
      simp only [Bool.true_eq_false, Bool.false_eq_true, false_or]
      exact course_behind_iff config.filters s.watch (reply.transmission none) given.length

include closed unread server blocking opened in
/-- A reply that ends without a message behind every window is told, although no pull is interrupted. -/
theorem ended_reply_is_told (wanted : isWanted config.filters = true)
    (going : (reply.transmission none).lines.any (isLast config.filters) = false)
    (ended : (reply.transmission none).ending ≠ .endless) :
    ∃ given u cut v, Drawn (s.start config).source given false u ∧
      (Source.pull u).Comes cut (.ok none) v := by
  have follows := blocking_follows closed server blocking opened wanted
  have ends : (course config.filters (reply.transmission none).ending s.watch
      (reply.transmission none).lines).waits = false := by
    rw [waits_course]
    simpa [closing, going, ← course_waits_iff] using ended
  obtain ⟨given, u, drawn, length⟩ := drawn_of_ends follows ends
    (total config.filters (reply.transmission none).lines +
      (reply.transmission none).ending.course.answers.length)
  obtain ⟨cut, v, way⟩ := (drawn_none_iff closed unread server blocking opened drawn).mpr
    (.inr (.inr (.inr ⟨going, ended, Nat.le_of_eq length.symm⟩)))
  exact ⟨given, u, cut, v, drawn, way⟩

end Blocking

/-- A source that waits for new data tells the end of the data exactly if its filters exclude the feed,
or a pull has been interrupted before, or the lines before a message behind every window have been
answered, or the reply is at its end and everything in it has been answered. If no pull is interrupted,
the reasons are the first and the third alone exactly if the filters exclude the feed, or there is such
a message, or the reply does not end. -/
theorem blocking_end_iff {s : LiveSource} {config : StreamConfig} {reply : Reply}
    (closed : s.isOpen = false) (unread : s.stream = none)
    (server : isWanted config.filters = true → s.server = .replies reply)
    (blocking : config.blocking = true) (opened : (s.start config).result = .ok ()) :
    let f := config.filters
    let t := reply.transmission none
    let passed := t.lines.any (isLast f)
    (∀ given late u, Drawn (s.start config).source given late u →
      ((∃ cut v, (Source.pull u).Comes cut (.ok none) v) ↔
        isWanted f = false ∨ late = true ∨ (passed = true ∧ total f t.lines ≤ given.length) ∨
        (passed = false ∧ t.ending ≠ .endless ∧
          total f t.lines + t.ending.course.answers.length ≤ given.length))) ∧
    ((∀ given u cut v, Drawn (s.start config).source given false u →
        (Source.pull u).Comes cut (.ok none) v →
        isWanted f = false ∨ (passed = true ∧ total f t.lines ≤ given.length)) ↔
      isWanted f = false ∨ passed = true ∨ t.ending = .endless) := by
  intro f t passed
  have told {given : List PullAnswer} {late : Bool} {u : LiveSource}
      (drawn : Drawn (s.start config).source given late u) :=
    drawn_none_iff closed unread server blocking opened drawn
  refine ⟨fun given late u drawn => told drawn, fun promise => ?_, fun sound => ?_⟩
  · refine Classical.byContradiction fun unsound => ?_
    simp only [not_or, Bool.not_eq_false, Bool.not_eq_true] at unsound
    obtain ⟨wanted, going, ended⟩ := unsound
    -- this reply tells its end, and neither excuse holds for it
    obtain ⟨given, u, cut, v, drawn, way⟩ :=
      ended_reply_is_told closed unread server blocking opened wanted going ended
    rcases promise given u cut v drawn way with unwanted | ⟨stop, _⟩
    · cases unwanted.symm.trans wanted
    · cases going.symm.trans stop
  · intro given u cut v drawn way
    rcases (told drawn).mp ⟨cut, v, way⟩ with unwanted | late | read | ⟨going, ended, _⟩
    · exact .inl unwanted
    · cases late
    · exact .inr read
    · rcases sound with unwanted | stop | endless
      · exact .inl unwanted
      · cases going.symm.trans stop
      · exact absurd endless ended

/-- To wait for new data, and to let times from 0 to 9 through. -/
def patient : StreamConfig where
  filters := { windows := [⟨0, 9⟩] }
  blocking := true

theorem blocking_end_mixed :
    (¬ ∃ cut v, (Source.pull ((rehearsal mixedLines).start patient).source).Comes cut (.ok none) v) ∧
    ∀ given late u, Drawn ((rehearsal mixedLines).start patient).source given late u →
      ((∃ cut v, (Source.pull u).Comes cut (.ok none) v) ↔ late = true ∨ 3 ≤ given.length) := by
  have behind : ((rehearsalReply mixedLines).transmission none).lines.any (isLast patient.filters) =
      true := by decide +kernel
  have three : total patient.filters ((rehearsalReply mixedLines).transmission none).lines = 3 := by
    decide +kernel
  have wanted : isWanted patient.filters = true := by decide
  have ends := (@blocking_end_iff (rehearsal mixedLines) patient (rehearsalReply mixedLines)
    rfl rfl (fun _ => rfl) rfl (by rfl)).1
  simp only [behind, three, wanted, Bool.true_eq_false, false_or, true_and, false_and, or_false] at ends
  refine ⟨fun first => ?_, ends⟩
  simpa using (ends [] false _ .opened).mp first

/-- A reply without a line ends the data at once, although its filters let the feed through and no
message is behind the windows. -/
theorem complete_reply_ends_blocking_feed :
    isWanted patient.filters = true ∧ ((rehearsalReply []).transmission none).lines = [] ∧
      ((rehearsal []).start patient).result = .ok () ∧
      ((rehearsal []).start patient).source.blocking = true ∧
      Source.answers 1 ((rehearsal []).start patient).source = [.ok none] :=
  ⟨by decide, by decide +kernel, by rfl, by rfl, by rfl⟩

end LiveSource
end RouteFeed
