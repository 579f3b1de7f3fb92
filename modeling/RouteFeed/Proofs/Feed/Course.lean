import RouteFeed.Proofs.Feed.Arrival
import RouteFeed.Proofs.Pull

/-! The answers of a live feed from the lines of its reply. Each line is read by itself; between two
lines only the time of the last message is kept, and the clock goes on. -/
namespace RouteFeed

open Live

namespace Live

/-- What a line of a reply comes to; a blank one comes to nothing. -/
def reading (line : List Char) : Reading :=
  if line.all Text.isBlank then .nothing else readLine line

/-- The course of a feed whose reply is at its end. -/
def Ending.course : Ending → Course
  | .closed | .silent => {}
  | .endless => { waits := true }
  | .failed f => { answers := [.error (LiveSource.readError f)] }

/-- The course of a feed, by its watch and the lines that are still to come. -/
def course (f : StreamFilters) (ending : Ending) : Watch → List (List Char) → Course
  | _, [] => ending.course
  | w, line :: lines =>
    match reading line with
    | .nothing => course f ending w lines
    | .fails failure time => (course f ending (w.hear time) lines).after (.error failure)
    | .broken _ time =>
      (course f ending (w.hear time).tick lines).after (.ok (some (w.hear time).standIn))
    | .record r =>
      match LiveSource.verdict f r with
      | .skip => course f ending (w.hear r.time) lines
      | .give => (course f ending (w.hear r.time) lines).after (.ok (some r))
      | .stop _ => {}

end Live

namespace LiveSource

def dated (s : LiveSource) (w : Watch) : LiveSource := { s with watch := w }

def courseOf (s : LiveSource) (t : Transmission) : Course :=
  course s.filters t.ending s.watch t.lines

@[simp] theorem courseOf_release (s : LiveSource) (index : Nat) (t : Transmission) :
    (s.release index).courseOf t = s.courseOf t := rfl

theorem scan_cons (s : LiveSource) (line : List Char) (lines : List (List Char)) :
    s.scan (line :: lines) =
      match reading line with
      | .nothing => s.scan lines
      | .fails f time => .ends (.error f) (s.stamp time) lines []
      | .broken entry time =>
        .ends (.ok (some (s.watch.hear time).standIn)) (s.dated (s.watch.hear time).tick) lines
          [entry]
      | .record r =>
        match verdict s.filters r with
        | .skip => (s.stamp r.time).scan lines
        | .give => .ends (.ok (some r)) (s.stamp r.time) lines []
        | .stop lastEnd =>
          .passed (s.stamp r.time)
            [.info "All time windows have passed" [("last_end", .int lastEnd)]] := by
  unfold reading
  by_cases blank : line.all Text.isBlank
  · simp only [scan, blank, if_true]
  · simp only [scan, blank, Bool.false_eq_true, if_false]
    rfl

/-- The outcome of a scan of some lines agrees with a course if a transmission comes after them. -/
inductive Scan.Agrees (s : LiveSource) (t : Transmission) : Course → Scan → Prop
  | ends {answer left log} (w : Watch) :
    Agrees s t (((s.dated w).courseOf (t.after left)).after answer)
      (.ends answer (s.dated w) left log)
  | passed {log} (w : Watch) : Agrees s t {} (.passed (s.dated w) log)
  | dry {log} (w : Watch) : Agrees s t ((s.dated w).courseOf t) (.dry (s.dated w) log)

theorem Scan.Agrees.of_dated {s : LiveSource} {w : Watch} {t : Transmission} {c : Course}
    {scan : Scan} (h : Agrees (s.dated w) t c scan) : Agrees s t c scan := by
  cases h with
  | ends w => exact .ends w
  | passed w => exact .passed w
  | dry w => exact .dry w

theorem scan_agrees (s : LiveSource) (lines : List (List Char)) (t : Transmission) :
    (s.scan lines).Agrees s t (s.courseOf (t.after lines)) := by
  induction lines generalizing s with
  | nil => exact Scan.Agrees.dry s.watch
  | cons line lines ih =>
    simp only [scan_cons, courseOf, Transmission.after_lines, Transmission.after_ending,
      List.cons_append, course] at ih ⊢
    cases reading line with
    | nothing => exact ih s
    | fails failure time => exact .ends (s.watch.hear time)
    | broken entry time => exact .ends (s.watch.hear time).tick
    | record r =>
      cases hv : verdict s.filters r with
      | skip =>
        simp only [hv]
        exact Scan.Agrees.of_dated (ih (s.stamp r.time))
      | give =>
        simp only [hv]
        exact .ends (s.watch.hear r.time)
      | stop lastEnd =>
        simp only [hv]
        exact .passed (s.watch.hear r.time)

structure Ready (s : LiveSource) (limit : Option Number.Binary64) : Prop where
  isOpen : s.isOpen = true
  limited : s.idleLimit = .ok limit
  positive : limit.any isNotPositive = false

/-- An open source takes the course of what is left of its reply; without a reply it is at its
end. -/
inductive Follows : LiveSource → Course → Prop
  | ended {s} (isOpen : s.isOpen = true) (done : s.stream = none) : Follows s {}
  | reads {s stream limit} (ready : s.Ready limit) (held : s.stream = some stream) :
    Follows s (s.courseOf (stream.remaining limit))

theorem finish_reporting (log : Log) (p : Pull LiveSource) :
    (reporting log p).finish = p.finish := by
  induction log with
  | nil => rfl
  | cons entry log ih => exact ih

theorem takes_idle {s : LiveSource} {limit : Option Number.Binary64} (h : s.Ready limit) :
    Source.Takes Follows s.idle {} :=
  .ends rfl (.ended h.isOpen rfl)

/-- Nothing comes any more from a reply that is at its end. -/
theorem follows_broken {s : LiveSource} {limit : Option Number.Binary64} (h : s.Ready limit)
    (stream : LiveStream) : (s.broken stream).Follows {} :=
  have hr : (s.broken stream).Ready limit := ⟨h.isOpen, h.limited, h.positive⟩
  Follows.reads hr rfl

/-- A failure to read ends a pull, and nothing comes behind it. -/
theorem takes_readFailure {s : LiveSource} {limit : Option Number.Binary64} (h : s.Ready limit)
    (stream : LiveStream) (f : Failure) :
    Source.Takes Follows (s.readFailure stream f) (Ending.ofFailure f).course := by
  unfold readFailure Ending.ofFailure
  by_cases timeout : f.kind = .timeout
  · rw [if_pos timeout, if_pos timeout]
    exact takes_idle h
  · rw [if_neg timeout, if_neg timeout]
    exact Source.Takes.gives (Pull.finish_done _ _) (follows_broken h stream)

theorem takes_starved {s : LiveSource} {limit : Option Number.Binary64} (h : s.Ready limit)
    (stream : LiveStream) :
    Source.Takes Follows (s.starved limit stream) (Ending.ofSilence limit).course := by
  unfold starved Ending.ofSilence
  by_cases forever : limit.all (· = .infinite false)
  · rw [if_pos forever, if_pos forever]
    exact .waits rfl
  · rw [if_neg forever, if_neg forever]
    exact Source.Takes.of_finish (Pull.finish_pause _ _ _) (takes_idle h)

/-- A pull that goes through some lines takes the course in which they come before what it does
when they are used up. -/
theorem takes_conclude {s : LiveSource} {limit : Option Number.Binary64} (h : s.Ready limit)
    (stream : LiveStream) (lines : List (List Char)) (t : Transmission)
    (onward : LiveSource → Pull LiveSource)
    (left : ∀ left, ({ stream with ready := left } : LiveStream).remaining limit = t.after left)
    (dry : ∀ w, Source.Takes Follows
      (onward { s.dated w with stream := some { stream with ready := [] } })
      ((s.dated w).courseOf t)) :
    Source.Takes Follows (conclude stream (s.scan lines) onward) (s.courseOf (t.after lines)) := by
  have hs := scan_agrees s lines t
  generalize s.courseOf (t.after lines) = c at hs ⊢
  generalize s.scan lines = r at hs ⊢
  cases hs with
  | @ends answer rest log w =>
    have hr : ({ s.dated w with stream := some { stream with ready := rest } } : LiveSource).Ready
        limit := ⟨h.isOpen, h.limited, h.positive⟩
    have hf := Follows.reads hr rfl
    rw [left rest] at hf
    exact Source.Takes.of_finish (finish_reporting log _) (.gives (Pull.finish_done _ _) hf)
  | @passed log w =>
    exact Source.Takes.of_finish (finish_reporting log _)
      (.ends (Pull.finish_done _ _) (.ended h.isOpen rfl))
  | @dry log w => exact Source.Takes.of_finish (finish_reporting log _) (dry w)

theorem takes_read {limit : Option Number.Binary64} (stream : LiveStream) (s : LiveSource)
    (time : Number.Duration) (arrivals : List Arrival) (h : s.Ready limit)
    (going : stream.ended = false) :
    Source.Takes Follows (read limit stream s time arrivals)
      (s.courseOf (.ofArrivals limit stream.decoder stream.splitter time arrivals)) := by
  -- on what is still to come; decoder, splitter, memory and time are carried along
  induction arrivals generalizing stream s time with
  | nil =>
    have hr : (s.release stream.index).Ready limit := ⟨h.isOpen, h.limited, h.positive⟩
    unfold read Transmission.ofArrivals
    cases hf : stream.decoder.flush with
    | error f => exact takes_readFailure hr stream f
    | ok text =>
      have hc := takes_conclude hr
        { stream with rest := [], ended := true, splitter := (stream.splitter.feed text).2 }
        ((stream.splitter.feed text).1 ++ (stream.splitter.feed text).2.flush)
        { ending := .closed } (fun s => .done (.ok none) s.finished)
        (fun left => by simp [LiveStream.remaining, Transmission.after])
        (fun w => .ends (Pull.finish_done _ _) (.ended h.isOpen rfl))
      simpa [Transmission.after] using hc
  | cons arrival rest ih =>
    cases arrival with
    | bytes bs =>
      unfold read Transmission.ofArrivals
      cases hf : stream.decoder.feed bs with
      | error f => exact takes_readFailure h stream f
      | ok fed =>
        obtain ⟨text, decoder⟩ := fed
        dsimp only
        generalize stream.splitter.feed text = split
        obtain ⟨lines, splitter⟩ := split
        have onward (time : Number.Duration) (w : Watch) :=
          ih { stream with rest, decoder, splitter }
            { s.dated w with
              stream := some { stream with rest, decoder, splitter, ready := [] } }
            time ⟨h.isOpen, h.limited, h.positive⟩ going
        cases lines with
        | nil => exact onward time s.watch
        | cons line lines =>
          -- a line sets the time without data back
          refine takes_conclude h _ (line :: lines) _ _ (fun left => ?_) (onward .zero)
          simp [LiveStream.remaining, going]
    | fails f => exact takes_readFailure h stream f
    | stalls => exact takes_starved h stream
    | pauses length =>
      unfold read Transmission.ofArrivals
      by_cases soon : limit.all (time.add length).below
      · have hp := ih { stream with rest } { s with stream := some { stream with rest } }
          (time.add length) ⟨h.isOpen, h.limited, h.positive⟩ going
        simp only [soon, if_true]
        exact Source.Takes.of_finish (Pull.finish_pause _ _ _) hp
      · simp only [soon, Bool.false_eq_true, if_false]
        have hr : ({ s with stream := some { stream with rest } } : LiveSource).Ready limit :=
          ⟨h.isOpen, h.limited, h.positive⟩
        exact Source.Takes.of_finish (Pull.finish_pause _ _ _) (takes_idle hr)
    | signals =>
      have hs := takes_starved h stream
      exact hs.of_finish (Pull.finish_notice _ _)

theorem takes_pull (s : LiveSource) (c : Course) (h : s.Follows c) :
    Source.Takes Follows (Source.pull s) c := by
  change Source.Takes Follows s.pull c
  cases h with
  | ended isOpen done =>
    have hp : s.pull = .done (.ok none) s := by simp [pull, isOpen, done]
    rw [hp]
    exact .ends (Pull.finish_done _ _) (.ended isOpen done)
  | @reads stream limit ready held =>
    have hp : s.pull = conclude stream (s.scan stream.ready) fun s =>
        if stream.ended then .done (.ok none) s.finished
        else read limit { stream with ready := [] } s .zero stream.rest := by
      simp [pull, ready.isOpen, held, ready.limited, ready.positive]
    rw [hp]
    unfold LiveStream.remaining
    cases ended : stream.ended with
    | true =>
      have hc := takes_conclude ready stream stream.ready { ending := .closed }
        (fun s => .done (.ok none) s.finished)
        (fun left => by simp [LiveStream.remaining, Transmission.after, ended])
        (fun w => .ends (Pull.finish_done _ _) (.ended ready.isOpen rfl))
      simpa [Transmission.after] using hc
    | false =>
      refine takes_conclude ready stream stream.ready _ _ (fun left => ?_) (fun w => ?_)
      · simp [LiveStream.remaining, ended]
      · rw [if_neg (by decide)]
        exact takes_read { stream with ready := [], ended := false } _ _ _
          ⟨ready.isOpen, ready.limited, ready.positive⟩ rfl

theorem answers_eq_course {s : LiveSource} {c : Course} (h : s.Follows c) (n : Nat) :
    Source.answers n s = c.first n :=
  Source.answers_eq_first takes_pull n h

end LiveSource
end RouteFeed
