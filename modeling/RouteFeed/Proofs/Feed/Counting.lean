import RouteFeed.Proofs.Feed.Records

/-! How many answers the lines of a reply give. A line gives one answer or none, whatever is remembered
from the lines before it, so that lines which give more answers in all give other answers. -/
namespace RouteFeed

namespace Course

def isGiven : PullAnswer → Bool
  | .ok none => false
  | _ => true

theorem filter_first {c : Course} (ends : c.waits = false)
    (given : ∀ answer ∈ c.answers, isGiven answer = true) (n : Nat) :
    (c.first (c.answers.length + n)).filter isGiven = c.answers := by
  have start : c.answers.take (c.answers.length + n) = c.answers :=
    List.take_of_length_le (Nat.le_add_right _ _)
  have whole : c.first (c.answers.length + n) = c.answers ++ List.replicate n (.ok none) := by
    simp [first, ends, List.take_append, List.take_replicate, start]
  have rest : (List.replicate n (Except.ok none : PullAnswer)).filter isGiven = [] := by
    simp [isGiven]
  rw [whole, List.filter_append, rest, List.append_nil]
  exact List.filter_eq_self.mpr given

/-- Courses that end give the same answers to every number of pulls only if they give as many. -/
theorem length_of_first {c d : Course} (c_ends : c.waits = false) (d_ends : d.waits = false)
    (c_given : ∀ answer ∈ c.answers, isGiven answer = true)
    (d_given : ∀ answer ∈ d.answers, isGiven answer = true)
    (same : ∀ n, c.first n = d.first n) : c.answers.length = d.answers.length := by
  have equal := same (c.answers.length + d.answers.length)
  have left := filter_first c_ends c_given d.answers.length
  have right := filter_first d_ends d_given c.answers.length
  rw [Nat.add_comm, ← equal, left] at right
  rw [right]

end Course

namespace Live

variable (f : StreamFilters)

def gives (line : List Char) : Bool :=
  match reading line with
  | .nothing => false
  | .fails _ _ | .broken _ _ => true
  | .record r => decide (Admitted f r)

/-- How many answers lines give in all. -/
def total (lines : List (List Char)) : Nat := (considered f lines).countP (gives f)

/-- The lines up to the first message behind every window, and that message. -/
def examined (lines : List (List Char)) : List (List Char) :=
  lines.take ((considered f lines).length + 1)

variable {f} {line : List Char} {lines : List (List Char)}

theorem considered_last (stop : isLast f line = true) : considered f (line :: lines) = [] := by
  simp [considered, stop]

theorem considered_append {earlier : List (List Char)}
    (going : ∀ line ∈ earlier, isLast f line = false) (lines : List (List Char)) :
    considered f (earlier ++ lines) = earlier ++ considered f lines :=
  List.takeWhile_append_of_pos fun line member => by simp [going line member]

theorem examined_last (stop : isLast f line = true) : examined f (line :: lines) = [line] := by
  simp [examined, considered_last stop]

theorem examined_cons (going : isLast f line = false) :
    examined f (line :: lines) = line :: examined f lines := by
  have split := @considered_append f [line] (by simpa using going) lines
  rw [List.singleton_append] at split
  simp [examined, split]

theorem total_last (stop : isLast f line = true) : total f (line :: lines) = 0 := by
  simp [total, considered_last stop]

theorem total_append {earlier : List (List Char)}
    (going : ∀ line ∈ earlier, isLast f line = false) (lines : List (List Char)) :
    total f (earlier ++ lines) = earlier.countP (gives f) + total f lines := by
  rw [total, considered_append going, List.countP_append, total]

theorem total_cons (going : isLast f line = false) :
    total f (line :: lines) = [line].countP (gives f) + total f lines :=
  @total_append f [line] (by simpa using going) lines

theorem course_last (stop : isLast f line = true) (ending : Ending) (w : Watch) :
    course f ending w (line :: lines) = {} := by
  obtain ⟨r, e, read, verdict⟩ := reading_of_last stop
  simp [course, read, verdict]

/-- What is behind a line has a part in the course only if the line does not end the feed. -/
theorem course_cons_congr {ending : Ending} {others : List (List Char)}
    (same : isLast f line = false → ∀ w, course f ending w lines = course f ending w others)
    (w : Watch) : course f ending w (line :: lines) = course f ending w (line :: others) := by
  cases stop : isLast f line with
  | true => rw [course_last stop, course_last stop]
  | false =>
    simp only [course, same stop]

theorem closing_nil (f : StreamFilters) (ending : Ending) :
    closing f { lines := [], ending } = ending.course := rfl

theorem closing_last (stop : isLast f line = true) (ending : Ending) :
    closing f { lines := line :: lines, ending } = {} := by
  simp [closing, stop]

theorem closing_cons (going : isLast f line = false) (ending : Ending) :
    closing f { lines := line :: lines, ending } = closing f { lines, ending } := by
  simp [closing, going]

theorem length_course (ending : Ending) (w : Watch) (lines : List (List Char)) :
    (course f ending w lines).answers.length =
      total f lines + (closing f { lines, ending }).answers.length := by
  induction lines generalizing w with
  | nil => simp [course, closing_nil, total, considered]
  | cons line lines ih =>
    cases stop : isLast f line with
    | true =>
      rw [course_last stop, total_last stop, closing_last stop]
      rfl
    | false =>
      rw [total_cons stop, closing_cons stop, course, List.countP_singleton, gives]
      cases read : reading line with
      | nothing => simp [ih]
      | fails failure time => simp [Course.after, ih, Nat.add_comm, Nat.add_assoc]
      | broken entry time => simp [Course.after, ih, Nat.add_comm, Nat.add_assoc]
      | record r =>
        have verdict := verdict_of_going stop read
        by_cases admitted : Admitted f r
        · simp [verdict, admitted, Course.after, ih, Nat.add_comm, Nat.add_assoc]
        · simp [verdict, admitted, ih]

/-- It ends as the reply does, unless a message behind every window comes before. -/
theorem waits_course (ending : Ending) (w : Watch) (lines : List (List Char)) :
    (course f ending w lines).waits = (closing f { lines, ending }).waits := by
  induction lines generalizing w with
  | nil => rfl
  | cons line lines ih =>
    cases stop : isLast f line with
    | true => rw [course_last stop, closing_last stop]
    | false =>
      rw [closing_cons stop, course]
      cases read : reading line with
      | nothing => exact ih w
      | fails failure time => exact ih _
      | broken entry time => exact ih _
      | record r =>
        have verdict := verdict_of_going stop read
        by_cases admitted : Admitted f r
        · simpa [verdict, admitted, Course.after] using ih _
        · simpa [verdict, admitted] using ih _

theorem Ending.course_given (ending : Ending) :
    ∀ answer ∈ ending.course.answers, Course.isGiven answer = true := by
  cases ending <;> simp [Ending.course, Course.isGiven]

/-- The end of the data is told only by the end of the course. -/
theorem course_given (ending : Ending) (w : Watch) (lines : List (List Char)) :
    ∀ answer ∈ (course f ending w lines).answers, Course.isGiven answer = true := by
  induction lines generalizing w with
  | nil => exact ending.course_given
  | cons line lines ih =>
    rw [course]
    cases reading line with
    | nothing => exact ih w
    | fails failure time => exact List.forall_mem_cons.mpr ⟨rfl, ih _⟩
    | broken entry time => exact List.forall_mem_cons.mpr ⟨rfl, ih _⟩
    | record r =>
      cases verdict : LiveSource.verdict f r with
      | skip => simpa only [verdict] using ih _
      | give =>
        simp only [verdict]
        exact List.forall_mem_cons.mpr ⟨rfl, ih _⟩
      | stop lastEnd => simp [verdict]

theorem closing_closed (f : StreamFilters) (lines : List (List Char)) :
    closing f { lines, ending := .closed } = {} := by
  simp [closing, Ending.course]

/-- Lines of complete replies that give the same answers to every number of pulls give as many. -/
theorem total_of_first {w : Watch} {others : List (List Char)}
    (same : ∀ n, (course f .closed w lines).first n =
      (course f .closed w others).first n) : total f lines = total f others := by
  have ends (lines : List (List Char)) : (course f .closed w lines).waits = false := by
    rw [waits_course, closing_closed]
  have length (lines : List (List Char)) :
      (course f .closed w lines).answers.length = total f lines := by
    rw [length_course, closing_closed]
    rfl
  have given (lines : List (List Char)) := @course_given f .closed w lines
  rw [← length lines, ← length others]
  exact Course.length_of_first (ends lines) (ends others) (given lines) (given others) same

end Live
end RouteFeed
