import Mathlib.Data.List.Induction
import RouteFeed.Proofs.Archive.Readings
import RouteFeed.Proofs.Retrieval.Entries

/-! Cursors over a record with a stored payload. A cursor that is opened while the record is valid and
has not been released walks the whole payload by itself, whatever the others do and whatever becomes of
the record; any other cursor is at its end from the beginning. -/
namespace RouteFeed

namespace Record

def holding (r : Record) (es : List Element) : Record := { r with payload := .stored es }

inductive Act where
  | next
  | drain
  | close

/-- What an act gives if there are just these elements ahead, and what is ahead behind it. -/
def Act.on : Act → List Element → Reply × List Element
  | next, e :: es => (.element (.ok (some e)), es)
  | next, [] => (.element (.ok none), [])
  | drain, es => (.elements (.ok es), [])
  | close, _ => (.closed, [])

/-- What acts give one after another, if nobody else takes of the elements. -/
def alone : List Element → List Act → List Reply
  | _, [] => []
  | es, a :: acts => (a.on es).1 :: alone (a.on es).2 acts

namespace Reply

def yielded : Reply → List Element
  | element (.ok (some e)) => [e]
  | elements (.ok es) => es
  | _ => []

def Ends : Reply → Prop
  | element (.ok none) | elements (.ok _) | closed => True
  | _ => False

def Empty : Reply → Prop
  | element (.ok none) | elements (.ok []) | closed => True
  | _ => False

end Reply

def Use.act? (i : Nat) : Use → Option Act
  | opens => none
  | next j => if j = i then some .next else none
  | drains j => if j = i then some .drain else none
  | closes j => if j = i then some .close else none

inductive Event where
  | use (u : Use)
  | mark (status : RecordStatus)
  | release
  deriving DecidableEq

namespace Event

def act? (i : Nat) : Event → Option Act
  | use u => u.act? i
  | _ => none

def status? : Event → Option RecordStatus
  | mark status => some status
  | _ => none

end Event

namespace Reading

def behind (s : Reading) : Event → Reading
  | .use u => (s.use u).2
  | .mark status => { s with record := { s.record with status } }
  | .release => { s with record := s.record.release }

def answers : Reading → List Event → List (Use × Reply)
  | _, [] => []
  | s, .use u :: events => (u, (s.use u).1) :: (s.use u).2.answers events
  | s, e :: events => (s.behind e).answers events

/-- The replies to those who use one of the cursors. -/
def repliesTo (i : Nat) (answers : List (Use × Reply)) : List Reply :=
  answers.filterMap fun a => (a.1.act? i).map fun _ => a.2

end Reading

/-- The replies of a cursor that walks over some elements: each in order and once, all of them if it is
not closed before its end, and nothing behind its end. -/
structure Walks (es : List Element) (acts : List Act) (replies : List Reply) : Prop where
  alone : replies = alone es acts
  once : replies.flatMap Reply.yielded <+: es
  whole : .close ∉ acts → (∃ y ∈ replies, y.Ends) → replies.flatMap Reply.yielded = es
  final : ∀ before y behind, replies = before ++ y :: behind → y.Ends → ∀ z ∈ behind, z.Empty

variable {es : List Element} {a : Act} {acts : List Act}

theorem on_yielded (a : Act) (es : List Element) : (a.on es).1.yielded ++ (a.on es).2 <+: es := by
  cases a with
  | next =>
    cases es with
    | nil => exact List.prefix_rfl
    | cons e es => exact List.prefix_rfl
  | drain => simp [Act.on, Reply.yielded]
  | close => exact List.nil_prefix

theorem on_open (es : List Element) (still : a ≠ .close) :
    (a.on es).1.yielded ++ (a.on es).2 = es := by
  cases a with
  | next => cases es <;> rfl
  | drain => simp [Act.on, Reply.yielded]
  | close => exact absurd rfl still

theorem on_ends (ends : (a.on es).1.Ends) : (a.on es).2 = [] := by
  cases a with
  | next =>
    cases es with
    | nil => rfl
    | cons e es => cases ends
  | drain => rfl
  | close => rfl

theorem empty_of_alone_nil {y : Reply} (mem : y ∈ alone [] acts) : y.Empty := by
  induction acts with
  | nil => cases mem
  | cons a acts ih =>
    have stays : (a.on []).1.Empty ∧ (a.on []).2 = [] := by cases a <;> exact ⟨trivial, rfl⟩
    rw [alone, stays.2] at mem
    rcases List.mem_cons.mp mem with rfl | later
    · exact stays.1
    · exact ih later

theorem alone_once (es : List Element) (acts : List Act) :
    (alone es acts).flatMap Reply.yielded <+: es := by
  induction acts generalizing es with
  | nil => exact List.nil_prefix
  | cons a acts ih =>
    rw [alone, List.flatMap_cons]
    exact ((List.prefix_append_right_inj _).mpr (ih _)).trans (on_yielded a es)

theorem alone_whole (still : .close ∉ acts) (ended : ∃ y ∈ alone es acts, y.Ends) :
    (alone es acts).flatMap Reply.yielded = es := by
  induction acts generalizing es with
  | nil =>
    obtain ⟨y, mem, _⟩ := ended
    cases mem
  | cons a acts ih =>
    obtain ⟨here, others⟩ := List.ne_and_not_mem_of_not_mem_cons still
    have taken : (a.on es).1.yielded ++ (a.on es).2 = es := on_open es here.symm
    rw [alone, List.flatMap_cons]
    have later : (alone (a.on es).2 acts).flatMap Reply.yielded = (a.on es).2 := by
      obtain ⟨y, mem, ends⟩ := ended
      rcases List.mem_cons.mp mem with rfl | mem
      · rw [on_ends ends]
        exact List.prefix_nil.mp (alone_once [] acts)
      · exact ih others ⟨y, mem, ends⟩
    rw [later, taken]

theorem alone_final {before behind : List Reply} {y : Reply}
    (given : alone es acts = before ++ y :: behind) (ends : y.Ends) : ∀ z ∈ behind, z.Empty := by
  induction acts generalizing es before with
  | nil => cases before <;> cases given
  | cons a acts ih =>
    cases before with
    | nil =>
      obtain ⟨rfl, rfl⟩ := List.cons.inj given
      rw [on_ends ends]
      exact fun z => empty_of_alone_nil
    | cons x before => exact ih (List.cons.inj given).2

theorem alone_walks (es : List Element) (acts : List Act) : Walks es acts (alone es acts) :=
  ⟨rfl, alone_once es acts, alone_whole, fun _ _ _ => alone_final⟩

def Stands (c : Cursor) (es : List Element) : Prop :=
  c = .walking (es.map some) ∨ c = .finished ∧ es = []

theorem Stands.next {c : Cursor} (stands : Stands c es) (r : Record) :
    Reply.element (r.next c).1 = (Act.next.on es).1 ∧
      Stands (r.next c).2.1 (Act.next.on es).2 := by
  rcases stands with rfl | ⟨rfl, rfl⟩
  · cases es with
    | nil => exact ⟨rfl, .inr ⟨rfl, rfl⟩⟩
    | cons e es => exact ⟨rfl, .inl rfl⟩
  · exact ⟨rfl, .inr ⟨rfl, rfl⟩⟩

theorem Stands.drain {c : Cursor} (stands : Stands c es) (r : Record) : (r.drain c).1 = .ok es := by
  rcases stands with rfl | ⟨rfl, rfl⟩
  · exact congrArg Except.ok (upToGap_some es)
  · rfl

namespace Reading

variable {s : Reading} {u : Use} {i : Nat} {c : Cursor}

theorem use_other (here : i < s.cursors.length) (other : u.act? i = none) :
    (s.use u).2.cursors[i]? = s.cursors[i]? := by
  cases u with
  | opens =>
    unfold use
    generalize s.record.openCursor = o
    obtain ⟨_ | _, _⟩ := o
    · rfl
    · exact List.getElem?_append_left here
  | next j | drains j | closes j =>
    have ne : j ≠ i := fun same => by simp [Use.act?, same] at other
    exact List.getElem?_set_ne ne

theorem use_own (here : s.cursors[i]? = some c) (stands : Stands c es) (own : u.act? i = some a) :
    (s.use u).1 = (a.on es).1 ∧
      ∃ d, (s.use u).2.cursors[i]? = some d ∧ Stands d (a.on es).2 := by
  have got : s.cursors.getD i .finished = c := by rw [List.getD, here]; rfl
  have put (d : Cursor) : (s.cursors.set i d)[i]? = some d :=
    List.getElem?_set_self (List.getElem?_eq_some_iff.mp here).1
  cases u with
  | opens => cases own
  | next j =>
    obtain ⟨rfl, rfl⟩ : j = i ∧ Act.next = a := by simpa [Use.act?] using own
    obtain ⟨reply, left⟩ := stands.next s.record
    rw [← got] at reply left
    exact ⟨reply, _, put _, left⟩
  | drains j =>
    obtain ⟨rfl, rfl⟩ : j = i ∧ Act.drain = a := by simpa [Use.act?] using own
    have reply := stands.drain s.record
    rw [← got] at reply
    exact ⟨congrArg Reply.elements reply, _, put _, .inr ⟨rfl, rfl⟩⟩
  | closes j =>
    obtain ⟨rfl, rfl⟩ : j = i ∧ Act.close = a := by simpa [Use.act?] using own
    exact ⟨rfl, _, put _, .inr ⟨rfl, rfl⟩⟩

/-- Whatever happens, those who use a cursor get what it would give alone. -/
theorem repliesTo_answers {events : List Event} (here : s.cursors[i]? = some c)
    (stands : Stands c es) :
    repliesTo i (s.answers events) = alone es (events.filterMap (Event.act? i)) := by
  induction events generalizing s c es with
  | nil => rfl
  | cons e events ih =>
    cases e with
    | mark status => exact ih here stands
    | release => exact ih here stands
    | use u =>
      cases own : u.act? i with
      | none =>
        -- what is done with another cursor leaves this one where it stands
        have open_ : i < s.cursors.length := (List.getElem?_eq_some_iff.mp here).1
        have kept : (s.use u).2.cursors[i]? = some c := (use_other open_ own).trans here
        have rest := ih kept stands
        simpa [answers, repliesTo, Event.act?, own] using rest
      | some a =>
        obtain ⟨reply, d, there, left⟩ := use_own here stands own
        have rest := ih there left
        simpa [answers, repliesTo, Event.act?, own, alone, reply] using rest

end Reading

theorem openCursor_stands {r : Record} {released : Prop} [Decidable released]
    (payload : r.payload = if released then .none else .stored es) :
    ∃ c, r.openCursor = (.ok c, r) ∧
      Stands c (if r.status = .valid ∧ ¬released then es else []) := by
  by_cases valid : r.status = .valid
  · by_cases gone : released
    · rw [if_pos gone] at payload
      exact ⟨.walking [], by simp [openCursor, payload], .inl (by simp [gone])⟩
    · rw [if_neg gone] at payload
      refine ⟨_, openCursor_stored (by simp [isValid, valid]) payload, .inl ?_⟩
      rw [if_pos ⟨valid, gone⟩]
  · exact ⟨.walking [], by simp [openCursor, isValid, valid], .inl (by simp [valid])⟩

def statusBehind (first : RecordStatus) (events : List Event) : RecordStatus :=
  (events.filterMap Event.status?).getLast?.getD first

theorem statusBehind_concat (first : RecordStatus) (events : List Event) (e : Event) :
    statusBehind first (events ++ [e]) = e.status?.getD (statusBehind first events) := by
  cases e <;> simp [statusBehind, Event.status?]

namespace Reading

/-- A record that held the elements first is read, and these events have happened to it. -/
structure Stocked (first : RecordStatus) (es : List Element) (events : List Event) (s : Reading) :
    Prop where
  status : s.record.status = statusBehind first events
  payload : s.record.payload = if .release ∈ events then .none else .stored es
  cursors : s.cursors.length = events.count (.use .opens)

variable {s : Reading} {first : RecordStatus} {events : List Event}

theorem Stocked.opens (stocked : Stocked first es events s) :
    ∃ c, s.use .opens = (.opened (.ok c), ⟨s.record, s.cursors ++ [c]⟩) ∧
      Stands c (if statusBehind first events = .valid ∧ .release ∉ events then es else []) := by
  obtain ⟨c, opened, stands⟩ := openCursor_stands stocked.payload
  rw [stocked.status] at stands
  exact ⟨c, by rw [use, opened], stands⟩

theorem Stocked.use (stocked : Stocked first es events s) (u : Use) :
    (s.use u).2.record.status = s.record.status ∧ (s.use u).2.record.payload = s.record.payload ∧
      (s.use u).2.cursors.length = s.cursors.length + [u].count .opens := by
  by_cases opens : u = .opens
  · subst opens
    obtain ⟨c, opened, _⟩ := stocked.opens
    rw [opened]
    exact ⟨rfl, rfl, List.length_append⟩
  · obtain ⟨_, feed, same⟩ := s.use_feed opens
    have count : (s.use u).2.cursors.length = s.cursors.length := by
      cases u with
      | opens => exact absurd rfl opens
      | next i | drains i | closes i => exact List.length_set
    rw [same, count]
    exact ⟨rfl, rfl, by simp [opens]⟩

theorem Stocked.behind (stocked : Stocked first es events s) (e : Event) :
    Stocked first es (events ++ [e]) (s.behind e) := by
  have status := stocked.status
  have payload := stocked.payload
  have cursors := stocked.cursors
  cases e with
  | mark new =>
    exact ⟨by simp [statusBehind_concat, Event.status?, Reading.behind],
      by simpa [Reading.behind] using payload, by simpa [Reading.behind] using cursors⟩
  | release =>
    exact ⟨by simp [statusBehind_concat, Event.status?, Reading.behind, Record.release, status],
      by simp [Reading.behind, Record.release], by simpa [Reading.behind] using cursors⟩
  | use u =>
    obtain ⟨sameStatus, samePayload, count⟩ := stocked.use u
    refine ⟨?_, ?_, ?_⟩
    · rw [Reading.behind, sameStatus, status, statusBehind_concat]
      rfl
    · rw [Reading.behind, samePayload, payload]
      simp
    · rw [Reading.behind, count, cursors]
      cases u <;> simp

theorem stocked_foldl (r : Record) (es : List Element) (events : List Event) :
    Stocked r.status es events
      (events.foldl Reading.behind ⟨r.holding es, []⟩) := by
  induction events using List.reverseRecOn with
  | nil => exact ⟨rfl, rfl, rfl⟩
  | append_singleton events e ih =>
    rw [List.foldl_append]
    exact ih.behind e

theorem answers_append (s : Reading) (events more : List Event) :
    s.answers (events ++ more) = s.answers events ++ (events.foldl Reading.behind s).answers more := by
  induction events generalizing s with
  | nil => rfl
  | cons e events ih =>
    cases e with
    | use u => exact congrArg ((u, _) :: ·) (ih _)
    | mark status => exact ih _
    | release => exact ih _

end Reading

/-- A record that is made of elements always opens cursors. Each of them walks over all the elements if
the record is valid at that moment and has not been released, and over none otherwise; whatever happens
later, and whatever is done with the other cursors, makes no difference to it. -/
theorem cursors_walk_alone (r : Record) (es : List Element) (before after : List Event) :
    ∃ c rest, (Reading.mk (r.holding es) []).answers (before ++ .use .opens :: after) =
        (Reading.mk (r.holding es) []).answers before ++ (.opens, .opened (.ok c)) :: rest ∧
      Walks (if statusBehind r.status before = .valid ∧ .release ∉ before then es else [])
        (after.filterMap (Event.act? (before.count (.use .opens))))
        (Reading.repliesTo (before.count (.use .opens)) rest) := by
  have stocked := Reading.stocked_foldl r es before
  rw [Reading.answers_append]
  generalize before.foldl Reading.behind ⟨r.holding es, []⟩ = s at stocked ⊢
  obtain ⟨c, opened, stands⟩ := stocked.opens
  refine ⟨c, (Reading.mk s.record (s.cursors ++ [c])).answers after, ?_, ?_⟩
  · rw [Reading.answers, opened]
  -- a new cursor has the number of those opened before
  · have here : (s.cursors ++ [c])[before.count (.use .opens)]? = some c := by
      simp [← stocked.cursors]
    rw [Reading.repliesTo_answers here stands]
    exact alone_walks _ _

end Record
end RouteFeed
