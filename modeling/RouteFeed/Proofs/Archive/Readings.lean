import RouteFeed.Archive.Library
import RouteFeed.Proofs.Computation

/-! Readings of a record of the archive library. Its elements are converted when a cursor is opened,
and kept once they have all been converted. An entry that cannot be converted is used up by the
opening that comes to it, and so are the elements before it. -/
namespace RouteFeed

namespace RawEntry

def result : RawEntry → Except Failure Element
  | element raw => raw.convert
  | fails failure => .error failure

def faults : List RawEntry → List Failure
  | [] => []
  | e :: rest =>
    match e.result with
    | .ok _ => faults rest
    | .error f => f :: faults rest

/-- The elements behind the last entry that fails. -/
def remainder : List RawEntry → List Element
  | [] => []
  | e :: rest =>
    match e.result, faults rest with
    | .ok a, [] => a :: remainder rest
    | _, _ => remainder rest

/-- What the opening of a cursor comes to behind `n` others: each failure once, and from then on a
cursor over the elements that are left. -/
def outcome (entries : List RawEntry) (n : Nat) : Except Failure Cursor :=
  (faults entries)[n]?.elim (.ok (.walking ((remainder entries).map some))) .error

theorem convertAll_cons (e : RawEntry) (rest : List RawEntry) :
    convertAll (e :: rest) = match e.result with
      | .error failure => .error (failure, rest)
      | .ok a => (convertAll rest).map (a :: ·) := by
  cases e <;> rfl

variable {entries rest : List RawEntry} {es : List Element} {f : Failure}

theorem convertAll_eq_ok : convertAll entries = .ok es ↔ entries.map result = es.map .ok := by
  induction entries generalizing es with
  | nil =>
    cases es with
    | nil => exact iff_of_true rfl rfl
    | cons a as => exact iff_of_false nofun nofun
  | cons e entries ih =>
    rw [convertAll_cons]
    cases es with
    | nil =>
      refine iff_of_false ?_ nofun
      cases e.result with
      | error f => exact nofun
      | ok a => cases convertAll entries <;> exact nofun
    | cons a as =>
      rw [List.map_cons, List.map_cons, List.cons.injEq, ← ih]
      cases e.result with
      | error f => simp
      | ok b => cases convertAll entries <;> simp [Except.map]

theorem faults_of_map_result (h : entries.map result = es.map .ok) :
    faults entries = [] ∧ remainder entries = es := by
  induction entries generalizing es with
  | nil =>
    cases es with
    | nil => exact ⟨rfl, rfl⟩
    | cons a as => cases h
  | cons e entries ih =>
    cases es with
    | nil => cases h
    | cons a as =>
      obtain ⟨he, hs⟩ := List.cons.inj h
      obtain ⟨none, left⟩ := ih hs
      simp [faults, remainder, he, none, left]

theorem faults_of_convertAll_error (h : convertAll entries = .error (f, rest)) :
    faults entries = f :: faults rest ∧ remainder entries = remainder rest := by
  induction entries with
  | nil => cases h
  | cons e entries ih =>
    rw [convertAll_cons] at h
    cases he : e.result with
    | error g =>
      simp only [he, Except.error.injEq, Prod.mk.injEq] at h
      obtain ⟨rfl, rfl⟩ := h
      simp [faults, remainder, he]
    | ok a =>
      rw [he] at h
      cases hs : convertAll entries with
      | ok as => simp [hs, Except.map] at h
      | error p =>
        simp only [hs, Except.map, Except.error.injEq] at h
        obtain ⟨met, left⟩ := ih (h ▸ hs)
        simp [faults, remainder, he, met, left]

theorem outcome_of_map_result (h : entries.map result = es.map .ok) (n : Nat) :
    outcome entries n = .ok (.walking (es.map some)) := by
  obtain ⟨none, left⟩ := faults_of_map_result h
  simp [outcome, none, left]

theorem outcome_of_convertAll_error (h : convertAll entries = .error (f, rest)) :
    outcome entries 0 = .error f ∧ ∀ n, outcome entries (n + 1) = outcome rest n := by
  obtain ⟨met, left⟩ := faults_of_convertAll_error h
  simp [outcome, met, left]

theorem outcome_length_faults (entries : List RawEntry) :
    outcome entries (faults entries).length = .ok (.walking ((remainder entries).map some)) := by
  simp [outcome]

theorem faults_eq_nil : faults entries = [] ↔ ∀ e ∈ entries, ∃ a, e.result = .ok a := by
  induction entries with
  | nil => simp [faults]
  | cons e entries ih =>
    cases he : e.result with
    | ok a => simp [faults, he, ih]
    | error f => simp [faults, he]

theorem exists_map_result (h : ∀ e ∈ entries, ∃ a, e.result = .ok a) :
    ∃ es : List Element, entries.map result = es.map .ok := by
  induction entries with
  | nil => exact ⟨[], rfl⟩
  | cons e entries ih =>
    obtain ⟨a, he⟩ := h e List.mem_cons_self
    obtain ⟨es, hs⟩ := ih fun e mem => h e (List.mem_cons_of_mem _ mem)
    exact ⟨a :: es, by simp [he, hs]⟩

end RawEntry

namespace Record

/-- What is done with a record by those who read it. A cursor is named by how many were opened
before it. -/
inductive Use where
  | opens
  | next (i : Nat)
  | drains (i : Nat)
  | closes (i : Nat)
  deriving DecidableEq

inductive Reply where
  | opened (result : Except Failure Cursor)
  | element (e : Except Failure (Option Element))
  | elements (es : Except Failure (List Element))
  | closed

def Reply.opened? : Reply → Option (Except Failure Cursor)
  | opened result => some result
  | _ => none

/-- A record that is being read, with the cursors that have been opened. -/
structure Reading where
  record : Record
  cursors : List Cursor := []

namespace Reading

def use (s : Reading) : Use → Reply × Reading
  | .opens =>
    match s.record.openCursor with
    | (.error f, record) => (.opened (.error f), { s with record })
    | (.ok c, record) => (.opened (.ok c), ⟨record, s.cursors ++ [c]⟩)
  | .next i =>
    let (e, c, record) := s.record.next (s.cursors.getD i .finished)
    (.element e, ⟨record, s.cursors.set i c⟩)
  | .drains i =>
    let (es, record) := s.record.drain (s.cursors.getD i .finished)
    (.elements es, ⟨record, s.cursors.set i .finished⟩)
  | .closes i => (.closed, { s with cursors := s.cursors.set i .finished })

def replies : Reading → List Use → List Reply
  | _, [] => []
  | s, u :: uses => (s.use u).1 :: (s.use u).2.replies uses

def openings (s : Reading) (uses : List Use) : List (Except Failure Cursor) :=
  (s.replies uses).filterMap Reply.opened?

end Reading

variable {r : Record} {entries rest : List RawEntry} {es : List Element} {f : Failure}

section

variable (valid : r.isValid = true)
include valid

theorem openCursor_stored (stored : r.payload = .stored es) :
    r.openCursor = (.ok (.walking (es.map some)), r) := by
  simp [openCursor, valid, stored]

theorem openCursor_converts (pending : r.payload = .pending entries)
    (converted : RawEntry.convertAll entries = .ok es) :
    r.openCursor = (.ok (.walking (es.map some)), { r with payload := .stored es }) := by
  simp [openCursor, valid, pending, converted]

theorem openCursor_fails (pending : r.payload = .pending entries)
    (failed : RawEntry.convertAll entries = .error (f, rest)) :
    r.openCursor = (.error f, { r with payload := .pending rest }) := by
  simp [openCursor, valid, pending, failed]

end

/-- The record still has these entries to give: they are not converted yet, or have all been. -/
structure Owes (r : Record) (entries : List RawEntry) : Prop where
  valid : r.isValid = true
  payload : r.payload = .pending entries ∨
    ∃ es, r.payload = .stored es ∧ entries.map RawEntry.result = es.map .ok

theorem Owes.openCursor (h : r.Owes entries) :
    r.openCursor.1 = RawEntry.outcome entries 0 ∧ ∃ left, r.openCursor.2.Owes left ∧
      ∀ n, RawEntry.outcome entries (n + 1) = RawEntry.outcome left n := by
  obtain ⟨valid, pending | ⟨es, stored, converted⟩⟩ := h
  · cases hc : RawEntry.convertAll entries with
    | ok es =>
      have converted := RawEntry.convertAll_eq_ok.mp hc
      rw [openCursor_converts valid pending hc]
      refine ⟨(RawEntry.outcome_of_map_result converted 0).symm, entries,
        ⟨valid, .inr ⟨es, rfl, converted⟩⟩, fun n => ?_⟩
      simp only [RawEntry.outcome_of_map_result converted]
    | error p =>
      obtain ⟨f, rest⟩ := p
      obtain ⟨first, behind⟩ := RawEntry.outcome_of_convertAll_error hc
      rw [openCursor_fails valid pending hc]
      exact ⟨first.symm, rest, ⟨valid, .inl rfl⟩, behind⟩
  · rw [openCursor_stored valid stored]
    refine ⟨(RawEntry.outcome_of_map_result converted 0).symm, entries,
      ⟨valid, .inr ⟨es, stored, converted⟩⟩, fun n => ?_⟩
    simp only [RawEntry.outcome_of_map_result converted]

theorem next_feed (r : Record) (c : Cursor) : ∃ feed, (r.next c).2.2 = { r with feed } := by
  unfold next
  split
  · split <;> exact ⟨_, rfl⟩
  · exact ⟨_, rfl⟩

theorem drain_feed (r : Record) (c : Cursor) : ∃ feed, (r.drain c).2 = { r with feed } := by
  cases c <;> exact ⟨_, rfl⟩

theorem next_payload (r : Record) (p : Payload) (c : Cursor) : { r with payload := p }.next c =
    ((r.next c).1, (r.next c).2.1, { (r.next c).2.2 with payload := p }) := by
  obtain ⟨time, project, collector, dumpType, dumpPosition, status, dumpTime, payload, feed⟩ := r
  cases c with
  | onFeed => cases feed <;> rfl
  | _ => rfl

theorem drain_payload (r : Record) (p : Payload) (c : Cursor) : { r with payload := p }.drain c =
    ((r.drain c).1, { (r.drain c).2 with payload := p }) := by
  cases c <;> rfl

namespace Reading

variable {s : Reading} {u : Use}

theorem use_opens (s : Reading) : (s.use .opens).1 = .opened s.record.openCursor.1 ∧
    (s.use .opens).2.record = s.record.openCursor.2 := by
  unfold use
  generalize s.record.openCursor = o
  obtain ⟨_ | _, _⟩ := o <;> exact ⟨rfl, rfl⟩

theorem use_feed (other : u ≠ .opens) :
    (s.use u).1.opened? = none ∧ ∃ feed, (s.use u).2.record = { s.record with feed } := by
  cases u with
  | opens => exact absurd rfl other
  | next i => exact ⟨rfl, s.record.next_feed _⟩
  | drains i => exact ⟨rfl, s.record.drain_feed _⟩
  | closes i => exact ⟨rfl, s.record.feed, rfl⟩

theorem openings_eq (h : s.record.Owes entries) (uses : List Use) :
    s.openings uses = (List.range (uses.count .opens)).map (RawEntry.outcome entries) := by
  induction uses generalizing s entries with
  | nil => rfl
  | cons u uses ih =>
    by_cases opens : u = .opens
    · subst opens
      obtain ⟨given, same⟩ := s.use_opens
      obtain ⟨first, left, owed, behind⟩ := h.openCursor
      calc s.openings (.opens :: uses)
          = RawEntry.outcome entries 0 :: (s.use .opens).2.openings uses := by
            rw [openings, replies, given, first]
            rfl
        _ = RawEntry.outcome entries 0 ::
              (List.range (uses.count .opens)).map fun n => RawEntry.outcome entries (n + 1) := by
            rw [ih (same ▸ owed)]
            simp only [behind]
        _ = (List.range ((Use.opens :: uses).count .opens)).map (RawEntry.outcome entries) := by
            rw [List.count_cons_self, List.range_succ_eq_map, List.map_cons, List.map_map]
            rfl
    · obtain ⟨silent, feed, left⟩ := s.use_feed opens
      have owed : (s.use u).2.record.Owes entries := by
        rw [left]
        exact ⟨h.valid, h.payload⟩
      rw [openings, replies, List.filterMap_cons_none silent, List.count_cons_of_ne opens]
      exact ih owed

/-- The same reading of a record that has had its elements from the start. -/
def eager (s : Reading) (es : List Element) : Reading :=
  { s with record := { s.record with payload := .stored es } }

theorem use_eager (other : u ≠ .opens) :
    (s.eager es).use u = ((s.use u).1, (s.use u).2.eager es) := by
  cases u with
  | opens => exact absurd rfl other
  | next i => simp only [use, eager, next_payload]
  | drains i => simp only [use, eager, drain_payload]
  | closes i => rfl

theorem replies_eager (valid : s.record.isValid = true)
    (pending : s.record.payload = .pending entries)
    (converted : RawEntry.convertAll entries = .ok es) (uses : List Use) :
    s.replies uses = (s.eager es).replies uses := by
  induction uses generalizing s with
  | nil => rfl
  | cons u uses ih =>
    by_cases opens : u = .opens
    · subst opens
      have same : s.use .opens = (s.eager es).use .opens := by
        have stored : (s.eager es).record.openCursor =
            (.ok (.walking (es.map some)), (s.eager es).record) := openCursor_stored valid rfl
        simp only [use, openCursor_converts valid pending converted, stored]
        rfl
      rw [replies, replies, same]
    · obtain ⟨_, feed, left⟩ := s.use_feed opens
      rw [replies, replies, use_eager opens, ih (by rw [left]; exact valid)
        (by rw [left]; exact pending)]

end Reading

/-- All openings have come to the same: a cursor over all elements in order, or one failure. -/
def Agree (entries : List RawEntry) (openings : List (Except Failure Cursor)) : Prop :=
  (∃ es : List Element, entries.map RawEntry.result = es.map .ok ∧
    ∀ o ∈ openings, o = .ok (.walking (es.map some))) ∨
  ∃ f, ∀ o ∈ openings, o = .error f

theorem agree_iff (entries : List RawEntry) :
    (∀ n, Agree entries ((List.range n).map (RawEntry.outcome entries))) ↔
      ∀ e ∈ entries, ∃ a, e.result = .ok a := by
  constructor
  · intro agree
    rw [← RawEntry.faults_eq_nil]
    cases failing : RawEntry.faults entries with
    | nil => rfl
    | cons f faults =>
      -- the first opening fails, and the one behind all failures does not
      have first : RawEntry.outcome entries 0 = .error f := by simp [RawEntry.outcome, failing]
      have last := RawEntry.outcome_length_faults entries
      have opened (n : Nat) (le : n ≤ (RawEntry.faults entries).length) :
          RawEntry.outcome entries n ∈
            (List.range ((RawEntry.faults entries).length + 1)).map (RawEntry.outcome entries) :=
        List.mem_map_of_mem (List.mem_range.mpr (Nat.lt_succ_of_le le))
      rcases agree ((RawEntry.faults entries).length + 1) with ⟨es, _, all⟩ | ⟨g, all⟩
      · cases first.symm.trans (all _ (opened 0 (Nat.zero_le _)))
      · cases last.symm.trans (all _ (opened _ (Nat.le_refl _)))
  · intro converted n
    obtain ⟨es, whole⟩ := RawEntry.exists_map_result converted
    refine .inl ⟨es, whole, fun o mem => ?_⟩
    obtain ⟨k, _, rfl⟩ := List.mem_map.mp mem
    exact RawEntry.outcome_of_map_result whole k

/-- All that can be read of a record before it is released. -/
structure Readable (r : Record) (entries : List RawEntry) : Prop where
  /-- Each entry that fails spoils one opening; every other one gives what is left behind them. -/
  openings : ∀ uses, (Reading.mk r []).openings uses =
    (List.range (uses.count .opens)).map (RawEntry.outcome entries)
  /-- The openings agree, whoever reads, exactly if all entries can be converted. -/
  agree : (∀ uses, Agree entries ((Reading.mk r []).openings uses)) ↔
    ∀ e ∈ entries, ∃ a, e.result = .ok a
  /-- In that case it makes no difference that the elements are converted late. -/
  eager : ∀ es, entries.map RawEntry.result = es.map .ok → ∀ uses,
    (Reading.mk r []).replies uses = (Reading.mk { r with payload := .stored es } []).replies uses

end Record

namespace Archive.RawRecord

variable {raw : RawRecord} {r : Record}

theorem payload_of_convert (h : raw.convert = .ok r) : r.payload = .pending raw.entries := by
  obtain ⟨_, _, h⟩ := bind_ok h
  obtain ⟨_, _, h⟩ := bind_ok h
  obtain ⟨_, _, h⟩ := bind_ok h
  obtain ⟨_, _, h⟩ := bind_ok h
  cases h
  rfl

theorem readable_of_convert (converted : raw.convert = .ok r) (valid : r.isValid = true) :
    r.Readable raw.entries := by
  have pending := payload_of_convert converted
  have openings (uses : List Record.Use) : (Record.Reading.mk r []).openings uses = _ :=
    Record.Reading.openings_eq ⟨valid, .inl pending⟩ uses
  refine ⟨openings, ?_, fun es whole => ?_⟩
  · rw [← Record.agree_iff]
    constructor
    · intro agree n
      simpa [openings] using agree (List.replicate n .opens)
    · intro agree uses
      rw [openings]
      exact agree _
  · exact Record.Reading.replies_eager valid pending (RawEntry.convertAll_eq_ok.mpr whole)

private def announced (type network : String) : RawElement where
  type := .text type
  time := .int 1
  peerAddress := .text "a"
  peerAsn := .int 1
  fields := [("prefix", .text network)]

/-- A record with an element of an unknown type between two others. -/
private def mixed : RawRecord where
  time := .int 1
  project := "p"
  collector := "c"
  type := .text "update"
  position := .text "start"
  status := .text "valid"
  dumpTime := .int 1
  entries := [.element (announced "A" "10.0.0.0/8"), .element (announced "X" "10.0.0.0/8"),
    .element (announced "W" "11.0.0.0/8")]

private def mixedRecord : Record where
  time := 1
  project := "p"
  collector := "c"
  dumpType := .update
  dumpPosition := .start
  status := .valid
  dumpTime := 1
  payload := .pending mixed.entries

private def withdrawn : Element where
  type := .withdrawal
  time := .int 1
  peerAddress := .text "a"
  peerAsn := .int 1
  network := .text "11.0.0.0/8"
  communities := .list []

theorem readable_of_convert_mixed :
    mixed.convert = .ok mixedRecord ∧ mixedRecord.isValid = true ∧
      (Record.Reading.mk mixedRecord []).openings [.opens, .opens, .next 0, .opens] =
        [.error (.badValue "'X' is not a valid ElementType"), .ok (.walking [some withdrawn]),
          .ok (.walking [some withdrawn])] := by
  have converted : mixed.convert = .ok mixedRecord := rfl
  exact ⟨converted, rfl, (readable_of_convert converted rfl).openings _⟩

/-- The second cursor misses what stands before the broken element. -/
theorem broken_element_spoils_one_opening :
    mixed.convert = .ok mixedRecord ∧ mixedRecord.isValid = true ∧
      ¬Record.Agree mixed.entries
        ((Record.Reading.mk mixedRecord []).openings [.opens, .opens]) := by
  have openings : (Record.Reading.mk mixedRecord []).openings [.opens, .opens] =
      [.error (.badValue "'X' is not a valid ElementType"), .ok (.walking [some withdrawn])] := rfl
  refine ⟨rfl, rfl, ?_⟩
  rw [openings]
  rintro (⟨es, _, all⟩ | ⟨f, all⟩)
  · cases all _ List.mem_cons_self
  · cases all _ (List.mem_cons_of_mem _ List.mem_cons_self)

end Archive.RawRecord
end RouteFeed
