import Mathlib.Data.List.Forall2
import Mathlib.Logic.Relation
import RouteFeed.Proofs.Retrieval.Turns
import RouteFeed.Proofs.Retrieval.Writing
import RouteFeed.Proofs.Session.Procedure

/-! What a retrieval holds at each of its moments. The records that its session has given are kept
as they are then: the last one while it is written, and all others released. -/
namespace RouteFeed

namespace Record

def metadata (r : Record) : Record := { r with payload := .none, feed := [] }

def isLive (r : Record) : Bool :=
  match r.payload with
  | .none => false
  | _ => true

theorem metadata_openCursor (r : Record) : r.openCursor.2.metadata = r.metadata := by
  unfold openCursor
  split
  · rfl
  · split
    · rfl
    · rfl
    · rfl
    · rfl
    · split
      · rfl
      · rfl

theorem metadata_renderFrom (r : Record) (render : Element → Except Failure String) (c : Cursor) :
    (r.renderFrom render c).2.metadata = r.metadata := by
  cases c <;> rfl

end Record

variable {σ : Type}

/-- A record with the metadata that it was given with, or that its source's own dump has left. -/
def Record.CameFrom (σ : Type) [Source σ] (given now : Record) : Prop :=
  now.metadata = given.metadata ∨
    ∃ source : σ, now.metadata = (Source.dump source given).2.metadata

/-- A record that was given is released: its payload is dropped, its metadata is kept. -/
structure Record.ReleasedFrom (σ : Type) [Source σ] (given now : Record) : Prop where
  dropped : now.payload = .none
  kept : Record.CameFrom σ given now

namespace Record

variable [Source σ]

theorem CameFrom.metadata_eq {given now : Record} (came : CameFrom σ given now)
    (keeps : ∀ (source : σ) record, (Source.dump source record).2.metadata = record.metadata) :
    now.metadata = given.metadata := by
  rcases came with same | ⟨source, same⟩
  · exact same
  · rw [same, keeps]

variable {given held : List Record}

theorem map_metadata_released
    (keeps : ∀ (source : σ) record, (Source.dump source record).2.metadata = record.metadata)
    (released : List.Forall₂ (ReleasedFrom σ) given held) :
    held.map metadata = given.map metadata := by
  induction released with
  | nil => rfl
  | cons first rest ih => exact congrArg₂ List.cons (first.kept.metadata_eq keeps) ih

theorem countP_isLive_released (released : List.Forall₂ (ReleasedFrom σ) given held) :
    held.countP isLive = 0 := by
  induction released with
  | nil => rfl
  | @cons record now given held first rest ih =>
    have dropped : now.isLive = false := by rw [isLive, first.dropped]
    rw [List.countP_cons, ih, dropped]
    rfl

end Record

namespace Retrieval

inductive Activity (σ : Type) where
  /-- It calls the session for the next record. -/
  | asks (r : Retrieval σ)
  | begins (r : Retrieval σ) (record : Record)
  | dumps (r : Retrieval σ) (record : Record)
  /-- It writes the elements of a valid record, which its dump has left so. -/
  | lists (r : Retrieval σ) (record left : Record)
  /-- It releases a record that has been written, or could not be. -/
  | leaves (r : Retrieval σ) (record left : Record) (failure : Option Failure)
  /-- Nothing: its run is over. -/
  | rests (outcome : Outcome Unit)

/-- The record that is being written, as it was given and as it is now. -/
def Activity.current? : Activity σ → Option (Record × Record)
  | asks _ | rests _ => none
  | begins _ record | dumps _ record => some (record, record)
  | lists _ record left | leaves _ record left _ => some (record, left)

structure Moment (σ : Type) where
  activity : Activity σ
  /-- The records that the session has given, as it gave them, the last one first. -/
  given : List Record := []
  held : List Record := []
  lines : List String := []

/-- No record is being written: the session is called, or the run is over. -/
def Moment.IsBetween (m : Moment σ) : Prop := m.activity.current? = none

variable [Source σ]

def afterRelease (r : Retrieval σ) (record : Record) : Option Failure → Activity σ
  | some f => .rests (.raised f)
  | none => .asks { r with stats := count r.stats (r.write record) }

inductive Moment.Next : Moment σ → Moment σ → Prop
  | takes {r record given held lines} (outcome : r.pulled.outcome = .returned (some record)) :
    Next ⟨.asks r, given, held, lines⟩
      ⟨.begins r.behind record, record :: given, record :: held, lines⟩
  | ends {r given held lines} (nothing : ∀ record, r.pulled.outcome ≠ .returned (some record)) :
    Next ⟨.asks r, given, held, lines⟩ ⟨.rests r.pulled.outcome.discard, given, held, lines⟩
  | begins {r record head given held lines} (written : r.writeHead record = .ok head) :
    Next ⟨.begins r record, given, held, lines⟩
      ⟨if record.isValid then .dumps r record else .leaves r record record none, given, held,
        lines ++ head⟩
  | stumbles {r record f given held lines} (failed : r.writeHead record = .error f) :
    Next ⟨.begins r record, given, held, lines⟩
      ⟨.leaves r record record (some f), given, held, lines⟩
  | dumps {r record left dump given now held lines} (done : r.writeDump record = (dump, none, left)) :
    Next ⟨.dumps r record, given, now :: held, lines⟩
      ⟨.lists r record left, given, left :: held, lines ++ dump⟩
  | breaks {r record left dump f given now held lines}
    (done : r.writeDump record = (dump, some f, left)) :
    Next ⟨.dumps r record, given, now :: held, lines⟩
      ⟨.leaves r record left (some f), given, left :: held, lines ++ dump⟩
  | lists {r record left given now held lines} :
    Next ⟨.lists r record left, given, now :: held, lines⟩
      ⟨.leaves r record (r.writeListed left).record (r.writeListed left).failure, given,
        (r.writeListed left).record :: held, lines ++ (r.writeListed left).lines⟩
  | leaves {r record left failure given now held lines} :
    Next ⟨.leaves r record left failure, given, now :: held, lines⟩
      ⟨r.afterRelease record failure, given, left.release :: held, lines⟩

def Reaches (r : Retrieval σ) (m : Moment σ) : Prop :=
  Relation.ReflTransGen Moment.Next ⟨.asks r, [], [], []⟩ m

variable {r : Retrieval σ} {record left : Record}

theorem cameFrom_dump (s : Session σ) (record : Record) :
    Record.CameFrom σ record (s.dump record).2 := by
  unfold Session.dump
  split
  · rename_i source _
    exact .inr ⟨source, rfl⟩
  · exact .inl rfl

theorem cameFrom_writeDump {dump : List String} {failure : Option Failure}
    (done : r.writeDump record = (dump, failure, left)) : Record.CameFrom σ record left := by
  have came := cameFrom_dump r.session record
  unfold writeDump at done
  generalize r.session.dump record = dumped at came done
  obtain ⟨result, after⟩ := dumped
  split at done
  · cases result with
    | error f =>
      cases done
      exact came
    | ok lines =>
      cases done
      exact came
  · cases done
    exact .inl rfl

omit [Source σ] in
theorem metadata_writeListed (r : Retrieval σ) (record : Record) :
    (r.writeListed record).record.metadata = record.metadata := by
  unfold writeListed
  split
  · rw [← record.metadata_openCursor, writeElements]
    generalize record.openCursor = opened
    obtain ⟨cursor, left⟩ := opened
    cases cursor with
    | error f => rfl
    | ok cursor => exact left.metadata_renderFrom _ cursor
  · rfl

namespace Moment

/-- All records have been released but the one that is being written, which is as it was given or as
its source's own dump has left it. -/
def Sound (m : Moment σ) : Prop :=
  match m.activity.current? with
  | none => List.Forall₂ (Record.ReleasedFrom σ) m.given m.held
  | some (record, now) =>
    ∃ given held, m.given = record :: given ∧ m.held = now :: held ∧
      Record.CameFrom σ record now ∧ List.Forall₂ (Record.ReleasedFrom σ) given held

variable {m m' : Moment σ}

/-- A step keeps all released records as they are, and releases the one that it leaves. -/
theorem Next.sound (step : m.Next m') (sound : m.Sound) : m'.Sound := by
  cases step with
  | takes outcome => exact ⟨_, _, rfl, rfl, .inl rfl, sound⟩
  | ends nothing => exact sound
  | @begins r record given held lines =>
    obtain ⟨others, kept, rfl, rfl, came, released⟩ := sound
    unfold Sound
    cases record.isValid with
    | true => exact ⟨others, kept, rfl, rfl, came, released⟩
    | false => exact ⟨others, kept, rfl, rfl, came, released⟩
  | stumbles => exact sound
  | dumps done | breaks done =>
    obtain ⟨others, kept, rfl, same, _, released⟩ := sound
    cases same
    exact ⟨others, _, rfl, rfl, cameFrom_writeDump done, released⟩
  | @lists r record left =>
    obtain ⟨others, kept, rfl, same, came, released⟩ := sound
    cases same
    refine ⟨others, _, rfl, rfl, ?_, released⟩
    rw [Record.CameFrom, r.metadata_writeListed left]
    exact came
  | @leaves r record left failure =>
    obtain ⟨others, kept, rfl, same, came, released⟩ := sound
    cases same
    have now : Record.ReleasedFrom σ record left.release := ⟨rfl, came⟩
    cases failure with
    | none => exact .cons now released
    | some f => exact .cons now released

theorem Sound.released (sound : m.Sound) (between : m.IsBetween) :
    List.Forall₂ (Record.ReleasedFrom σ) m.given m.held := by
  rw [Sound, show m.activity.current? = none from between] at sound
  exact sound

theorem Sound.countP_isLive_le (sound : m.Sound) : m.held.countP Record.isLive ≤ 1 := by
  unfold Sound at sound
  split at sound
  · rw [Record.countP_isLive_released sound]
    exact Nat.zero_le 1
  · obtain ⟨others, kept, _, held, _, released⟩ := sound
    rw [held, List.countP_cons, Record.countP_isLive_released released]
    split <;> omega

theorem Sound.map_metadata (sound : m.Sound)
    (keeps : ∀ (source : σ) record, (Source.dump source record).2.metadata = record.metadata) :
    m.held.map Record.metadata = m.given.map Record.metadata := by
  unfold Sound at sound
  split at sound
  · exact Record.map_metadata_released keeps sound
  · obtain ⟨others, kept, given, held, came, released⟩ := sound
    rw [given, held]
    exact congrArg₂ List.cons (came.metadata_eq keeps) (Record.map_metadata_released keeps released)

end Moment

theorem Reaches.sound {m : Moment σ} (reached : r.Reaches m) : m.Sound := by
  induction reached with
  | refl => exact List.Forall₂.nil
  | tail _ step ih => exact step.sound ih

theorem begins_leads (r : Retrieval σ) (record : Record) (given held : List Record)
    (lines : List String) :
    Relation.ReflTransGen Moment.Next ⟨.begins r record, given, record :: held, lines⟩
      ⟨r.afterRelease record (r.write record).failure, given, (r.write record).record :: held,
        lines ++ (r.write record).lines⟩ := by
  cases written : r.writeHead record with
  | error f =>
    rw [write_of_error written, List.append_nil]
    exact .head (.stumbles written) (.single .leaves)
  | ok head =>
    refine .head (.begins written) ?_
    rw [write_of_ok written, writeBody, ← List.append_assoc]
    cases valid : record.isValid with
    | false =>
      simp only [Bool.false_eq_true, if_false, List.append_nil]
      exact .single .leaves
    | true =>
      simp only [if_true]
      rcases done : r.writeDump record with ⟨dump, failure, left⟩
      cases failure with
      | some f =>
        rw [writeValid_of_error done]
        exact .head (.breaks done) (.single .leaves)
      | none =>
        rw [writeValid_of_ok done, ← List.append_assoc]
        exact .head (.dumps done) (.head .lists (.single .leaves))

/-- A turn that goes on takes a record, and comes back to the session when it is released. -/
theorem goesOn_leads {next : Retrieval σ} {log : Log} {w : Writing}
    (turned : r.turn = .goesOn log w next) (given held : List Record) (lines : List String) :
    ∃ record, Relation.ReflTransGen Moment.Next ⟨.asks r, given, held, lines⟩
      ⟨.asks next, record :: given, w.record :: held, lines ++ w.lines⟩ := by
  have turns := r.turn_turns
  rw [turned] at turns
  cases turns with
  | @goesOn record outcome whole =>
    have stages := r.behind.begins_leads record (record :: given) held lines
    rw [whole] at stages
    exact ⟨record, .head (.takes outcome) stages⟩

theorem ends_leads {run : Run σ} (turned : r.turn = .ends run) (given held : List Record)
    (lines : List String) :
    ∃ taken, Relation.ReflTransGen Moment.Next ⟨.asks r, given, held, lines⟩
      ⟨.rests run.outcome, taken ++ given, run.handled.reverse ++ held, lines ++ run.lines⟩ := by
  have rests (nothing : ∀ record, r.pulled.outcome ≠ .returned (some record)) :
      Relation.ReflTransGen Moment.Next ⟨.asks r, given, held, lines⟩
        ⟨.rests r.pulled.outcome.discard, given, held, lines ++ []⟩ := by
    rw [List.append_nil]
    exact .single (.ends nothing)
  have turns := r.turn_turns
  rw [turned] at turns
  cases turns with
  | waits outcome =>
    rw [outcome] at rests
    exact ⟨[], rests (by simp)⟩
  | fails outcome =>
    rw [outcome] at rests
    exact ⟨[], rests (by simp)⟩
  | finishes outcome =>
    rw [outcome] at rests
    exact ⟨[], rests (by simp)⟩
  | @breaks record f outcome failure =>
    have stages := r.behind.begins_leads record (record :: given) held lines
    rw [failure] at stages
    refine ⟨[record], .head (.takes outcome) ?_⟩
    simpa [Run.after, afterRelease] using stages

theorem Leads.reaches {ws : List (Log × Writing)} {last : Retrieval σ} (chain : r.Leads ws last)
    (given held : List Record) (lines : List String) :
    ∃ taken, Relation.ReflTransGen Moment.Next ⟨.asks r, given, held, lines⟩
      ⟨.asks last, taken ++ given, (ws.map (·.2.record)).reverse ++ held, lines ++ linesOf ws⟩ := by
  induction chain generalizing given held lines with
  | here r =>
    refine ⟨[], ?_⟩
    simpa [linesOf] using Relation.ReflTransGen.refl
  | @step r log w next ws last turned rest ih =>
    obtain ⟨record, first⟩ := goesOn_leads turned given held lines
    obtain ⟨taken, others⟩ := ih (record :: given) (w.record :: held) (lines ++ w.lines)
    refine ⟨taken ++ [record], first.trans ?_⟩
    simpa [linesOf] using others

/-- Whenever the session is called for the next record, and when the run is over, all records that
the session has given are released; at any time at most one of them has a payload. They keep their
metadata, unless the dump of their own source changes it. -/
theorem records_released_between (r : Retrieval σ) :
    (∀ m, r.Reaches m → m.held.countP Record.isLive ≤ 1 ∧
      (m.IsBetween → List.Forall₂ (Record.ReleasedFrom σ) m.given m.held) ∧
      ((∀ (source : σ) record, (Source.dump source record).2.metadata = record.metadata) →
        m.held.map Record.metadata = m.given.map Record.metadata)) ∧
    (∀ ws last, r.Leads ws last → ∃ given,
      r.Reaches ⟨.asks last, given, (ws.map (·.2.record)).reverse, linesOf ws⟩) ∧
    ∀ run, r.run? = some run → ∃ given,
      r.Reaches ⟨.rests run.outcome, given, run.handled.reverse, run.lines⟩ := by
  refine ⟨fun m reached => ?_, fun ws last chain => ?_, fun run done => ?_⟩
  · have sound := reached.sound
    exact ⟨sound.countP_isLive_le, sound.released, sound.map_metadata⟩
  · obtain ⟨taken, reached⟩ := chain.reaches [] [] []
    rw [List.append_nil, List.append_nil, List.nil_append] at reached
    exact ⟨taken, reached⟩
  · obtain ⟨ws, last, ending, chain, ends, rfl⟩ := run?_eq_some_iff.mp done
    obtain ⟨taken, before⟩ := chain.reaches [] [] []
    obtain ⟨others, after⟩ := ends_leads ends (taken ++ []) ((ws.map (·.2.record)).reverse ++ [])
      ([] ++ linesOf ws)
    refine ⟨others ++ taken, ?_⟩
    rw [Run.afterAll_outcome, Run.afterAll_handled, Run.afterAll_lines]
    simpa [Reaches] using before.trans after

end Retrieval
end RouteFeed
