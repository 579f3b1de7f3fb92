import RouteFeed.Archive.Source

/-! The opening of a source of the archive library. A closed source makes the calls that its
configuration asks for, up to the first that fails. If one fails, the source is as closed as before:
it opens again as a new one does. -/
namespace RouteFeed

namespace Archive

namespace Library

def noteAll (l : Library) (calls : List LibraryCall) : Library :=
  { l with calls := l.calls ++ calls }

@[simp] theorem noteAll_nil (l : Library) : l.noteAll [] = l := by simp [noteAll]

@[simp] theorem noteAll_note (l : Library) (c : LibraryCall) (calls : List LibraryCall) :
    (l.note c).noteAll calls = l.noteAll (c :: calls) := by
  simp [noteAll, note]

@[simp] theorem note_noteAll (l : Library) (c : LibraryCall) (calls : List LibraryCall) :
    (l.noteAll calls).note c = l.noteAll (calls ++ [c]) := by
  simp [noteAll, note]

/-- Of some calls, one is made after another, up to the first that fails: those that are made, and
the failure. -/
inductive Makes : Library → List LibraryCall → List LibraryCall → Option Failure → Prop
  | done (l) : Makes l [] [] none
  | next {l c cs made failed} (passes : l.fault? c = none)
    (rest : Makes (l.note c) cs made failed) : Makes l (c :: cs) (c :: made) failed
  | stops {l c f} (cs) (fails : l.fault? c = some f) : Makes l (c :: cs) [c] (some f)

def Sets (l : Library) (calls made : List LibraryCall) (failed : Option Failure) : Prop :=
  match l.makeFailure with
  | some f => made = [] ∧ failed = some f
  | none => l.Makes calls made failed

variable {l : Library} {calls made : List LibraryCall} {failed : Option Failure}

theorem performAll_makes (l : Library) (calls : List LibraryCall) :
    ∃ made failed, l.Makes calls made failed ∧
      l.performAll calls = (failed.elim (.ok ()) .error, l.noteAll made) := by
  induction calls generalizing l with
  | nil => exact ⟨[], none, .done l, by simp [performAll]⟩
  | cons c cs ih =>
    cases fault : l.fault? c with
    | some f =>
      exact ⟨[c], some f, .stops cs fault, by simp [performAll, perform, fault, note, noteAll]⟩
    | none =>
      obtain ⟨made, failed, makes, same⟩ := ih (l.note c)
      exact ⟨c :: made, failed, .next fault makes, by simp [performAll, perform, fault, same]⟩

theorem Makes.prefix_calls (h : l.Makes calls made failed) : made <+: calls := by
  induction h with
  | done l => exact List.prefix_rfl
  | next passes rest ih => exact (List.prefix_cons_inj _).mpr ih
  | stops cs fails => exact ⟨cs, rfl⟩

theorem Makes.all (h : l.Makes calls made none) : made = calls := by
  generalize hf : none = failed at h
  induction h with
  | done l => rfl
  | next passes rest ih => rw [ih hf]
  | stops cs fails => contradiction

theorem Makes.append_failed {f : Failure} (h : l.Makes calls made (some f))
    (more : List LibraryCall) : l.Makes (calls ++ more) made (some f) := by
  generalize hf : some f = failed at h ⊢
  induction h with
  | done l => contradiction
  | next passes rest ih => exact .next passes (ih hf)
  | stops cs fails => exact .stops _ fails

theorem Makes.append {more made' : List LibraryCall} (h : l.Makes calls made none)
    (k : (l.noteAll made).Makes more made' failed) :
    l.Makes (calls ++ more) (made ++ made') failed := by
  generalize hf : none = failed at h
  induction h with
  | done l => simpa using k
  | next passes rest ih => exact .next passes (ih (by simpa using k) hf)
  | stops cs fails => contradiction

theorem Sets.all (h : l.Sets calls made none) : made = calls := by
  unfold Sets at h
  split at h
  · cases h.2
  · exact h.all

end Library

structure Worker.Free {ι α : Type} (w : Worker ι α) : Prop where
  serving : w.exited = false
  idle : w.running = none
  empty : w.queue = []

/-- The next thing that a worker does is to end. -/
structure Worker.Stops {ι α : Type} (w : Worker ι α) : Prop where
  idle : w.running = none
  ends : w.begin.exited = true

theorem Worker.Free.stops {ι α : Type} {w : Worker ι α} (h : w.Free) : w.shutdown.Stops where
  idle := h.idle
  ends := by simp [shutdown, begin, h.serving, h.idle, h.empty]

end Archive

/-- A source that a pull can leave behind: it ends there, or waits. -/
inductive Pull.Leaves {σ : Type} : Pull σ → σ → Prop
  | ends (answer s) : Leaves (.done answer s) s
  | report {entry next s} (rest : Leaves next s) : Leaves (.report entry next) s
  | notice {n next s} (rest : Leaves next s) : Leaves (.notice n next) s
  | stalls (s interrupted) : Leaves (.stall s interrupted) s
  | wakes {left interrupted s} (rest : Leaves interrupted s) : Leaves (.stall left interrupted) s
  | pauses (s arrived interrupted) : Leaves (.pause s arrived interrupted) s
  | arrives {left arrived interrupted s} (rest : Leaves arrived s) :
    Leaves (.pause left arrived interrupted) s
  | breaks {left arrived interrupted s} (rest : Leaves interrupted s) :
    Leaves (.pause left arrived interrupted) s

namespace ArchiveSource

open Archive

/-- The calls that open a source: the data interface, its options, the filters kind by kind, the
windows, the period of the tables unless it is none or zero, and live mode if the stream is to wait;
and the start of the stream behind them. -/
def orders (interface : String) (config : StreamConfig) : List LibraryCall :=
  .setInterface interface ::
    (config.options.map (fun o => .setOption interface o.1 o.2) ++
    (config.filters.projects.map (.addFilter "project") ++
    (config.filters.collectors.map (.addFilter "collector") ++
    (config.filters.recordTypes.map (.addFilter "record-type") ++
    (config.filters.windows.map .addInterval ++
    ((config.filters.replayPeriod.toList.filter (· ≠ 0)).map .addPeriod ++
    ((if config.blocking then [.setLive] else []) ++
    [.start])))))))

theorem configuration_start (interface : String) (config : StreamConfig) :
    configuration interface config ++ [.start] = orders interface config := by
  obtain ⟨⟨projects, collectors, types, windows, period⟩, options, blocking⟩ := config
  cases period with
  | none => simp [configuration, orders]
  | some n => by_cases zero : n = 0 <;> simp [configuration, orders, zero]

theorem start_not_mem_configuration (interface : String) (config : StreamConfig) :
    .start ∉ configuration interface config := by
  obtain ⟨⟨projects, collectors, types, windows, period⟩, options, blocking⟩ := config
  cases period with
  | none => simp [configuration]
  | some n => by_cases zero : n = 0 <;> simp [configuration, zero]

structure Closed (s : ArchiveSource) : Prop where
  closed : s.isOpen = false
  stream : s.hasStream = false
  worker : s.worker = none

/-- A stream and a worker are held exactly while the source is open. -/
structure Sound (s : ArchiveSource) : Prop where
  stream : s.hasStream = s.isOpen
  worker : s.worker.isSome = s.isOpen

theorem Sound.closed {s : ArchiveSource} (h : s.Sound) (closed : s.isOpen = false) : s.Closed where
  closed := closed
  stream := h.stream.trans closed
  worker := by simpa using h.worker.trans closed

/-- What launching a stream comes to: the calls that are made, how one fails, and the worker that is
made for the last call. -/
structure Launches (s : ArchiveSource) (config : StreamConfig) (made : List LibraryCall)
    (failed : Option Failure) (worker : Option StreamWorker) : Prop where
  sets : s.library.Sets (orders s.interface config) made failed
  launch : s.launch config = (failed.elim (.ok ()) .error,
    { s with library := s.library.noteAll made, worker := worker.or s.worker })
  starts : worker.toList.length = made.count .start
  free : ∀ w ∈ worker, w.Free

theorem work_start (l : Library) :
    ∃ w : StreamWorker, work (Worker.call ({} : StreamWorker) .start).2 l = (w, l.note .start) ∧
      settled? w 0 = some ((l.fault? .start).elim (.ok none) .error) ∧ w.Free := by
  refine ⟨{ promises := [.settled ((l.fault? .start).elim (.ok none) .error)] }, ?_, rfl,
    ⟨rfl, rfl, rfl⟩⟩
  cases fault : l.fault? .start <;>
    simp [work, perform, Library.perform, fault, Worker.call, Worker.begin, Worker.finish,
      Worker.deliver, Worker.settle, Worker.promise?, Except.map]

theorem exists_launches (s : ArchiveSource) (config : StreamConfig) :
    ∃ made failed worker, s.Launches config made failed worker := by
  cases unmade : s.library.makeFailure with
  | some f =>
    exact ⟨[], some f, none, by simp [Library.Sets, unmade], by simp [launch, unmade], rfl, nofun⟩
  | none =>
    obtain ⟨made, failed, makes, performed⟩ :=
      s.library.performAll_makes (configuration s.interface config)
    have unstarted : made.count .start = 0 := List.count_eq_zero.mpr fun mem =>
      start_not_mem_configuration _ _ (makes.prefix_calls.subset mem)
    cases failed with
    | some f =>
      refine ⟨made, some f, none, ?_, ?_, unstarted.symm, nofun⟩
      · simpa [Library.Sets, unmade, ← configuration_start] using makes.append_failed [.start]
      · simp [launch, unmade, performed]
    | none =>
      obtain ⟨w, worked, settled, free⟩ := work_start (s.library.noteAll made)
      have starts : (s.library.noteAll made).Makes [.start] [.start]
          ((s.library.noteAll made).fault? .start) := by
        cases fault : (s.library.noteAll made).fault? .start with
        | none => exact .next fault (.done _)
        | some f => exact .stops [] fault
      refine ⟨made ++ [.start], (s.library.noteAll made).fault? .start, some w, ?_, ?_, ?_, ?_⟩
      · simpa [Library.Sets, unmade, ← configuration_start] using makes.append starts
      · have called : (Worker.call ({} : StreamWorker) Archive.Request.start).1 = 0 := rfl
        simp only [launch, unmade, performed, Option.elim_none, worked, called, settled]
        cases (s.library.noteAll made).fault? .start <;> simp
      · simp [unstarted]
      · simpa using free

theorem Launches.isSome_worker {s : ArchiveSource} {config : StreamConfig} {made : List LibraryCall}
    {worker : Option StreamWorker} (h : s.Launches config made none worker) :
    worker.isSome = true := by
  have starts := h.starts
  rw [h.sets.all] at starts
  cases worker with
  | none =>
    have none : LibraryCall.start ∉ orders s.interface config := List.count_eq_zero.mp starts.symm
    simp [orders] at none
  | some w => rfl

theorem dismiss_eq (s : ArchiveSource) :
    s.dismiss = { s with
      worker := none, former := s.former ++ s.worker.toList.map Worker.shutdown } := by
  obtain ⟨interface, library, worker, former, hasStream, isOpen⟩ := s
  cases worker with
  | none => simp [dismiss]
  | some w => rfl

theorem Sound.start {s : ArchiveSource} (h : s.Sound) (config : StreamConfig) :
    (s.start config).source.Sound := by
  unfold ArchiveSource.start
  split
  · exact h
  · next closed =>
    have closed : s.Closed := h.closed (by simpa using closed)
    split
    · exact h
    · obtain ⟨made, failed, worker, launches⟩ := s.exists_launches config
      rw [launches.launch]
      cases failed with
      | some f =>
        simp only [Option.elim_some, dismiss_eq]
        exact ⟨h.stream, closed.closed.symm⟩
      | none => exact ⟨rfl, by simp [launches.isSome_worker]⟩

theorem Sound.close (s : ArchiveSource) : s.close.Sound := by
  rw [ArchiveSource.close, dismiss_eq]
  exact ⟨rfl, rfl⟩

/-- The worker does not go away while it reads the next record. -/
theorem Sound.pullBy {s t : ArchiveSource} {w : StreamWorker} (h : s.Sound)
    (held : s.worker = some w) (left : (s.pullBy w).Leaves t) : t.Sound := by
  have kept (w' : StreamWorker) (library : Library) : Sound { s with worker := some w', library } :=
    ⟨h.stream, by rw [← h.worker, held]; rfl⟩
  unfold ArchiveSource.pullBy at left
  dsimp only at left
  split at left
  · cases left
    exact kept _ _
  · split at left
    · cases left with
      | notice rest =>
        cases rest with
        | stalls => exact kept _ _
        | wakes rest =>
          cases rest
          exact kept _ _
    · cases left with
      | stalls => exact kept _ _
      | wakes rest =>
        cases rest
        exact kept _ _

theorem Sound.pull {s t : ArchiveSource} (h : s.Sound) (left : s.pull.Leaves t) : t.Sound := by
  unfold ArchiveSource.pull at left
  split at left
  · cases left
    exact h
  · split at left
    · cases left
      exact h
    · cases left
      exact h
    · next held _ => exact h.pullBy held left

theorem Sound.resume {s : ArchiveSource} (h : s.Sound) : s.resume.Sound := by
  unfold ArchiveSource.resume
  split
  · exact h
  · next held =>
    split
    · exact h
    · exact ⟨h.stream, by rw [← h.worker, held]; rfl⟩

/-- What a source has become in some course of its use. -/
inductive Reached : ArchiveSource → Prop
  | made (interface library) : Reached { interface, library }
  | opens {s} (h : Reached s) (config) : Reached (s.start config).source
  | closes {s} (h : Reached s) : Reached s.close
  | pulls {s t} (h : Reached s) (left : s.pull.Leaves t) : Reached t
  /-- The library returns from a call that blocked it. -/
  | resumes {s} (h : Reached s) : Reached s.resume

theorem Reached.sound {s : ArchiveSource} (h : s.Reached) : s.Sound := by
  induction h with
  | made interface library => exact ⟨rfl, rfl⟩
  | opens h config ih => exact ih.start config
  | closes h ih => exact .close _
  | pulls h left ih => exact ih.pull left
  | resumes h ih => exact ih.resume

/-- The source with more workers that were told to stop before. -/
def behind (former : List StreamWorker) (s : ArchiveSource) : ArchiveSource :=
  { s with former := former ++ s.former }

/-- What the opening of a closed source comes to, once calls have been made. -/
inductive Opens (s : ArchiveSource) (made : List LibraryCall) :
    Option Failure → Opening ArchiveSource → Prop
  | opened {o} (result : o.result = .ok ()) (isOpen : o.source.isOpen = true)
    (stream : o.source.hasStream = true) (worker : o.source.worker.isSome = true)
    (former : o.source.former = s.former) : Opens s made none o
  /-- The source is closed. If the stream was to be started, its worker has been told to stop; and
  the source opens again as a new one. -/
  | failed {o f} (result : o.result = .error (openFailure s.interface f)) (closed : o.source.Closed)
    (stopped : ∃ stopped, o.source.former = s.former ++ stopped ∧
      stopped.length = made.count .start ∧ ∀ w ∈ stopped, w.Stops)
    (again : ∀ config,
      let new : ArchiveSource := { interface := s.interface, library := o.source.library }
      o.source.start config =
        { new.start config with source := (new.start config).source.behind o.source.former }) :
    Opens s made (some f) o

private def live : StreamConfig where
  filters := { projects := [.value "ris"], windows := [⟨0, 9⟩], replayPeriod := some 0 }
  options := [("url", "u")]
  blocking := true

end ArchiveSource
end RouteFeed
