import RouteFeed.Proofs.Archive.Course

/-! What holds of a worker in every course of actions: where each call that was queued is, and what its
promise has come to. Each action keeps both. -/
namespace RouteFeed.Archive

variable {ι α : Type}

namespace Worker

theorem awaits_eq_true {w : Worker ι α} {id : Nat} :
    w.awaits id = true ↔ w.promise? id = some .pending := by
  unfold awaits
  split
  · next waits => simp [waits]
  · next gone => simpa using gone

inductive Acts (w : Worker ι α) : Action ι α → Worker ι α → List (Event ι α) → Prop
  | queues (request) :
    Acts w (.call request) { w with
      queue := w.queue ++ [.call w.promises.length request]
      promises := w.promises ++ [.pending] } []
  | marks : Acts w .shutdown { w with queue := w.queue ++ [.stop] } []
  | begins {id request queue} (serving : w.exited = false) (free : w.running = none)
    (next : w.queue = .call id request :: queue) :
    Acts w .begin { w with queue, running := some (id, request) } [.began id request]
  | exits {queue} (serving : w.exited = false) (free : w.running = none)
    (next : w.queue = .stop :: queue) : Acts w .begin { w with queue, exited := true } []
  | ends {id request} (result) (busy : w.running = some (id, request)) :
    Acts w (.finish result) { w with running := none, posted := w.posted ++ [(id, result)] }
      [.ended ⟨id, request, result⟩]
  | settles {id result posted} (first : w.posted = (id, result) :: posted)
    (waits : w.promise? id = some .pending) :
    Acts w .deliver { w with posted, promises := w.promises.set id (.settled result) }
      [.delivered id result true]
  | drops {id result posted} (first : w.posted = (id, result) :: posted)
    (gone : w.promise? id ≠ some .pending) :
    Acts w .deliver { w with posted } [.delivered id result false]
  | givesUp {id} (waits : w.promise? id = some .pending) :
    Acts w (.cancel id) { w with promises := w.promises.set id .cancelled } []
  /-- Nothing happens: the worker is busy or has nothing to do, or nobody waits. -/
  | rests (a : Action ι α) (idle : ∀ request, a ≠ .call request) (open_ : a ≠ .shutdown) : Acts w a w []

theorem act_acts (w : Worker ι α) (a : Action ι α) : w.Acts a (w.act a) (w.seen a) := by
  cases a with
  | call request => exact .queues request
  | shutdown => exact .marks
  | cancel id =>
    change w.Acts (.cancel id) (w.cancel id) []
    unfold cancel
    split
    · rename_i waits
      exact .givesUp waits
    · exact .rests _ nofun nofun
  | begin =>
    have rests (same : w.begin = w) : w.Acts .begin (w.act .begin) (w.seen .begin) := by
      have unseen : w.seen .begin = [] := by
        simp only [seen, same]
        cases w.running <;> rfl
      rw [unseen, act, same]
      exact .rests _ nofun nofun
    cases serving : w.exited with
    | true => exact rests (by simp [begin, serving])
    | false =>
      cases free : w.running with
      | some r => exact rests (by simp [begin, free])
      | none =>
        cases next : w.queue with
        | nil => exact rests (by simp [begin, next])
        | cons job queue =>
          cases job with
          | stop =>
            have stopped : w.begin = { w with queue, exited := true } := by
              simp [begin, serving, free, next]
            have unseen : w.seen .begin = [] := by simp [seen, stopped, free]
            rw [act, stopped, unseen]
            exact .exits serving free next
          | call id request =>
            have begun : w.begin = { w with queue, running := some (id, request) } := by
              simp [begin, serving, free, next]
            have shown : w.seen .begin = [.began id request] := by simp [seen, begun, free]
            rw [act, begun, shown]
            exact .begins serving free next
  | finish result =>
    simp only [act, seen]
    unfold finish
    cases busy : w.running with
    | none => exact .rests _ nofun nofun
    | some r => exact .ends result busy
  | deliver =>
    simp only [act, seen]
    unfold deliver
    cases first : w.posted with
    | nil => exact .rests _ nofun nofun
    | cons p posted =>
      obtain ⟨id, result⟩ := p
      by_cases pending : w.promise? id = some .pending
      · have settled : ({ w with posted } : Worker ι α).settle id result =
            { w with posted, promises := w.promises.set id (.settled result) } := by
          have same : ({ w with posted } : Worker ι α).promise? id = some .pending := pending
          simp only [settle, same]
        dsimp only
        rw [settled, awaits_eq_true.mpr pending]
        exact .settles first pending
      · have dropped : ({ w with posted } : Worker ι α).settle id result = { w with posted } := by
          unfold settle
          split
          · contradiction
          · rfl
        have unheard : w.awaits id = false := Bool.eq_false_iff.mpr (mt awaits_eq_true.mp pending)
        dsimp only
        rw [dropped, unheard]
        exact .drops first pending

theorem promise?_set {w : Worker ι α} {id k : Nat} {p : Promise α} (known : id < w.promises.length) :
    ({ w with promises := w.promises.set id p } : Worker ι α).promise? k =
      if k = id then some p else w.promise? k := by
  unfold promise?
  rw [List.getElem?_set]
  by_cases here : id = k
  · simp [here, here ▸ known]
  · simp [here, Ne.symm here]

theorem promise?_push {w : Worker ι α} {queue : List (Job ι)} {k : Nat} :
    ({ w with queue, promises := w.promises ++ [.pending] } : Worker ι α).promise? k =
      if k = w.promises.length then some .pending else w.promise? k := by
  unfold promise?
  rcases Nat.lt_trichotomy k w.promises.length with before | rfl | after
  · rw [List.getElem?_append_left before, if_neg before.ne]
  · simp
  · rw [if_neg after.ne', List.getElem?_eq_none (by simp; omega), List.getElem?_eq_none after.le]

end Worker

namespace Course

/-- The calls that have been run, and that are still to be run, are those that were queued; and the
results that have been delivered, and that are still to be delivered, are those of the calls that have
been run. -/
structure InOrder (jobs : List (Job ι)) (c : Course ι α) : Prop where
  serial : c.runs = c.done.flatMap Done.events ++ c.worker.running.toList.map fun r => .began r.1 r.2
  jobs : jobs = c.done.map Done.job ++ c.worker.current ++
    ((if c.worker.exited then [.stop] else []) ++ c.worker.queue)
  free : c.worker.exited = true → c.worker.running = none
  posted : c.done.map Done.answer = c.sent ++ c.worker.posted

theorem InOrder.step {jobs : List (Job ι)} {c : Course ι α} (h : c.InOrder jobs)
    (numbered : c.worker.promises.length = jobs.countP Job.isCall) (a : Action ι α) :
    (c.step a).InOrder (a.queue jobs) := by
  obtain ⟨serial, order, free, posted⟩ := h
  have acts := c.worker.act_acts a
  unfold Course.step
  generalize c.worker.act a = w, c.worker.seen a = events at acts
  -- without an event, the histories stay as they are
  have quiet : c.events ++ [] = c.events := List.append_nil _
  cases acts with
  | queues request =>
    rw [quiet]
    refine ⟨serial, ?_, free, posted⟩
    rw [Action.queue, ← numbered, order]
    simp [done, Worker.current]
  | marks =>
    rw [quiet]
    refine ⟨serial, ?_, free, posted⟩
    rw [Action.queue, order]
    simp [done, Worker.current]
  | @begins id request rest serving idle next =>
    refine ⟨?_, ?_, fun exited => ?_, ?_⟩
    · simp [runs, done, Event.done?, List.filterMap_cons] at serial ⊢
      simp [serial, idle, Event.isRun]
    · simp [Action.queue, order, done, Worker.current, serving, idle, next, Event.done?,
        List.filterMap_cons]
    · simp [serving] at exited
    · simpa [done, sent, Event.done?, Event.sent?, List.filterMap_cons] using posted
  | exits serving idle next =>
    rw [quiet]
    refine ⟨serial, ?_, fun _ => idle, posted⟩
    simp [Action.queue, order, done, Worker.current, serving, idle, next]
  | ends result busy =>
    refine ⟨?_, ?_, fun _ => rfl, ?_⟩
    · simp [runs, done, Event.done?, Done.events] at serial ⊢
      simp [serial, busy, Event.isRun]
    · simp [Action.queue, order, done, Worker.current, busy, Event.done?, Done.job]
    · simp [done, sent, Event.done?, Event.sent?, Done.answer, List.filterMap_cons] at posted ⊢
      simp [posted]
  | settles first =>
    refine ⟨?_, ?_, free, ?_⟩
    · simpa [runs, done, Event.isRun, Event.done?, List.filterMap_cons] using serial
    · simpa [Action.queue, done, Worker.current, Event.done?, List.filterMap_cons] using order
    · simpa [done, sent, Event.done?, Event.sent?, List.filterMap_cons, first] using posted
  | drops first =>
    refine ⟨?_, ?_, free, ?_⟩
    · simpa [runs, done, Event.isRun, Event.done?, List.filterMap_cons] using serial
    · simpa [Action.queue, done, Worker.current, Event.done?, List.filterMap_cons] using order
    · simpa [done, sent, Event.done?, Event.sent?, List.filterMap_cons, first] using posted
  | givesUp waits =>
    rw [quiet]
    exact ⟨serial, order, free, posted⟩
  | rests a uncalled unmarked =>
    have same : a.queue jobs = jobs := by
      cases a with
      | call request => exact absurd rfl (uncalled request)
      | shutdown => exact absurd rfl unmarked
      | _ => rfl
    rw [quiet, same]
    exact ⟨serial, order, free, posted⟩

theorem InOrder.ids {jobs : List (Job ι)} {c : Course ι α} (h : c.InOrder jobs) :
    c.sent.map Prod.fst ++ c.worker.posted.map Prod.fst <+: jobs.filterMap Job.id? := by
  have answered : c.sent.map Prod.fst ++ c.worker.posted.map Prod.fst = c.done.map Done.id := by
    rw [← List.map_append, ← h.posted, List.map_map]
    rfl
  have asked : (c.done.map Done.job).filterMap Job.id? = c.done.map Done.id := by
    rw [List.filterMap_map]
    exact congrFun (List.filterMap_eq_map (f := Done.id)) c.done
  rw [answered, h.jobs, List.append_assoc, List.filterMap_append, asked]
  exact List.prefix_append _ _

/-- What the promises of the calls have come to. -/
structure Settled (actions : List (Action ι α)) (c : Course ι α) : Prop where
  numbered : c.worker.promises.length = (queued actions).countP Job.isCall
  /-- Nobody who still waits has been sent a result. -/
  waiting : ∀ id, c.worker.promise? id = some .pending → id ∉ c.sent.map Prod.fst
  heard : ∀ id result, c.worker.promise? id = some (.settled result) ↔
    .delivered id result true ∈ c.events
  unheard : ∀ id result, .delivered id result false ∈ c.events →
    c.worker.promise? id = some .cancelled
  cancelled : ∀ id, c.worker.promise? id = some .cancelled → .cancel id ∈ actions

theorem Settled.carry {actions : List (Action ι α)} {c : Course ι α} (h : c.Settled actions)
    {a : Action ι α} {w : Worker ι α} {events : List (Event ι α)}
    (uncalled : (a.queue (queued actions)).countP Job.isCall = (queued actions).countP Job.isCall)
    (same : w.promises = c.worker.promises)
    (silent : ∀ id result heard, .delivered id result heard ∉ events) :
    (⟨w, c.events ++ events⟩ : Course ι α).Settled (actions ++ [a]) := by
  have promise (id : Nat) : w.promise? id = c.worker.promise? id := by
    rw [Worker.promise?, Worker.promise?, same]
  have unsent : events.filterMap Event.sent? = [] := by
    refine List.filterMap_eq_nil_iff.mpr fun event mem => ?_
    cases event with
    | delivered id result heard => exact absurd mem (silent id result heard)
    | _ => rfl
  have delivered {id : Nat} {result : α} {heard : Bool} :
      .delivered id result heard ∈ c.events ++ events ↔ .delivered id result heard ∈ c.events := by
    simp [silent]
  constructor
  case numbered => rw [queued_concat, uncalled, same, h.numbered]
  case waiting =>
    intro id pending
    rw [sent, List.filterMap_append, unsent, List.append_nil]
    exact h.waiting id (promise id ▸ pending)
  case heard =>
    intro id result
    rw [promise, delivered]
    exact h.heard id result
  case unheard =>
    intro id result dropped
    rw [promise]
    exact h.unheard id result (delivered.mp dropped)
  case cancelled =>
    intro id gone
    exact List.mem_append_left _ (h.cancelled id (promise id ▸ gone))

theorem mem_sent {c : Course ι α} {id : Nat} {result : α} {heard : Bool}
    (mem : .delivered id result heard ∈ c.events) : id ∈ c.sent.map Prod.fst :=
  List.mem_map.mpr ⟨(id, result), List.mem_filterMap.mpr ⟨_, mem, rfl⟩, rfl⟩

section

variable {actions : List (Action ι α)} {c : Course ι α} (h : c.Settled actions)
  (order : c.InOrder (queued actions))
include h

theorem Settled.later {a : Action ι α} {id : Nat} (gone : c.worker.promise? id = some .cancelled) :
    .cancel id ∈ actions ++ [a] := List.mem_append_left _ (h.cancelled id gone)

include order

theorem Settled.known :
    ∀ id ∈ c.sent.map Prod.fst ++ c.worker.posted.map Prod.fst, id < c.worker.promises.length := by
  intro id mem
  have listed := order.ids.subset mem
  rw [ids_queued, List.mem_range, ← h.numbered] at listed
  exact listed

theorem Settled.queues (request : ι) :
    (⟨{ c.worker with
        queue := c.worker.queue ++ [.call c.worker.promises.length request]
        promises := c.worker.promises ++ [.pending] }, c.events⟩ : Course ι α).Settled
      (actions ++ [.call request]) := by
  have old {id : Nat} (mem : id ∈ c.sent.map Prod.fst) : id ≠ c.worker.promises.length :=
    (h.known order id (List.mem_append_left _ mem)).ne
  constructor
  case numbered => simp [Action.queue, Job.isCall, h.numbered]
  case waiting =>
    intro id pending mem
    rw [Worker.promise?_push, if_neg (old mem)] at pending
    exact h.waiting id pending mem
  case heard =>
    intro id result
    rw [Worker.promise?_push]
    split
    · next new =>
      have unknown : .delivered id result true ∉ c.events := fun mem => old (mem_sent mem) new
      simp [unknown]
    · exact h.heard id result
  case unheard =>
    intro id result mem
    rw [Worker.promise?_push, if_neg (old (mem_sent mem))]
    exact h.unheard id result mem
  case cancelled =>
    intro id gone
    rw [Worker.promise?_push] at gone
    split at gone
    · cases gone
    · exact h.later gone

theorem Settled.settles {id : Nat} {result : α} {posted : List (Nat × α)}
    (first : c.worker.posted = (id, result) :: posted)
    (waits : c.worker.promise? id = some .pending) :
    (⟨{ c.worker with posted, promises := c.worker.promises.set id (.settled result) },
      c.events ++ [.delivered id result true]⟩ : Course ι α).Settled (actions ++ [.deliver]) := by
  have made : id < c.worker.promises.length := h.known order id (by simp [first])
  have unsent : id ∉ c.sent.map Prod.fst := h.waiting id waits
  have promise (k : Nat) :
      ({ c.worker with posted, promises := c.worker.promises.set id (.settled result) } :
        Worker ι α).promise? k = if k = id then some (.settled result) else c.worker.promise? k :=
    Worker.promise?_set made
  constructor
  case numbered => simpa [Action.queue] using h.numbered
  case waiting =>
    intro k pending
    rw [promise] at pending
    split at pending
    · cases pending
    · next other => simpa [sent, Event.sent?, other] using h.waiting k pending
  case heard =>
    intro k r
    rw [promise]
    split
    · next here =>
      subst here
      have fresh : .delivered k r true ∉ c.events := fun mem => unsent (mem_sent mem)
      simp [fresh, eq_comm]
    · next other => simpa [other] using h.heard k r
  case unheard =>
    intro k r mem
    have mem : .delivered k r false ∈ c.events := by simpa using mem
    have other : k ≠ id := fun here => unsent (here ▸ mem_sent mem)
    rw [promise, if_neg other]
    exact h.unheard k r mem
  case cancelled =>
    intro k gone
    rw [promise] at gone
    split at gone
    · cases gone
    · exact h.later gone

theorem Settled.drops {id : Nat} {result : α} {posted : List (Nat × α)}
    (first : c.worker.posted = (id, result) :: posted)
    (gone : c.worker.promise? id ≠ some .pending) :
    (⟨{ c.worker with posted }, c.events ++ [.delivered id result false]⟩ : Course ι α).Settled
      (actions ++ [.deliver]) := by
  have promise (k : Nat) :
      ({ c.worker with posted } : Worker ι α).promise? k = c.worker.promise? k := rfl
  constructor
  case numbered => simpa [Action.queue] using h.numbered
  case waiting =>
    intro k pending
    have other : k ≠ id := fun here => gone (here ▸ pending)
    simpa [sent, Event.sent?, other] using h.waiting k pending
  case heard =>
    intro k r
    simpa [promise] using h.heard k r
  case unheard =>
    intro k r mem
    have mem : .delivered k r false ∈ c.events ∨ k = id ∧ r = result := by simpa using mem
    rcases mem with mem | ⟨rfl, rfl⟩
    · exact h.unheard k r mem
    · have made : k < c.worker.promises.length := h.known order k (by simp [first])
      cases known : c.worker.promise? k with
      | none => exact absurd (List.getElem?_eq_none_iff.mp known) (by omega)
      | some p =>
        cases p with
        | pending => exact absurd known gone
        | settled earlier =>
          -- a result is posted once, and this one has been sent already
          have single : (c.sent.map Prod.fst ++ c.worker.posted.map Prod.fst).Nodup := by
            refine List.Nodup.sublist order.ids.sublist ?_
            rw [ids_queued]
            exact List.nodup_range
          have sent : k ∈ c.sent.map Prod.fst := mem_sent ((h.heard k earlier).mp known)
          have again : k ∈ c.worker.posted.map Prod.fst := by simp [first]
          exact absurd rfl ((List.nodup_append.mp single).2.2 k sent k again)
        | cancelled => exact known
  case cancelled =>
    intro k gone
    exact h.later gone

omit order in
theorem Settled.givesUp {id : Nat} (waits : c.worker.promise? id = some .pending) :
    (⟨{ c.worker with promises := c.worker.promises.set id .cancelled }, c.events⟩ :
      Course ι α).Settled (actions ++ [.cancel id]) := by
  have made : id < c.worker.promises.length := (List.getElem?_eq_some_iff.mp waits).1
  have promise (k : Nat) :
      ({ c.worker with promises := c.worker.promises.set id .cancelled } : Worker ι α).promise? k =
        if k = id then some .cancelled else c.worker.promise? k := Worker.promise?_set made
  constructor
  case numbered => simpa [Action.queue] using h.numbered
  case waiting =>
    intro k pending
    rw [promise] at pending
    split at pending
    · cases pending
    · exact h.waiting k pending
  case heard =>
    intro k r
    rw [promise]
    split
    · next here =>
      have unsettled : .delivered k r true ∉ c.events := by
        rw [← h.heard, here, waits]
        simp
      simp [unsettled]
    · exact h.heard k r
  case unheard =>
    intro k r mem
    rw [promise]
    split
    · rfl
    · exact h.unheard k r mem
  case cancelled =>
    intro k gone
    rw [promise] at gone
    split at gone
    · next here => simp [here]
    · exact h.later gone

theorem Settled.step (a : Action ι α) : (c.step a).Settled (actions ++ [a]) := by
  have acts := c.worker.act_acts a
  unfold Course.step
  generalize c.worker.act a = w, c.worker.seen a = events at acts
  cases acts with
  | queues request =>
    rw [List.append_nil]
    exact h.queues order request
  | marks => exact h.carry (by simp [Action.queue, Job.isCall]) rfl nofun
  | begins serving idle next => exact h.carry rfl rfl (by simp)
  | exits serving idle next => exact h.carry rfl rfl nofun
  | ends result busy => exact h.carry rfl rfl (by simp)
  | settles first waits => exact h.settles order first waits
  | drops first gone => exact h.drops order first gone
  | givesUp waits =>
    rw [List.append_nil]
    exact h.givesUp waits
  | rests a uncalled unmarked =>
    refine h.carry ?_ rfl nofun
    cases a with
    | call request => exact absurd rfl (uncalled request)
    | shutdown => exact absurd rfl unmarked
    | _ => rfl

end

theorem of_holds (actions : List (Action ι α)) :
    (of actions).InOrder (queued actions) ∧ (of actions).Settled actions := by
  induction actions using List.reverseRecOn with
  | nil => exact ⟨⟨rfl, rfl, nofun, rfl⟩, ⟨rfl, nofun, by simp [Worker.promise?], nofun, nofun⟩⟩
  | append_singleton actions a ih =>
    obtain ⟨order, settled⟩ := ih
    rw [of_concat, queued_concat]
    exact ⟨order.step settled.numbered a, settled.step order a⟩

end Course
end RouteFeed.Archive
