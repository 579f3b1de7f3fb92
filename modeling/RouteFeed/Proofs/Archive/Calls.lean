import RouteFeed.Proofs.Archive.Service

/-! What a worker does for its callers, in every course of actions. Calls are run one at a time in the
order in which they were queued; a caller gets the result of its own call or none; callers that give
up do not disturb the others; and the calls that have been run at the end are those that were queued
before the stop mark. -/
namespace RouteFeed.Archive

variable {ι α : Type}

namespace Worker

theorem settle_eq (w : Worker ι α) (id : Nat) (result : α) :
    w.settle id result = { w with promises := (w.settle id result).promises } := by
  unfold settle
  split <;> rfl

theorem length_settle (w : Worker ι α) (id : Nat) (result : α) :
    (w.settle id result).promises.length = w.promises.length := by
  unfold settle
  split
  · exact List.length_set
  · rfl

theorem promise?_settle (w : Worker ι α) (id k : Nat) (result : α) :
    (w.settle id result).promise? k =
      if k = id ∧ w.awaits id then some (.settled result) else w.promise? k := by
  unfold settle
  split
  · next waits =>
    rw [promise?_set (List.getElem?_eq_some_iff.mp waits).1]
    simp [awaits_eq_true.mpr waits]
  · next gone => rw [if_neg fun both => gone (awaits_eq_true.mp both.2)]

theorem promise?_cancel (w : Worker ι α) (id k : Nat) :
    (w.cancel id).promise? k =
      if k = id ∧ w.awaits id then some .cancelled else w.promise? k := by
  unfold cancel
  split
  · next waits =>
    rw [promise?_set (List.getElem?_eq_some_iff.mp waits).1]
    simp [awaits_eq_true.mpr waits]
  · next gone => rw [if_neg fun both => gone (awaits_eq_true.mp both.2)]

/-- What a call has come to does not change any more. -/
theorem promise?_act {w : Worker ι α} {id : Nat} {p : Promise α} (known : w.promise? id = some p)
    (fixed : p ≠ .pending) (a : Action ι α) : (w.act a).promise? id = some p := by
  have unmoved {k : Nat} : ¬(id = k ∧ w.awaits k) := by
    rintro ⟨rfl, waits⟩
    exact fixed (Option.some.inj (known.symm.trans (awaits_eq_true.mp waits)))
  cases a with
  | call request =>
    have made : id < w.promises.length := (List.getElem?_eq_some_iff.mp known).1
    exact promise?_push.trans ((if_neg made.ne).trans known)
  | cancel k => rw [act, promise?_cancel, if_neg unmoved, known]
  | shutdown => exact known
  | begin =>
    have acts := w.act_acts .begin
    generalize w.act .begin = w', w.seen .begin = events at acts
    cases acts <;> exact known
  | finish result =>
    have acts := w.act_acts (.finish result)
    generalize w.act (.finish result) = w', w.seen (.finish result) = events at acts
    cases acts <;> exact known
  | deliver =>
    rw [act, deliver]
    split
    · exact known
    · exact (promise?_settle _ _ _ _).trans ((if_neg unmoved).trans known)

/-- The worker is another one some of whose callers have given up. -/
structure Abandons (w v : Worker ι α) : Prop where
  queue : w.queue = v.queue
  running : w.running = v.running
  posted : w.posted = v.posted
  exited : w.exited = v.exited
  made : w.promises.length = v.promises.length
  kept : ∀ id, w.promise? id = v.promise? id ∨ w.promise? id = some .cancelled

theorem Abandons.refl (w : Worker ι α) : w.Abandons w :=
  ⟨rfl, rfl, rfl, rfl, rfl, fun _ => .inl rfl⟩

theorem Abandons.cancel {w v : Worker ι α} (h : w.Abandons v) (id : Nat) :
    (w.cancel id).Abandons v := by
  unfold Worker.cancel
  split
  · next waits =>
    refine ⟨h.queue, h.running, h.posted, h.exited, ?_, fun k => ?_⟩
    · exact List.length_set.trans h.made
    · rw [promise?_set (List.getElem?_eq_some_iff.mp waits).1]
      split
      · exact .inr rfl
      · exact h.kept k
  · exact h

theorem Abandons.settle {w v : Worker ι α} (h : w.Abandons v) (id : Nat) (result : α) :
    (w.settle id result).Abandons (v.settle id result) := by
  have made : (w.settle id result).promises.length = (v.settle id result).promises.length := by
    rw [length_settle, length_settle, h.made]
  have kept (k : Nat) : (w.settle id result).promise? k = (v.settle id result).promise? k ∨
      (w.settle id result).promise? k = some .cancelled := by
    rw [promise?_settle, promise?_settle]
    by_cases here : k = id
    · subst here
      rcases h.kept k with same | gone
      · rw [awaits, awaits, same]
        exact .inl rfl
      · exact .inr (by simp [awaits, gone])
    · rw [if_neg (fun both => here both.1), if_neg (fun both => here both.1)]
      exact h.kept k
  rw [settle_eq w, settle_eq v]
  exact ⟨h.queue, h.running, h.posted, h.exited, made, kept⟩

/-- The callers that have given up disturb nothing but their own calls. -/
theorem Abandons.act {w v : Worker ι α} (h : w.Abandons v) (a : Action ι α)
    (stays : a.isCancel = false) : (w.act a).Abandons (v.act a) := by
  cases a with
  | cancel id => cases stays
  | call request =>
    have pushed (u : Worker ι α) (k : Nat) : (u.act (.call request)).promise? k =
        if k = u.promises.length then some .pending else u.promise? k := promise?_push
    refine ⟨?_, h.running, h.posted, h.exited, ?_, fun k => ?_⟩
    · simp [Worker.act, Worker.call, h.queue, h.made]
    · simp [Worker.act, Worker.call, h.made]
    · rw [pushed, pushed, h.made]
      split
      · exact .inl rfl
      · exact h.kept k
  | shutdown =>
    refine ⟨?_, h.running, h.posted, h.exited, h.made, h.kept⟩
    simp [Worker.act, Worker.shutdown, h.queue]
  | begin =>
    simp only [Worker.act, Worker.begin, h.running, h.exited, h.queue]
    split
    · exact h
    · split
      · exact h
      · exact ⟨rfl, rfl, h.posted, rfl, h.made, h.kept⟩
      · exact ⟨rfl, rfl, h.posted, rfl, h.made, h.kept⟩
  | finish result =>
    simp only [Worker.act, Worker.finish, h.running]
    split
    · exact h
    · exact ⟨h.queue, rfl, congrArg (· ++ _) h.posted, h.exited, h.made, h.kept⟩
  | deliver =>
    simp only [Worker.act, Worker.deliver, h.posted]
    split
    · exact h
    · next id result posted _ =>
      have delivers : ({ w with posted } : Worker ι α).Abandons { v with posted } :=
        ⟨h.queue, h.running, rfl, h.exited, h.made, h.kept⟩
      exact delivers.settle id result

theorem Abandons.seen {w v : Worker ι α} (h : w.Abandons v) (a : Action ι α) :
    (w.seen a).filter Event.isRun = (v.seen a).filter Event.isRun := by
  cases a with
  | begin =>
    have begun : w.begin.running = v.begin.running := (h.act .begin rfl).running
    rw [Worker.seen, Worker.seen, h.running, begun]
  | finish result => rw [Worker.seen, Worker.seen, h.running]
  | deliver =>
    simp only [Worker.seen, h.posted]
    split <;> rfl
  | _ => rfl

end Worker

namespace Course

theorem of_append_promise? {actions : List (Action ι α)} {id : Nat} {p : Promise α}
    (known : (of actions).worker.promise? id = some p) (fixed : p ≠ .pending)
    (more : List (Action ι α)) : (of (actions ++ more)).worker.promise? id = some p := by
  induction more using List.reverseRecOn with
  | nil => rwa [List.append_nil]
  | append_singleton more a ih =>
    rw [← List.append_assoc, of_concat]
    exact Worker.promise?_act ih fixed a

/-- A course goes as it would have gone if no caller had given up. -/
theorem of_abandons (actions : List (Action ι α)) :
    (of actions).worker.Abandons (of (actions.filter (!·.isCancel))).worker ∧
      (of actions).runs = (of (actions.filter (!·.isCancel))).runs := by
  induction actions using List.reverseRecOn with
  | nil => exact ⟨.refl _, rfl⟩
  | append_singleton actions a ih =>
    obtain ⟨worker, runs⟩ := ih
    rw [List.filter_append, of_concat]
    cases stays : a.isCancel with
    | true =>
      cases a with
      | cancel id =>
        -- giving up is no event, and touches nothing but the promise of the call
        have erased : [(.cancel id : Action ι α)].filter (!·.isCancel) = [] := rfl
        have unseen : ((of actions).step (.cancel id)).events = (of actions).events :=
          List.append_nil _
        rw [erased, List.append_nil, Course.runs, unseen]
        exact ⟨worker.cancel id, runs⟩
      | _ => cases stays
    | false =>
      have kept : [a].filter (!·.isCancel) = [a] := by simp [stays]
      rw [kept, of_concat]
      refine ⟨worker.act a stays, ?_⟩
      unfold Course.runs at runs ⊢
      rw [Course.step, List.filter_append, runs, worker.seen, ← List.filter_append]
      rfl

/-- What a worker does for its callers, whatever the parties do. -/
structure Serves (actions : List (Action ι α)) (c : Course ι α) : Prop where
  /-- A call ends before the next one begins. -/
  serial : c.runs = c.done.flatMap Done.events ++
    c.worker.running.toList.map fun r => .began r.1 r.2
  /-- Calls are run in the order in which they were queued. -/
  ordered : c.done.map Done.job ++ c.worker.current <+: queued actions
  numbered : ∀ request, (c.worker.call request).1 = (queued actions).countP Job.isCall
  /-- No number stands for two calls. -/
  distinct : ((queued actions).filterMap Job.id?).Nodup
  /-- A caller gets nothing but the result of its own call. -/
  own : ∀ id result, c.worker.promise? id = some (.settled result) →
    ∃ d ∈ c.done, d.id = id ∧ d.result = result
  /-- A caller that has not given up gets the result of its call when it is delivered. -/
  answered : ∀ d ∈ c.done, d.answer ∉ c.worker.posted → .cancel d.id ∉ actions →
    c.worker.promise? d.id = some (.settled d.result)
  /-- A result is delivered at most once, and what a call has come to then does not change. -/
  once : (c.sent.map Prod.fst).Nodup
  final : ∀ id p, c.worker.promise? id = some p → p ≠ .pending →
    ∀ more, (of (actions ++ more)).worker.promise? id = some p
  /-- Only a caller that has given up is not heard, and a result for it changes nothing. -/
  unheard : ∀ id result, .delivered id result false ∈ c.events →
    c.worker.promise? id = some .cancelled ∧ .cancel id ∈ actions
  dropped : ∀ id result posted, c.worker.posted = (id, result) :: posted →
    c.worker.promise? id = some .cancelled → c.worker.deliver = { c.worker with posted }
  /-- Without those that gave up, the worker would do the same, and the others would get the same. -/
  undisturbed : c.worker.Abandons (of (actions.filter (!·.isCancel))).worker ∧
    c.runs = (of (actions.filter (!·.isCancel))).runs
  /-- In the end those calls have been run that were queued before the stop mark. -/
  complete : c.worker.exited = true → c.worker.running = none ∧ .stop ∈ queued actions ∧
    c.done.map Done.job = (queued actions).takeWhile Job.isCall

theorem of_serves (actions : List (Action ι α)) : (of actions).Serves actions := by
  obtain ⟨order, settled⟩ := of_holds actions
  have numbers : ((queued actions).filterMap Job.id?).Nodup := by
    rw [ids_queued]
    exact List.nodup_range
  constructor
  case serial => exact order.serial
  case ordered => exact ⟨_, order.jobs.symm⟩
  case numbered => exact fun _ => settled.numbered
  case distinct => exact numbers
  case own =>
    intro id result known
    have delivered := (settled.heard id result).mp known
    have sent : (id, result) ∈ (of actions).sent := List.mem_filterMap.mpr ⟨_, delivered, rfl⟩
    -- results are sent in the order in which their calls were run
    have answered : (id, result) ∈ (of actions).done.map Done.answer := by
      rw [order.posted]
      exact List.mem_append_left _ sent
    obtain ⟨d, mem, rfl, rfl⟩ : ∃ d ∈ (of actions).done, d.id = id ∧ d.result = result := by
      simpa [Done.answer] using answered
    exact ⟨d, mem, rfl, rfl⟩
  case answered =>
    intro d mem arrived stays
    have answered : d.answer ∈ (of actions).sent ++ (of actions).worker.posted := by
      rw [← order.posted]
      exact List.mem_map_of_mem mem
    have sent : d.answer ∈ (of actions).sent := (List.mem_append.mp answered).resolve_right arrived
    obtain ⟨event, seen, is⟩ := List.mem_filterMap.mp sent
    cases event with
    | delivered id result heard =>
      obtain ⟨rfl, rfl⟩ : id = d.id ∧ result = d.result := by simpa [Event.sent?, Done.answer] using is
      cases heard with
      | true => exact (settled.heard _ _).mpr seen
      | false => exact absurd (settled.cancelled _ (settled.unheard _ _ seen)) stays
    | _ => cases is
  case once => exact ((List.prefix_append _ _).trans order.ids).sublist.nodup numbers
  case final => exact fun id p known fixed => of_append_promise? known fixed
  case unheard =>
    intro id result seen
    have gone := settled.unheard id result seen
    exact ⟨gone, settled.cancelled id gone⟩
  case dropped =>
    intro id result posted first gone
    have same : ({ (of actions).worker with posted } : Worker ι α).promise? id = some .cancelled :=
      gone
    simp only [Worker.deliver, first, Worker.settle, same]
  case undisturbed => exact of_abandons actions
  case complete =>
    intro exited
    have idle := order.free exited
    -- the mark has left the queue, so that it stands behind all that has been run
    have ran : queued actions =
        (of actions).done.map Done.job ++ .stop :: (of actions).worker.queue := by
      simpa [exited, idle, Worker.current] using order.jobs
    have calls : ∀ job ∈ (of actions).done.map Done.job, job.isCall = true := by
      intro job mem
      obtain ⟨d, -, rfl⟩ := List.mem_map.mp mem
      rfl
    refine ⟨idle, ?_, ?_⟩
    · simp [ran]
    · rw [ran, List.takeWhile_append_of_pos calls, List.takeWhile_cons_of_neg (by simp [Job.isCall]),
        List.append_nil]

example : (of [.call "rib", .call "updates", .begin, .cancel 0, .finish 1, .deliver, .begin, .finish 2,
    .deliver]).worker.promises = [.cancelled, .settled 2] := rfl

end Course
end RouteFeed.Archive
