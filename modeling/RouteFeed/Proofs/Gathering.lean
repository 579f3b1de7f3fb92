import Mathlib.Data.List.Induction
import RouteFeed.Filter
import RouteFeed.Proofs.Computation

/-! Filters that are gathered one after another. A snapshot holds what has been added before it, kind by
kind, and nothing that comes behind it or that has failed; what it lets through is said by these values
alone. -/
namespace RouteFeed

namespace FilterSet

inductive Call where
  | filter (kind value : String)
  | window (start finish : Value)
  | replay (seconds : Int)
  | snapshot

inductive Reply where
  | done
  | failed (f : Failure)
  | taken (filters : StreamFilters)

def answer (s : FilterSet) : Call → Reply × FilterSet
  | .filter kind value => settle s (s.addNamed kind value)
  | .window start finish => settle s ((windowOf start finish).map s.addWindow)
  | .replay seconds => settle s (s.addReplayValue (.int seconds))
  | .snapshot => (.taken s.snapshot, s)
where
  settle (s : FilterSet) : Except Failure FilterSet → Reply × FilterSet
    | .ok s => (.done, s)
    | .error f => (.failed f, s)

def replies : FilterSet → List Call → List Reply
  | _, [] => []
  | s, c :: calls => (s.answer c).1 :: (s.answer c).2.replies calls

def gathered (calls : List Call) : FilterSet := calls.foldl (fun s c => (s.answer c).2) {}

namespace Call

def Fails : Call → Prop
  | filter kind _ => ∀ k : FilterKind, k.name ≠ kind
  | window start finish => ¬∃ m n, start.toInteger = .ok m ∧ finish.toInteger = .ok n
  | replay _ | snapshot => False

def value? (k : FilterKind) : Call → Option String
  | filter kind value => if k.name = kind then some value else none
  | _ => none

def window? : Call → Option TimeWindow
  | window start finish =>
    match start.toInteger, finish.toInteger with
    | .ok m, .ok n => some ⟨m, n⟩
    | _, _ => none
  | _ => none

def period? : Call → Option Int
  | replay seconds => if 0 < seconds then some seconds else none
  | _ => none

end Call

end FilterSet

namespace FilterKind

theorem ofName_name (k : FilterKind) : ofName k.name = .ok k := by cases k <;> rfl

theorem name_injective : Function.Injective name := injective_of_reads ofName ofName_name

theorem ofName_unknown {kind : String} (unknown : ∀ k : FilterKind, k.name ≠ kind) :
    ∃ f, ofName kind = .error f := by
  have none : Named.get? (all.map fun k => (k.name, k)) kind = none := by
    simp [all, Named.get?, unknown]
  simp only [ofName, Value.choose, Value.string?_text, Option.bind_some, none]
  exact ⟨_, rfl⟩

end FilterKind

namespace StreamFilters

def valuesOf (f : StreamFilters) : FilterKind → List (Given String)
  | .project => f.projects
  | .collector => f.collectors
  | .recordType => f.recordTypes

/-- The filters of a kind let a value through. -/
def lets (f : StreamFilters) : FilterKind → String → Bool
  | .project => fun v => f.matchesProject v
  | .collector => fun v => f.matchesCollector v
  | .recordType => f.matchesRecordType

variable (f : StreamFilters)

theorem admits_map_value (values : List String) (v : String) :
    admits (values.map .value) ↑v = true ↔ values = [] ∨ v ∈ values := by
  simp [admits]

theorem matchesTime_iff (t : Int) :
    f.matchesTime t = true ↔ ∃ w ∈ f.windows, w.start ≤ t ∧ t ≤ w.finish := by
  simp [matchesTime, TimeWindow.contains]

theorem lastEnd_eq_none_iff : f.lastEnd = none ↔ f.windows = [] := by
  simp [lastEnd]

theorem lastEnd_eq_some {e : Int} (last : f.lastEnd = some e) :
    (∃ w ∈ f.windows, w.finish = e) ∧ ∀ w ∈ f.windows, w.finish ≤ e := by
  obtain ⟨member, greatest⟩ := List.max?_eq_some_iff.mp last
  exact ⟨List.mem_map.mp member, fun w given => greatest _ (List.mem_map_of_mem given)⟩

end StreamFilters

namespace FilterSet

theorem toOption_windowOf (start finish : Value) :
    (windowOf start finish).toOption = (Call.window start finish).window? := by
  simp only [windowOf, Call.window?]
  cases start.toInteger <;> cases finish.toInteger <;> rfl

theorem Call.none_of_fails {c : Call} (fails : c.Fails) :
    (∀ k, c.value? k = none) ∧ c.window? = none ∧ c.period? = none := by
  cases c with
  | filter kind value => exact ⟨fun k => if_neg (fails k), rfl, rfl⟩
  | window start finish =>
    refine ⟨fun k => rfl, ?_, rfl⟩
    cases first : start.toInteger with
    | error g => simp [window?, first]
    | ok m =>
      cases second : finish.toInteger with
      | error g => simp [window?, second]
      | ok n => exact absurd ⟨m, n, first, second⟩ fails
  | replay seconds => cases fails
  | snapshot => cases fails

variable (s : FilterSet)

theorem answer_filter (k : FilterKind) (value : String) :
    s.answer (.filter k.name value) = (.done, s.addFilter k (.value value)) := by
  rw [answer, addNamed, FilterKind.ofName_name]
  rfl

theorem answer_window {start finish : Value} {m n : Int} (first : start.toInteger = .ok m)
    (second : finish.toInteger = .ok n) :
    s.answer (.window start finish) = (.done, s.addWindow ⟨m, n⟩) := by
  rw [answer, windowOf, first, second]
  rfl

theorem answer_replay (n : Int) : s.answer (.replay n) = (.done, s.addReplayPeriod n) := by
  have set : s.addReplayValue (.int n) = .ok (s.addReplayPeriod n) := by
    by_cases positive : 0 < n <;>
      simp [addReplayValue, addReplayPeriod, isPositive, positive, bind, Except.bind] <;> rfl
  rw [answer, set]
  rfl

theorem answer_of_fails {c : Call} (fails : c.Fails) :
    (∃ g, (s.answer c).1 = .failed g) ∧ (s.answer c).2 = s := by
  cases c with
  | filter kind value =>
    obtain ⟨g, refused⟩ := FilterKind.ofName_unknown fails
    rw [answer, addNamed, refused]
    exact ⟨⟨g, rfl⟩, rfl⟩
  | window start finish =>
    have none := (toOption_windowOf start finish).trans (Call.none_of_fails fails).2.1
    cases refused : windowOf start finish with
    | ok w =>
      rw [refused] at none
      cases none
    | error g =>
      rw [answer, refused]
      exact ⟨⟨g, rfl⟩, rfl⟩
  | replay seconds => cases fails
  | snapshot => cases fails

inductive Does (s : FilterSet) : Call → Reply × FilterSet → Prop
  | filter (k value) : Does s (.filter k.name value) (.done, s.addFilter k (.value value))
  | window {start finish m n} (first : start.toInteger = .ok m) (second : finish.toInteger = .ok n) :
    Does s (.window start finish) (.done, s.addWindow ⟨m, n⟩)
  | replay (n) : Does s (.replay n) (.done, s.addReplayPeriod n)
  | snapshot : Does s .snapshot (.taken s.snapshot, s)

theorem answer_does {c : Call} (sound : ¬c.Fails) : s.Does c (s.answer c) := by
  cases c with
  | filter kind value =>
    obtain ⟨k, rfl⟩ : ∃ k : FilterKind, k.name = kind := by simpa [Call.Fails] using sound
    rw [answer_filter]
    exact .filter k value
  | window start finish =>
    obtain ⟨m, n, first, second⟩ := not_not.mp sound
    rw [answer_window s first second]
    exact .window first second
  | replay n =>
    rw [answer_replay]
    exact .replay n
  | snapshot => exact .snapshot

/-- A call fails exactly if a kind is unknown or a bound is no integer. -/
theorem fails_iff (c : Call) : c.Fails ↔ ∃ g, (s.answer c).1 = .failed g := by
  refine ⟨fun fails => (s.answer_of_fails fails).1, fun ⟨g, failed⟩ => ?_⟩
  by_contra sound
  have does := s.answer_does sound
  generalize s.answer c = answer at failed does
  cases does <;> cases failed

theorem valuesOf_addReplayPeriod (k : FilterKind) (n : Int) :
    (s.addReplayPeriod n).valuesOf k = s.valuesOf k := by
  unfold addReplayPeriod
  split <;> rfl

theorem windows_addReplayPeriod (n : Int) : (s.addReplayPeriod n).windows = s.windows := by
  unfold addReplayPeriod
  split <;> rfl

theorem replayPeriod_addReplayPeriod (n : Int) :
    (s.addReplayPeriod n).replayPeriod = if 0 < n then some n else s.replayPeriod := by
  unfold addReplayPeriod
  split <;> rfl

structure Holds (s : FilterSet) (calls : List Call) : Prop where
  values : ∀ k, s.valuesOf k = (calls.filterMap (Call.value? k)).map .value
  windows : s.windows = calls.filterMap Call.window?
  replayPeriod : s.replayPeriod = (calls.filterMap Call.period?).getLast?

variable {s} {calls : List Call}

theorem Holds.answer (holds : s.Holds calls) (c : Call) : (s.answer c).2.Holds (calls ++ [c]) := by
  by_cases fails : c.Fails
  · obtain ⟨value, window, period⟩ := Call.none_of_fails fails
    rw [(s.answer_of_fails fails).2]
    exact ⟨fun k => by simp [holds.values, value], by simp [holds.windows, window],
      by simp [holds.replayPeriod, period]⟩
  · have does := s.answer_does fails
    generalize s.answer c = answer at does
    cases does with
    | filter k value =>
      refine ⟨fun l => ?_, by simp [addFilter, holds.windows, Call.window?],
        by simp [addFilter, holds.replayPeriod, Call.period?]⟩
      rw [valuesOf_addFilter, holds.values]
      by_cases same : k = l
      · subst same
        simp [Call.value?]
      · have other : l.name ≠ k.name := fun named => same (FilterKind.name_injective named).symm
        simp [Call.value?, same, other]
    | window first second =>
      exact ⟨fun k => by simp [holds.values, Call.value?],
        by simp [addWindow, holds.windows, Call.window?, first, second],
        by simp [addWindow, holds.replayPeriod, Call.period?]⟩
    | replay n =>
      refine ⟨fun k => ?_, ?_, ?_⟩
      · simp [valuesOf_addReplayPeriod, holds.values, Call.value?]
      · simp [windows_addReplayPeriod, holds.windows, Call.window?]
      · by_cases positive : 0 < n <;>
          simp [replayPeriod_addReplayPeriod, holds.replayPeriod, Call.period?, positive]
    | snapshot =>
      exact ⟨fun k => by simp [holds.values, Call.value?], by simp [holds.windows, Call.window?],
        by simp [holds.replayPeriod, Call.period?]⟩

theorem gathered_concat (calls : List Call) (c : Call) :
    gathered (calls ++ [c]) = ((gathered calls).answer c).2 := by simp [gathered]

theorem gathered_holds (calls : List Call) : (gathered calls).Holds calls := by
  induction calls using List.reverseRecOn with
  | nil => exact ⟨fun k => rfl, rfl, rfl⟩
  | append_singleton calls c ih =>
    rw [gathered_concat]
    exact ih.answer c

theorem replies_append (s : FilterSet) (calls more : List Call) :
    s.replies (calls ++ more) =
      s.replies calls ++ (calls.foldl (fun s c => (s.answer c).2) s).replies more := by
  induction calls generalizing s with
  | nil => rfl
  | cons c calls ih => exact congrArg ((s.answer c).1 :: ·) (ih _)

/-- What a snapshot holds and lets through, if these calls have been made before it. -/
structure Reflects (f : StreamFilters) (calls : List Call) : Prop where
  values : ∀ k, f.valuesOf k = (calls.filterMap (Call.value? k)).map .value
  windows : f.windows = calls.filterMap Call.window?
  replayPeriod : f.replayPeriod = (calls.filterMap Call.period?).getLast?
  kind : ∀ k v, f.lets k v = true ↔
    calls.filterMap (Call.value? k) = [] ∨ v ∈ calls.filterMap (Call.value? k)
  time : ∀ t, f.matchesTime t = true ↔
    ∃ w ∈ calls.filterMap Call.window?, w.start ≤ t ∧ t ≤ w.finish
  endless : f.lastEnd = none ↔ calls.filterMap Call.window? = []
  lastEnd : ∀ e, f.lastEnd = some e →
    (∃ w ∈ calls.filterMap Call.window?, w.finish = e) ∧
      (∀ w ∈ calls.filterMap Call.window?, w.finish ≤ e) ∧ ∀ t, f.matchesTime t = true → t ≤ e

theorem Holds.snapshot (holds : s.Holds calls) : Reflects s.snapshot calls where
  values k := by
    rw [← holds.values]
    cases k <;> rfl
  windows := holds.windows
  replayPeriod := holds.replayPeriod
  kind k v := by
    rw [← StreamFilters.admits_map_value, ← holds.values]
    cases k <;> rfl
  time t := by
    rw [← holds.windows]
    exact s.snapshot.matchesTime_iff t
  endless := by
    rw [← holds.windows]
    exact s.snapshot.lastEnd_eq_none_iff
  lastEnd e last := by
    obtain ⟨ends, behind⟩ := s.snapshot.lastEnd_eq_some last
    rw [← holds.windows]
    refine ⟨ends, behind, fun t inside => ?_⟩
    obtain ⟨w, given, _, below⟩ := (s.snapshot.matchesTime_iff t).mp inside
    exact Int.le_trans below (behind w given)

/-- Wherever a snapshot is taken, it holds what has been added before it, and lets through just that.
A call fails exactly if a kind is unknown or a bound is no integer, and changes nothing then. -/
theorem snapshot_reflects (before after : List Call) :
    (∃ f, replies {} (before ++ .snapshot :: after) =
        replies {} before ++ .taken f :: (gathered before).replies after ∧ Reflects f before) ∧
    ∀ c : Call, (c.Fails ↔ ∃ g, ((gathered before).answer c).1 = .failed g) ∧
      (c.Fails → gathered (before ++ [c]) = gathered before) := by
  refine ⟨⟨(gathered before).snapshot, replies_append _ _ _, (gathered_holds before).snapshot⟩,
    fun c => ⟨fails_iff _ c, fun fails => ?_⟩⟩
  rw [gathered_concat]
  exact ((gathered before).answer_of_fails fails).2

theorem snapshot_reflects_refused : (Call.filter "prefix" "x").Fails ∧
    gathered [.filter "project" "ris", .filter "prefix" "x"] = gathered [.filter "project" "ris"] := by
  have fails : (Call.filter "prefix" "x").Fails := fun k => by cases k <;> decide
  exact ⟨fails, ((snapshot_reflects [.filter "project" "ris"] []).2 _).2 fails⟩

/-- A window that ends before it starts lets nothing through, but its end counts. -/
example : (gathered [.window (.int 9) (.int 20), .filter "prefix" "x", .window (.text "30") .null,
    .window (.int 40) (.text " 2_5 ")]).snapshot.lastEnd = some 25 := rfl

end FilterSet
end RouteFeed
