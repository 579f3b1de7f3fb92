import RouteFeed.Proofs.CommandLine.Items
import RouteFeed.Proofs.CommandLine.Faults
import RouteFeed.Proofs.CommandLine.Morphism
import RouteFeed.Proofs.Session.Openings

/-! From a command line to the source. What the items of a command line order is what the source of the
selected interface is opened with: each list in its order, and of each option the last value. -/
namespace RouteFeed

variable {σ : Type}

namespace Named

variable {α : Type}

/-- Of values that are put one after another, the last one under a name is found. -/
theorem get?_foldl_put (pairs : List (String × α)) (vs : Named α) (name : String) :
    get? (pairs.foldl (fun vs pair => put vs pair.1 pair.2) vs) name =
      ((pairs.filter fun pair => pair.1 = name).getLast?.map Prod.snd).or (get? vs name) := by
  induction pairs using List.reverseRecOn with
  | nil => rfl
  | append_singleton pairs pair ih =>
    rw [List.foldl_append, List.foldl_cons, List.foldl_nil, get?_put, ih]
    by_cases here : pair.1 = name
    · simp [here, List.filter_append]
    · simp [here, List.filter_append]

theorem nodup_foldl_put (pairs : List (String × α)) {vs : Named α}
    (distinct : (vs.map Prod.fst).Nodup) :
    ((pairs.foldl (fun vs pair => put vs pair.1 pair.2) vs).map Prod.fst).Nodup := by
  induction pairs generalizing vs with
  | nil => exact distinct
  | cons pair pairs ih => exact ih (nodup_put distinct pair.1 pair.2)

end Named

namespace FilterSet

theorem foldl_addFilter (s : FilterSet) (kind : FilterKind) (values : List (Given String)) :
    values.foldl (fun s value => s.addFilter kind value) s =
      { s with entries := s.entries ++ values.map fun value => ⟨kind, value⟩ } := by
  induction values generalizing s with
  | nil => simp
  | cons value values ih =>
    rw [List.foldl_cons, ih]
    simp [addFilter]

theorem values_of_kind (kind k : FilterKind) (values : List (Given String)) :
    ((values.map fun value => (⟨kind, value⟩ : FilterEntry)).filter fun e => e.kind == k).map
      FilterEntry.value = if kind = k then values else [] := by
  by_cases same : kind = k
  · simp [same, List.filter_map, Function.comp_def]
  · simp [same, List.filter_map, Function.comp_def]

end FilterSet

namespace CommandLine

theorem addWindows_values (filters : FilterSet) (ws : List TimeWindow) :
    addWindows filters (ws.map .value) = .ok { filters with windows := filters.windows ++ ws } := by
  induction ws generalizing filters with
  | nil => simp [addWindows]
  | cons w ws ih => simp [addWindows, ih, FilterSet.addWindow]

/-- The filters of arguments from which nothing has been erased are split again as they were given. -/
theorem Arguments.filters_of_values {a : Arguments} {ws : List TimeWindow} {n : Int}
    (windows : a.windows = ws.map .value) (period : a.period = .value n) :
    ∃ filters, a.filters = .ok filters ∧ filters.windows = ws ∧
      filters.snapshot =
        { projects := a.projects, collectors := a.collectors, recordTypes := a.types, windows := ws
          replayPeriod := if 0 < n then some n else none } := by
  unfold Arguments.filters
  simp only [FilterSet.foldl_addFilter, windows, addWindows_values, period]
  refine ⟨_, rfl, ?_, ?_⟩
  · unfold FilterSet.addReplayPeriod
    split <;> rfl
  · unfold FilterSet.addReplayPeriod
    split <;>
      simp [FilterSet.snapshot, FilterSet.valuesOf, List.filter_append, FilterSet.values_of_kind]

def Switch.limit? (settings : Settings) : Switch → Option Int
  | .project => some settings.maxProjects
  | .collector => some settings.maxCollectors
  | .type => some settings.maxRecordTypes
  | .window => some settings.maxWindows
  | .option => some settings.maxOptions
  | _ => none

def lastSetting (items : List Item) (name : String) : Option String :=
  let settings := (valuesOf .option items).filterMap fun raw => setting? (.value raw)
  (settings.filter fun setting => setting.1 = name).getLast?.map Prod.snd

structure Orders (settings : Settings) (registry : Registry σ) (items : List Item) (b : Backend σ) :
    Prop where
  proper : ∀ item ∈ items, item.Proper
  parses : ∀ item ∈ items, item.Parses
  limits : ∀ s (limit : Int), s.limit? settings = some limit → (valuesOf s items).length ≤ limit
  selects : registry.Selects ((valuesOf .interface items).getLast?.map .value) b
  plain : ∀ raw ∈ valuesOf .option items, raw.toList.head? ≠ some '?'
  owned : ∀ raw ∈ valuesOf .option items, ∃ name value,
    Text.cutFirst? ',' raw.toList = some (name, value) ∧ b.owns (String.ofList name)
  windowed : valuesOf .window items ≠ []

/-- The source is opened as the items order. -/
structure Follows (config : StreamConfig) (items : List Item) : Prop where
  projects : config.filters.projects = (valuesOf .project items).map .value
  collectors : config.filters.collectors = (valuesOf .collector items).map .value
  recordTypes : config.filters.recordTypes = (valuesOf .type items).map .value
  windows : config.filters.windows.map some =
    (valuesOf .window items).map fun text => TimeWindow.ofText? text.toList
  replayPeriod : config.filters.replayPeriod = (periodsOf items).getLast?.filter (0 < ·)
  options : ∀ name, Named.get? config.options name = lastSetting items name
  names : (config.options.map Prod.fst).Nodup
  blocking : config.blocking = true ↔ .flag .blocking ∈ items

/-- The items of each option are the same in the same order. -/
def Rearranged (items others : List Item) : Prop :=
  ∀ s, valuesOf s others = valuesOf s items ∧ (.flag s ∈ others ↔ .flag s ∈ items)

def sessionOf (registry : Registry σ) (b : Backend σ) (items : List Item) : Session σ :=
  { fresh registry b with options := assigned [] (argumentsOf items).options }

variable {settings : Settings} {registry : Registry σ} {items : List Item} {b : Backend σ}

theorem mem_valuesOf {s : Switch} {text : String} : text ∈ valuesOf s items ↔ .given s text ∈ items := by
  unfold valuesOf
  rw [List.mem_filterMap]
  constructor
  · rintro ⟨item, member, value⟩
    cases item with
    | flag t => cases value
    | given t other =>
      rw [Item.value?] at value
      split at value
      · next same =>
        cases value
        exact same ▸ member
      · cases value
  · intro member
    exact ⟨_, member, if_pos rfl⟩

theorem map_some_filterMap {α β : Type} {f : α → Option β} {xs : List α}
    (all : ∀ x ∈ xs, ∃ y, f x = some y) : (xs.filterMap f).map some = xs.map f := by
  induction xs with
  | nil => rfl
  | cons x xs ih =>
    obtain ⟨y, here⟩ := all x List.mem_cons_self
    rw [List.filterMap_cons_some here, List.map_cons, List.map_cons, here,
      ih fun x member => all x (List.mem_cons_of_mem _ member)]

theorem Orders.windows (h : Orders settings registry items b) :
    (windowsOf items).map some =
      (valuesOf .window items).map fun text => TimeWindow.ofText? text.toList :=
  map_some_filterMap fun text member =>
    have parses : (Item.given .window text).Parses := h.parses _ (mem_valuesOf.mp member)
    Option.isSome_iff_exists.mp parses

theorem excess_eq_nil {number : Nat} {limit : Int} (within : number ≤ limit) (what : String) :
    excess number limit what = [] := if_neg (by omega)

theorem Orders.objections (h : Orders settings registry items b) (built : registry.Built) :
    (argumentsOf items).objections settings registry = [] := by
  have windows : (argumentsOf items).windows.length = (valuesOf .window items).length := by
    have same := congrArg List.length h.windows
    simpa [argumentsOf] using same
  have within (s : Switch) (limit : Int) (limited : s.limit? settings = some limit) (what : String) :
      excess (valuesOf s items).length limit what = [] := excess_eq_nil (h.limits s limit limited) what
  have chosen : interfaceObjections registry (argumentsOf items).interface = [] :=
    interfaceObjections_of_selects built h.selects
  unfold Arguments.objections Arguments.excesses
  rw [windows, chosen]
  simp only [argumentsOf, List.length_map, within .project _ rfl, within .collector _ rfl,
    within .type _ rfl, within .window _ rfl, within .option _ rfl, List.append_nil]

theorem Orders.request (h : Orders settings registry items b) (built : registry.Built) :
    request settings registry (argvOf items) =
      .ok (.retrieval (sessionOf registry b items) (argumentsOf items)) := by
  have whole : .erased ∉ (argumentsOf items).options := by simp [argumentsOf]
  have asked : asksForOptions (argumentsOf items).options = .ok false := by
    have steady : ¬ Stumbles (argumentsOf items).options := fun stumbles =>
      whole ((List.takeWhile_sublist _).subset stumbles)
    have unasked : (argumentsOf items).options.any asks = false := by
      simpa [argumentsOf, asks] using h.plain
    rw [asksForOptions_eq, if_neg steady, unasked]
  have applied : applyOptions (fresh registry b) (argumentsOf items).options =
      .ok (sessionOf registry b items) := by
    have allowed : (argumentsOf items).options.flatMap (optionObjections b) = [] := by
      refine List.flatMap_eq_nil_iff.mpr fun option member => ?_
      obtain ⟨raw, given, rfl⟩ := List.mem_map.mp member
      obtain ⟨name, value, cut, owns⟩ := h.owned raw given
      simp [optionObjections, setting?, cut, owns]
    rw [applyOptions_eq rfl (built.info h.selects.member) whole, allowed]
    rfl
  unfold CommandLine.request
  rw [parse_argvOf h.proper h.parses]
  rcases request_cases built (a := argumentsOf items) rfl settings with
    ⟨f, rest, objections, _⟩ | ⟨c, _, selects, same⟩
  · cases objections.symm.trans (h.objections built)
  · obtain rfl := selects.unique built h.selects
    change (argumentsOf items).request settings registry = _
    rw [same, asked]
    change (applyOptions (fresh registry c) _).map _ = _
    rw [applied]
    rfl

theorem positive_getLast? (ns : List Int) :
    (if 0 < ns.getLast?.getD 0 then some (ns.getLast?.getD 0) else none) =
      ns.getLast?.filter (0 < ·) := by
  cases ns.getLast? with
  | none => rfl
  | some n => simp [Option.filter]

theorem Orders.follows (h : Orders settings registry items b) :
    ∃ filters, (argumentsOf items).filters = .ok filters ∧ filters.windows ≠ [] ∧
      Follows ((sessionOf registry b items).config filters (argumentsOf items).blocking) items := by
  obtain ⟨filters, made, windows, snapshot⟩ :=
    Arguments.filters_of_values (a := argumentsOf items) rfl rfl
  have windowed : filters.windows ≠ [] := by
    rw [windows]
    intro none
    have same := h.windows
    rw [none] at same
    exact h.windowed (List.map_eq_nil_iff.mp same.symm)
  have setting : (argumentsOf items).options.filterMap setting? =
      (valuesOf .option items).filterMap fun raw => setting? (.value raw) := by
    simp only [argumentsOf, List.filterMap_map]
    rfl
  refine ⟨filters, made, windowed, ?_⟩
  constructor
  case projects | collectors | recordTypes => simp only [Session.config, snapshot, argumentsOf]
  case windows => simpa only [Session.config, snapshot] using h.windows
  case replayPeriod => simpa only [Session.config, snapshot] using positive_getLast? (periodsOf items)
  case options =>
    intro name
    change Named.get? (assigned [] (argumentsOf items).options) name = _
    rw [assigned, setting, Named.get?_foldl_put]
    exact Option.or_none
  case names => exact Named.nodup_foldl_put _ List.nodup_nil
  case blocking => simp [Session.config, argumentsOf]

theorem Rearranged.arguments {others : List Item} (h : Rearranged items others) :
    argumentsOf others = argumentsOf items := by
  have flags (s : Switch) : others.contains (.flag s) = items.contains (.flag s) := by
    rw [Bool.eq_iff_iff]
    simpa using (h s).2
  simp only [argumentsOf, windowsOf, periodsOf, (h _).1, flags]

/-- However the items of different options are mixed, they ask for the same. -/
theorem Rearranged.request {others : List Item} (h : Rearranged items others)
    (proper : ∀ item ∈ items, item.Proper) (parses : ∀ item ∈ items, item.Parses) :
    CommandLine.request settings registry (argvOf others) =
      CommandLine.request settings registry (argvOf items) := by
  have among : ∀ item ∈ others, item ∈ items := by
    intro item member
    cases item with
    | flag s => exact (h s).2.mp member
    | given s text =>
      have listed := mem_valuesOf.mpr member
      rw [(h s).1] at listed
      exact mem_valuesOf.mp listed
  unfold CommandLine.request
  rw [parse_argvOf proper parses, parse_argvOf (fun item member => proper item (among item member))
    fun item member => parses item (among item member), h.arguments]

variable [Source σ]

/-- Over an interface whose factory makes a source, the run of a command line of items opens that source
once, as the items order; and the run does not depend on how items of different options are mixed. -/
theorem run_opens_as_ordered {source : σ} (built : registry.Built)
    (orders : Orders settings registry items b) (made : b.factory = .ok source) :
    let run := run settings registry.opened (argvOf items)
    run.map Opened.source = CommandLine.run settings registry (argvOf items) ∧
    (∃ session config, run.session = some session ∧ session.backend = b.id ∧
      session.openings = [config] ∧ Follows config items) ∧
    ∀ others, Rearranged items others →
      CommandLine.run settings registry (argvOf others) =
        CommandLine.run settings registry (argvOf items) := by
  intro run
  refine ⟨?_, ?_, fun others rearranged => ?_⟩
  · have same := runFrom_map Opened.source_isImage (fun _ => rfl) { listener := some signalToken }
      settings registry.opened (argvOf items)
    rw [Registry.opened_map] at same
    exact same.symm
  · obtain ⟨filters, filtered, windows, follows⟩ := orders.follows
    have asked : request settings registry.opened (argvOf items) =
        .ok (.retrieval ((sessionOf registry b items).map Opened.made) (argumentsOf items)) := by
      rw [Registry.opened, request_map, orders.request built]
      rfl
    have info : registry.opened.info b.id = .ok (b.map Opened.made) := by
      rw [Registry.opened, Session.info_map, built.info orders.selects.member]
      rfl
    have opened : (((sessionOf registry b items).map Opened.made).start filters
        (argumentsOf items).blocking).session.HasOpened b.id
          [(sessionOf registry b items).config filters (argumentsOf items).blocking] :=
      Session.start_hasOpened (b := b.map Opened.made) (o := Opened.made source) ⟨rfl, windows, info⟩ (by
        simp only [Backend.map, made]
        rfl)
    -- pulling and stopping open nothing more
    have kept := readStreamFrom_preserves { listener := some signalToken } opened
      (fun _ tokens token interruption hs => hs.next tokens token interruption)
      (fun _ hs => hs.stop) (.resolve (argumentsOf items).records (argumentsOf items).bgpdump
        (argumentsOf items).elements) settings.elementBuffer
    refine ⟨_, _, ?_, kept.1, kept.2, follows⟩
    simp only [run, run_of_retrieval asked, retrieval, filtered]
    rfl
  · unfold CommandLine.run
    rw [rearranged.request orders.proper orders.parses]

def twoFeeds : Registry ScriptedSource :=
  (Registry.add {} "dump" "" (.ok {})).add "feed" "" (.ok {}) [⟨"url", ""⟩]

def mixedItems : List Item := [
  .given .collector "x", .given .project "b", .given .option "url,u", .given .interface "none",
  .flag .blocking, .given .window "3,4", .given .period "7", .given .project "a",
  .given .interface "feed", .given .option "url,v,w", .given .window "0,9", .given .period "5"]

theorem run_opens_mixed :
    ∃ session config, (run {} twoFeeds.opened (argvOf mixedItems)).session = some session ∧
      session.openings = [config] ∧ config.filters.projects = [.value "b", .value "a"] ∧
      config.filters.replayPeriod = some 5 ∧ Named.get? config.options "url" = some "v,w" := by
  have built : twoFeeds.Built := .add (.add .empty _ _ _ _ _) _ _ _ _ _
  have member : (⟨2, "feed", "", [⟨"url", ""⟩], .ok {}⟩ : Backend ScriptedSource) ∈
      twoFeeds.backends := .tail _ (.head _)
  have orders : Orders {} twoFeeds mixedItems ⟨2, "feed", "", [⟨"url", ""⟩], .ok {}⟩ := by
    constructor
    case proper => decide
    case parses => decide
    case limits =>
      intro s limit limited
      cases s <;> cases limited <;> decide
    case selects => exact .named member
    case plain => decide
    case owned =>
      intro raw given
      have known : raw = "url,u" ∨ "url,v,w" = raw := by
        simpa [mixedItems, valuesOf, Item.value?] using given
      rcases known with rfl | rfl
      · exact ⟨_, _, rfl, rfl⟩
      · exact ⟨_, _, rfl, rfl⟩
    case windowed => decide
  obtain ⟨-, ⟨session, config, ran, -, openings, follows⟩, -⟩ :=
    run_opens_as_ordered built orders rfl
  refine ⟨session, config, ran, openings, follows.projects, follows.replayPeriod.trans ?_,
    (follows.options "url").trans ?_⟩
  · decide
  · decide

end CommandLine
end RouteFeed
