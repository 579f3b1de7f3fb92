import RouteFeed.Proofs.Feed.Waiting

/-! The address and the time without data over the uses of a live feed. Both are taken over from the
options before an opening is known to succeed: the address only after its check, the time before it. So
the address stays a web address, but the time is whatever was read last. -/
namespace RouteFeed.LiveSource

open Live Number

/-- The time without data that an opening takes over from its options. -/
def takes (s : LiveSource) (options : Named String) : Option Binary64 :=
  if s.isOpen || !(Named.get? options "url").all isWebAddress then none
  else (Named.get? options "idle-timeout").bind fun text => readReal text.toList

variable {s t : LiveSource}

theorem Stays.receive (h : s.Stays t) (url : Url) (reply : Reply) :
    s.Stays (t.receive url reply).2 := by
  unfold LiveSource.receive
  dsimp only
  repeat' split
  all_goals exact ⟨h.isOpen, h.blocking, h.endpoint, h.idleTimeout⟩

theorem connect_stays (s : LiveSource) : s.Stays s.connect.2 := by
  unfold connect
  dsimp only
  split
  · exact ⟨rfl, rfl, rfl, rfl⟩
  · split
    · exact ⟨rfl, rfl, rfl, rfl⟩
    · apply Stays.receive
      exact ⟨rfl, rfl, rfl, rfl⟩

/-- An opening leaves the address and the time that its options have left, whether or not it succeeds. -/
theorem start_adjusted (s : LiveSource) (config : StreamConfig) (closed : s.isOpen = false) :
    (s.start config).source.endpoint = (s.applyOptions config.options).2.endpoint ∧
      (s.start config).source.idleTimeout = (s.applyOptions config.options).2.idleTimeout := by
  unfold start
  rw [closed]
  generalize s.applyOptions config.options = applied
  obtain ⟨outcome, t⟩ := applied
  cases outcome with
  | error f => exact ⟨rfl, rfl⟩
  | ok _ =>
    have stays := connect_stays { t with filters := config.filters, blocking := config.blocking }
    dsimp only
    generalize connect _ = connected at stays ⊢
    obtain ⟨result, u⟩ := connected
    simp only [Bool.false_eq_true, if_false]
    split
    · exact ⟨rfl, rfl⟩
    · cases result with
      | error f => exact ⟨stays.endpoint, stays.idleTimeout⟩
      | ok _ => exact ⟨stays.endpoint, stays.idleTimeout⟩

theorem Adjusts.endpoint {options : Named String} {outcome : Except Failure Unit}
    (h : s.Adjusts options outcome t) (web : isWebAddress s.endpoint = true) :
    isWebAddress t.endpoint = true := by
  have given (url : (Named.get? options "url").all isWebAddress = true) :
      isWebAddress (s.readdressed options).endpoint = true := by
    unfold readdressed
    cases text : Named.get? options "url" with
    | none => exact web
    | some text' => simpa [text] using url
  cases h with
  | misdirected => exact web
  | untimed url | mistimed url | low url | timed url => exact given url

theorem Adjusts.idleTimeout {options : Named String} {outcome : Except Failure Unit}
    (h : s.Adjusts options outcome t) (closed : s.isOpen = false) :
    t.idleTimeout = (s.takes options).elim s.idleTimeout .real := by
  unfold takes
  cases h with
  | misdirected url bad => simp [closed, url, bad]
  | untimed url timeless => simp [closed, url, timeless, readdressed]
  | mistimed url timeout bad => simp [closed, url, timeout, bad, readdressed]
  | low url timeout read => simp [closed, url, timeout, read]
  | timed url timeout read => simp [closed, url, timeout, read]

theorem start_endpoint (config : StreamConfig) (web : isWebAddress s.endpoint = true) :
    isWebAddress (s.start config).source.endpoint = true := by
  cases opened : s.isOpen with
  | true => simpa [start, opened] using web
  | false =>
    rw [(start_adjusted s config opened).1]
    exact (applyOptions_adjusts s config.options).endpoint web

theorem start_idleTimeout (s : LiveSource) (config : StreamConfig) :
    (s.start config).source.idleTimeout =
      (s.takes config.options).elim s.idleTimeout .real := by
  cases opened : s.isOpen with
  | true => simp [start, takes, opened]
  | false =>
    rw [(start_adjusted s config opened).2]
    exact (applyOptions_adjusts s config.options).idleTimeout opened

/-- An opening that takes over a time at or below zero is refused. -/
theorem opened_takes {config : StreamConfig} {x : Binary64} (opened : (s.start config).result = .ok ())
    (taken : s.takes config.options = some x) : isNotPositive x = false := by
  cases already : s.isOpen with
  | true => simp [takes, already] at taken
  | false =>
    have adjusted := applyOptions_adjusts s config.options
    unfold start at opened
    rw [already] at opened
    generalize s.applyOptions config.options = applied at adjusted opened
    obtain ⟨outcome, t⟩ := applied
    cases adjusted with
    | misdirected | mistimed | low => cases opened
    | untimed url timeless => simp [takes, timeless] at taken
    | @timed text y url timeout read high =>
      have same : y = x := by simpa [takes, already, url, timeout, read] using taken
      rwa [← same]

theorem close_settings (s : LiveSource) :
    s.close.endpoint = s.endpoint ∧ s.close.idleTimeout = s.idleTimeout := by
  unfold close
  cases s.held <;> exact ⟨rfl, rfl⟩

/-- The states that a source comes to when it is opened, pulled and closed in any order, with the time
without data that has been taken over last. -/
inductive Used (first : LiveSource) : Option Binary64 → LiveSource → Prop
  | built : Used first none first
  | opened {taken s} (before : Used first taken s) (config : StreamConfig) :
    Used first ((s.takes config.options).or taken) (s.start config).source
  | pulled {taken cut answer s t} (before : Used first taken s)
    (way : (Source.pull s).Comes cut answer t) : Used first taken t
  | closed {taken s} (before : Used first taken s) : Used first taken s.close

variable {first : LiveSource} {taken : Option Binary64}

theorem Used.endpoint (h : Used first taken s) (web : isWebAddress first.endpoint = true) :
    isWebAddress s.endpoint = true := by
  induction h with
  | built => exact web
  | opened before config ih => exact start_endpoint config ih
  | @pulled taken cut answer s t before way ih =>
    have continues : s.Continues cut answer t := by simpa using (pull_proceeds s).comes way
    rw [continues.endpoint]
    exact ih
  | closed before ih =>
    rw [(close_settings _).1]
    exact ih

theorem Used.idleTimeout (h : Used first taken s) :
    s.idleTimeout = taken.elim first.idleTimeout .real := by
  induction h with
  | built => rfl
  | @opened taken s before config ih =>
    rw [start_idleTimeout, ih]
    cases s.takes config.options <;> rfl
  | @pulled taken cut answer s t before way ih =>
    have continues : s.Continues cut answer t := by simpa using (pull_proceeds s).comes way
    rw [continues.idleTimeout, ih]
  | closed before ih => rw [(close_settings _).2, ih]

/-- A number is above zero exactly if it is a number and passes the check of the options. -/
theorem gtInt_zero_iff (x : Binary64) :
    x.gtInt 0 = true ↔ x ≠ .nan ∧ isNotPositive x = false := by
  unfold Binary64.gtInt isNotPositive Binary64.leInt
  cases x with
  | nan => simp [Binary64.compareInt]
  | infinite negative => cases negative <;> simp [Binary64.compareInt]
  | finite negative mantissa exponent =>
    cases compared : (Binary64.finite negative mantissa exponent).compareInt 0 with
    | none => simp [Binary64.compareInt] at compared
    | some order => cases order <;> simp

/-- If a source was built with a web address and a time above zero, its address stays a web address.
Its time is above zero exactly if the one taken over last, if any, is a number and not at or below zero;
only an opening that is refused takes over such a one. -/
theorem settings_positive_iff (web : isWebAddress first.endpoint = true)
    (positive : FilterSet.isPositive first.idleTimeout = .ok true) (used : Used first taken s) :
    isWebAddress s.endpoint = true ∧
    (FilterSet.isPositive s.idleTimeout = .ok true ↔
      ∀ x, taken = some x → x ≠ .nan ∧ isNotPositive x = false) ∧
    ∀ config x, (s.start config).result = .ok () → s.takes config.options = some x →
      isNotPositive x = false := by
  refine ⟨used.endpoint web, ?_, fun config x opened taken => opened_takes opened taken⟩
  rw [used.idleTimeout]
  cases taken with
  | none => simpa using positive
  | some x => simp [FilterSet.isPositive, gtInt_zero_iff]

/-- To open a source with some time without data. -/
def timedBy (text : String) : StreamConfig where
  filters := { windows := [⟨0, 9⟩] }
  options := [("idle-timeout", text)]

theorem settings_positive_retried :
    let s := (((rehearsal []).start (timedBy "-1")).source.start (timedBy " 2.5 ")).source
    s.isOpen = true ∧ isWebAddress s.endpoint = true ∧
      FilterSet.isPositive s.idleTimeout = .ok true := by
  have used := (@Used.built (rehearsal [])).opened (timedBy "-1") |>.opened (timedBy " 2.5 ")
  obtain ⟨web, positive, _⟩ := settings_positive_iff (by decide +kernel) (by rfl) used
  have checked : ((((rehearsal []).start (timedBy "-1")).source.takes (timedBy " 2.5 ").options).or
      (((rehearsal []).takes (timedBy "-1").options).or none)).all
        (fun x => x != .nan && !isNotPositive x) = true := by decide +kernel
  refine ⟨by decide +kernel, web, positive.mpr fun x taken => ?_⟩
  rw [taken] at checked
  simpa using checked

/-- A time below zero is refused, but the next opening goes on with it; and what is no number is not even
refused. -/
theorem refused_time_is_used :
    let refused := ((rehearsal []).start (timedBy "-1")).source
    let later := (refused.start { filters := { windows := [⟨0, 9⟩] } }).source
    let undefined := ((rehearsal []).start (timedBy "nan")).source
    isWebAddress (rehearsal []).endpoint = true ∧
    FilterSet.isPositive (rehearsal []).idleTimeout = .ok true ∧
    refused.isOpen = false ∧
    later.isOpen = true ∧ FilterSet.isPositive later.idleTimeout = .ok false ∧
    undefined.isOpen = true ∧ FilterSet.isPositive undefined.idleTimeout = .ok false := by
  intro refused later undefined
  have negative : (rehearsal []).takes (timedBy "-1").options =
      some (.finite true 4503599627370496 (-52)) := by decide +kernel
  have untimed : refused.takes [] = none := by decide +kernel
  have kept : later.idleTimeout = .real (.finite true 4503599627370496 (-52)) := by
    rw [start_idleTimeout, untimed, Option.elim_none, start_idleTimeout, negative, Option.elim_some]
  refine ⟨by decide +kernel, rfl, by decide +kernel, by decide +kernel, ?_, by decide +kernel, rfl⟩
  rw [kept]
  rfl

end RouteFeed.LiveSource
