import RouteFeed.Proofs.Feed.Course

/-! The opening of a live feed: the course that an open source takes is that of its server's reply. -/
namespace RouteFeed.LiveSource

open Live

def readdressed (s : LiveSource) (options : Named String) : LiveSource :=
  { s with
    endpoint := (Named.get? options "url").getD s.endpoint
    clientName := (Named.get? options "client").getD s.clientName }

/-- What options make of a source, and whether they are refused. -/
inductive Adjusts (s : LiveSource) (options : Named String) :
    Except Failure Unit → LiveSource → Prop
  | misdirected {text f} (url : Named.get? options "url" = some text)
    (bad : isWebAddress text = false) : Adjusts s options (.error f) s
  | untimed (url : (Named.get? options "url").all isWebAddress = true)
    (timeless : Named.get? options "idle-timeout" = none) :
    Adjusts s options (.ok ()) (s.readdressed options)
  | mistimed {text f} (url : (Named.get? options "url").all isWebAddress = true)
    (timeout : Named.get? options "idle-timeout" = some text)
    (bad : Number.readReal text.toList = none) :
    Adjusts s options (.error f) (s.readdressed options)
  | low {text x f} (url : (Named.get? options "url").all isWebAddress = true)
    (timeout : Named.get? options "idle-timeout" = some text)
    (read : Number.readReal text.toList = some x) (low : isNotPositive x = true) :
    Adjusts s options (.error f) { s.readdressed options with idleTimeout := .real x }
  | timed {text x} (url : (Named.get? options "url").all isWebAddress = true)
    (timeout : Named.get? options "idle-timeout" = some text)
    (read : Number.readReal text.toList = some x) (high : isNotPositive x = false) :
    Adjusts s options (.ok ()) { s.readdressed options with idleTimeout := .real x }

theorem applyOptions_misdirected {s : LiveSource} {options : Named String} {text : String}
    (url : Named.get? options "url" = some text) (bad : isWebAddress text = false) :
    ∃ f, s.applyOptions options = (.error f, s) := by
  simp [applyOptions, url, setAddress, bad]

/-- With an address that is a web address, or none, only the time without data can be refused. -/
theorem applyOptions_directed {s : LiveSource} {options : Named String}
    (url : (Named.get? options "url").all isWebAddress = true) :
    s.applyOptions options =
      (Named.get? options "idle-timeout").elim (.ok (), s.readdressed options)
        (s.readdressed options).setIdleTimeout := by
  have addressed : (Named.get? options "url").elim (.ok s) s.setAddress =
      .ok { s with endpoint := (Named.get? options "url").getD s.endpoint } := by
    cases given : Named.get? options "url" with
    | none => rfl
    | some text =>
      have web : isWebAddress text = true := by simpa [given] using url
      simp [setAddress, web]
  unfold applyOptions
  rw [addressed]
  cases client : Named.get? options "client" with
  | none => cases Named.get? options "idle-timeout" <;> simp [readdressed, client]
  | some name => cases Named.get? options "idle-timeout" <;> simp [readdressed, client]

theorem applyOptions_adjusts (s : LiveSource) (options : Named String) :
    s.Adjusts options (s.applyOptions options).1 (s.applyOptions options).2 := by
  cases url : (Named.get? options "url").all isWebAddress with
  | false =>
    obtain ⟨text, given, bad⟩ := (Option.all_eq_false _ _).mp url
    obtain ⟨f, refused⟩ := applyOptions_misdirected (s := s) given (by simpa using bad)
    rw [refused]
    exact .misdirected given (by simpa using bad)
  | true =>
    rw [applyOptions_directed url]
    cases timeout : Named.get? options "idle-timeout" with
    | none => exact .untimed url timeout
    | some text =>
      simp only [Option.elim_some, setIdleTimeout]
      cases read : Number.readReal text.toList with
      | none => exact .mistimed url timeout read
      | some x =>
        cases positive : isNotPositive x with
        | true =>
          simp only [positive, if_true]
          exact .low url timeout read positive
        | false =>
          simp only [positive, Bool.false_eq_true, if_false]
          exact .timed url timeout read positive

theorem Adjusts.source {s t : LiveSource} {options : Named String} {outcome : Except Failure Unit}
    (h : s.Adjusts options outcome t) :
    ∃ endpoint clientName idleTimeout, t = { s with endpoint, clientName, idleTimeout } := by
  cases h <;> exact ⟨_, _, _, rfl⟩

theorem receive_ok {s : LiveSource} {url : Url} {reply : Reply}
    (h : (s.receive url reply).1 = .ok ()) :
    ∃ index released, (s.receive url reply).2 =
      { s with held := some index, released, stream := some (openStream index reply) } := by
  unfold receive at h ⊢
  dsimp only at h ⊢
  split at h
  · cases h
  · split at h
    · cases h
    · rename_i absolute
      rw [if_neg absolute]
      split at h
      · split at h <;> cases h
      · rename_i success
        rw [if_neg success]
        exact ⟨_, _, rfl⟩

theorem connect_ok {s : LiveSource} {reply : Reply} (server : s.server = .replies reply)
    (h : s.connect.1 = .ok ()) :
    ∃ index released requests, s.connect.2 = { s with
      held := some index, released, requests, stream := some (openStream index reply) } := by
  unfold connect at h ⊢
  dsimp only at h ⊢
  split at h
  · cases h
  · rename_i url hurl
    simp only [server] at h ⊢
    obtain ⟨index, released, hr⟩ := receive_ok h
    exact ⟨index, released, _, hr⟩

theorem start_connected {s : LiveSource} {config : StreamConfig} {reply : Reply}
    (closed : s.isOpen = false) (wanted : isWanted config.filters = true)
    (server : s.server = .replies reply) (opened : (s.start config).result = .ok ()) :
    ∃ endpoint clientName idleTimeout index released requests,
      (s.start config).source = { s with
        endpoint, clientName, idleTimeout, released, requests
        filters := config.filters, blocking := config.blocking, isOpen := true
        held := some index, stream := some (openStream index reply) } := by
  have adjusted := (applyOptions_adjusts s config.options).source
  unfold start at opened ⊢
  simp only [closed, Bool.false_eq_true, if_false] at opened ⊢
  generalize s.applyOptions config.options = applied at opened adjusted ⊢
  obtain ⟨outcome, t⟩ := applied
  obtain ⟨endpoint, clientName, idleTimeout, rfl⟩ : ∃ endpoint clientName idleTimeout,
    t = { s with endpoint, clientName, idleTimeout } := adjusted
  cases outcome with
  | error f => cases opened
  | ok _ =>
    simp only [wanted, Bool.not_true, Bool.false_eq_true, if_false] at opened ⊢
    generalize hu : ({ s with
      endpoint, clientName, idleTimeout
      filters := config.filters, blocking := config.blocking } : LiveSource) = u at opened ⊢
    have accepted : u.connect.1 = .ok () := by
      generalize u.connect = r at opened
      obtain ⟨_ | _, _⟩ := r
      · cases opened
      · rfl
    have served : u.server = .replies reply := by
      rw [← hu]
      exact server
    obtain ⟨index, released, requests, connected⟩ := connect_ok served accepted
    generalize u.connect = r at accepted connected ⊢
    obtain ⟨result, v⟩ := r
    subst accepted connected hu
    exact ⟨endpoint, clientName, idleTimeout, index, released, requests, rfl⟩

theorem start_follows {s : LiveSource} {config : StreamConfig} {reply : Reply}
    {limit : Option Number.Binary64} (closed : s.isOpen = false)
    (wanted : isWanted config.filters = true) (server : s.server = .replies reply)
    (opened : (s.start config).result = .ok ())
    (limited : (s.start config).source.idleLimit = .ok limit)
    (positive : limit.any isNotPositive = false) :
    (s.start config).source.Follows (course config.filters (reply.transmission limit).ending
      s.watch (reply.transmission limit).lines) := by
  obtain ⟨_, _, _, index, _, _, source⟩ := start_connected closed wanted server opened
  rw [source] at limited ⊢
  have follows := Follows.reads ⟨rfl, limited, positive⟩ rfl
  rw [LiveStream.remaining_openStream] at follows
  exact follows

/-- A source that wants nothing of the feed does not ask its server, and is at its end. -/
theorem start_unwanted {s : LiveSource} {config : StreamConfig} (closed : s.isOpen = false)
    (unread : s.stream = none) (unwanted : isWanted config.filters = false)
    (opened : (s.start config).result = .ok ()) : (s.start config).source.Follows {} := by
  have adjusted := (applyOptions_adjusts s config.options).source
  unfold start at opened ⊢
  simp only [closed, Bool.false_eq_true, if_false] at opened ⊢
  generalize s.applyOptions config.options = applied at opened adjusted ⊢
  obtain ⟨outcome, t⟩ := applied
  obtain ⟨endpoint, clientName, idleTimeout, rfl⟩ : ∃ endpoint clientName idleTimeout,
    t = { s with endpoint, clientName, idleTimeout } := adjusted
  cases outcome with
  | error f => cases opened
  | ok _ =>
    simp only [unwanted, Bool.not_false, if_true]
    exact .ended rfl unread

end RouteFeed.LiveSource
