import RouteFeed.Proofs.Feed.Counting
import RouteFeed.Proofs.Json
import RouteFeed.Proofs.Text.Encoding
import RouteFeed.Proofs.Text.Framing

/-! The messages of a body. A body of texts joined by line feeds brings each of them as a message,
however it is cut into pieces, unless one holds a character that ends a line without being a line
feed: JSON lets three of them stand in strings. -/
namespace RouteFeed

open Text

namespace Live

def bodyBytes (body : List Arrival) : List Nat :=
  body.flatMap fun
    | .bytes bs => bs
    | _ => []

/-- A body in UTF-8 that is complete brings the lines of its whole text, however it was cut: by
induction on its pieces, where the decoder and the splitter carry what has come so far. -/
theorem ofArrivals_closed {limit : Option Number.Binary64} {decoder : Utf8Decoder}
    {splitter : LineSplitter} {time : Number.Duration} {body : List Arrival}
    (complete : (Transmission.ofArrivals limit (.utf8 decoder) splitter time body).ending = .closed) :
    let fed := decoder.feed (bodyBytes body)
    let split := splitter.feed (fed.1 ++ fed.2.flush)
    (Transmission.ofArrivals limit (.utf8 decoder) splitter time body).lines =
      split.1 ++ split.2.flush := by
  induction body generalizing decoder splitter time with
  | nil => rfl
  | cons arrival body ih =>
    cases arrival with
    | bytes bs =>
      -- what decoder and splitter hold back of one piece they take with the next
      have rest := @ih (decoder.feed bs).2 (splitter.feed (decoder.feed bs).1).2 _ complete
      have whole : bodyBytes (.bytes bs :: body) = bs ++ bodyBytes body := rfl
      refine (congrArg ((splitter.feed (decoder.feed bs).1).1 ++ ·) rest).trans ?_
      simp only [whole, Utf8Decoder.feed_append, List.append_assoc, LineSplitter.feed_append]
    | pauses length =>
      unfold Transmission.ofArrivals at complete ⊢
      by_cases soon : limit.all (time.add length).below
      · simp only [soon, if_true] at complete ⊢
        exact ih complete
      · simp [soon] at complete
    | fails f =>
      unfold Transmission.ofArrivals Ending.ofFailure at complete
      split at complete <;> cases complete
    | stalls =>
      unfold Transmission.ofArrivals Ending.ofSilence at complete
      split at complete <;> cases complete
    | signals =>
      unfold Transmission.ofArrivals Ending.ofSilence at complete
      split at complete <;> cases complete

def isVisible (line : List Char) : Bool := !line.all isBlank

theorem course_filter_isVisible (f : StreamFilters) (ending : Ending) (w : Watch)
    (lines : List (List Char)) :
    course f ending w (lines.filter isVisible) = course f ending w lines := by
  induction lines generalizing w with
  | nil => rfl
  | cons line lines ih =>
    cases blank : line.all isBlank with
    | true =>
      have read : reading line = .nothing := by simp [reading, blank]
      simp only [List.filter_cons, isVisible, blank, Bool.not_true, Bool.false_eq_true, if_false]
      rw [course, read]
      exact ih w
    | false =>
      simp only [List.filter_cons, isVisible, blank, Bool.not_false, if_true]
      simp only [course]
      cases reading line with
      | nothing => exact ih w
      | fails failure time => simp only [ih]
      | broken entry time => simp only [ih]
      | record r => simp only [ih]

/-- A text that is not blank and has no control characters but the blanks of JSON. -/
structure IsClean (t : List Char) : Prop where
  visible : isVisible t = true
  control : ∀ c ∈ t, c.toNat < 0x20 → Value.isJsonBlank c = true

theorem isClean_iff (t : List Char) :
    IsClean t ↔ (isVisible t && t.all fun c => 0x20 ≤ c.toNat || Value.isJsonBlank c) = true := by
  have control (c : Char) : (c.toNat < 0x20 → Value.isJsonBlank c = true) ↔
      (0x20 ≤ c.toNat ∨ Value.isJsonBlank c = true) := by
    rw [← Nat.not_lt, imp_iff_not_or]
  simp only [Bool.and_eq_true, List.all_eq_true, Bool.or_eq_true, decide_eq_true_eq, ← control]
  exact ⟨fun clean => ⟨clean.visible, clean.control⟩, fun clean => ⟨clean.1, clean.2⟩⟩

instance : DecidablePred IsClean := fun t => decidable_of_iff' _ (isClean_iff t)

/-- Every JSON text is such a text. -/
theorem isClean_of_parse {t : List Char} {v : Value} (h : Value.parse t = .ok v) : IsClean t where
  visible := by simp [isVisible, Value.visible_of_parse h]
  control := Value.control_of_scan (Value.scan_of_parse h)

/-- The characters beside control characters that end a line. -/
def separators : List Char := ['\u0085', '\u2028', '\u2029']

theorem isLineEnd_cases {c : Char} (h : isLineEnd c = true) : c.toNat < 0x20 ∨ c ∈ separators := by
  have number : c.val.toNat = c.toNat := rfl
  simp only [isLineEnd, Bool.or_eq_true, Bool.and_eq_true, decide_eq_true_eq, beq_iff_eq,
    ← UInt32.toNat_inj, UInt32.le_iff_toNat_le, UInt32.reduceToNat, number] at h
  have named {d : Char} (same : c.toNat = d.toNat) : c = d := Char.toNat_inj.mp same
  rcases h with (((low | low) | next) | line) | paragraph
  · exact .inl (by omega)
  · exact .inl (by omega)
  · exact .inr (by rw [@named '\u0085' next]; decide)
  · exact .inr (by rw [@named '\u2028' line]; decide)
  · exact .inr (by rw [@named '\u2029' paragraph]; decide)

/-- A clean text without line feeds and carriage returns holds a line end exactly if it holds a
separator. -/
theorem unbroken_iff {t : List Char} (clean : IsClean t) (noFeed : '\n' ∉ t) (noReturn : '\r' ∉ t) :
    Unbroken t ↔ ∀ c ∈ t, c ∉ separators := by
  have ends : separators.all isLineEnd = true := by decide
  constructor
  · intro unbroken c hc separator
    exact absurd (List.all_eq_true.mp ends c separator) (by simp [unbroken c hc])
  · intro none c hc
    refine Bool.eq_false_iff.mpr fun ending => ?_
    rcases isLineEnd_cases ending with control | separator
    · have blank := clean.control c hc control
      simp only [Value.isJsonBlank, Bool.or_eq_true, beq_iff_eq] at blank
      rcases blank with ((rfl | rfl) | rfl) | rfl
      · cases ending
      · cases ending
      · exact noFeed hc
      · exact noReturn hc
    · exact none c hc separator

/-- A line end in a JSON text stands in a string, which goes on behind it. -/
theorem next_of_isLineEnd {c : Char} (ends : isLineEnd c = true) (single : c ≠ '\n' ∧ c ≠ '\r')
    {s t : Value.Spot} (h : s.next c = some t) : s ≠ .outside ∧ t = .inside := by
  have noQuote : c ≠ '"' := by
    rintro rfl
    exact absurd ends (by decide)
  have noEscape : c ≠ '\\' := by
    rintro rfl
    exact absurd ends (by decide)
  have noToken : Value.tokens.contains c = false := by
    have blanks : Value.tokens.all (fun c => !isLineEnd c || c == '\n' || c == '\r') = true := by
      decide
    refine Bool.eq_false_iff.mpr fun token => ?_
    have blank := List.all_eq_true.mp blanks c (by simpa using token)
    simp [ends, single.1, single.2] at blank
  cases s with
  | outside =>
    simp only [Value.Spot.next, beq_iff_eq, noQuote, noToken, Bool.false_eq_true, if_false] at h
    cases h
  | inside =>
    simp only [Value.Spot.next, beq_iff_eq, noQuote, noEscape, if_false] at h
    split at h
    · cases h
    · exact ⟨by decide, (Option.some.inj h).symm⟩
  | escaped =>
    simp only [Value.Spot.next] at h
    split at h
    · cases h
    · exact ⟨by decide, (Option.some.inj h).symm⟩

theorem visible_of_scan {t : List Char} {s u : Value.Spot} (scanned : Value.scan s t = some u)
    (steady : s ≠ .escaped) (other : u ≠ s) : isVisible t = true := by
  simp only [isVisible, Bool.not_eq_true']
  refine Bool.eq_false_iff.mpr fun blank => ?_
  exact other (Value.scan_of_blank (List.all_eq_true.mp blank) steady scanned)

/-- What is behind a line end in a JSON text begins in a string. -/
theorem scan_cut {a b : List Char} {c : Char} (ends : isLineEnd c = true)
    (single : '\n' ∉ a ++ c :: b ∧ '\r' ∉ a ++ c :: b) {s t : Value.Spot}
    (scanned : Value.scan s (a ++ c :: b) = some t) :
    (∃ u, Value.scan s a = some u ∧ u ≠ .outside) ∧ Value.scan .inside b = some t ∧
      c ≠ '\r' ∧ ('\n' ∉ b ∧ '\r' ∉ b) := by
  have here : c ≠ '\n' ∧ c ≠ '\r' :=
    ⟨fun same => single.1 (by simp [same]), fun same => single.2 (by simp [same])⟩
  have behind : '\n' ∉ b ∧ '\r' ∉ b :=
    ⟨fun member => single.1 (by simp [member]), fun member => single.2 (by simp [member])⟩
  rw [Value.scan_append] at scanned
  obtain ⟨u, first, rest⟩ := Option.bind_eq_some_iff.mp scanned
  obtain ⟨next, step, rest⟩ := Option.bind_eq_some_iff.mp rest
  obtain ⟨within, rfl⟩ := next_of_isLineEnd ends here step
  exact ⟨⟨u, first, within⟩, rest, here.2, behind⟩

theorem answered_of_unparsed {line : List Char} (visible : isVisible line = true)
    (unparsed : ∀ v, Value.parse line ≠ .ok v) (f : StreamFilters) :
    isLast f line = false ∧ gives f line = true := by
  have present : line.all isBlank = false := by simpa [isVisible] using visible
  cases parsed : Value.parse line with
  | ok v => exact absurd parsed (unparsed v)
  | error fault =>
    have unread : wellFormed? line = none := by simp [wellFormed?, message?, present, parsed]
    refine ⟨by simp [isLast, unread], ?_⟩
    unfold gives
    simp only [reading, present, readLine, parsed, Bool.false_eq_true, if_false]
    cases fault <;> rfl

/-- A line that may stand in a string holds no message: its type would have to be named there. -/
theorem isLast_of_inside {line : List Char} {s : Value.Spot}
    (scanned : Value.scan .inside line = some s) (f : StreamFilters) : isLast f line = false := by
  refine Bool.eq_false_iff.mpr fun stop => ?_
  obtain ⟨r, found, _⟩ := (Option.any_eq_true _ _).mp stop
  obtain ⟨fields, m, _⟩ := wellFormed?_eq_some_iff.mp found
  obtain ⟨_, parsed, typed⟩ := message?_eq_some_iff.mp m
  have letters := Value.keys_of_parse parsed scanned typed
  exact absurd (letters 'p' (by decide)) (by decide)

/-- The lines of the rest of a JSON text, from within a string: none ends the feed, and the last one is
no JSON text. -/
theorem lines_inside (f : StreamFilters) (t : List Char) (single : '\n' ∉ t ∧ '\r' ∉ t)
    (scanned : Value.scan .inside t = some .outside) :
    (∀ line ∈ wholeLines t, isLast f line = false) ∧
      1 ≤ (wholeLines t).countP (gives f) := by
  induction t using cut_induction with
  | unbroken a h =>
    have some : a ≠ [] := by
      rintro rfl
      cases scanned
    have visible : isVisible a = true := visible_of_scan scanned (by decide) (by decide)
    have unparsed : ∀ v, Value.parse a ≠ .ok v := fun v parsed => by
      have same : Value.Spot.outside = .inside := Value.inside_of_parse parsed scanned
      cases same
    obtain ⟨going, once⟩ := answered_of_unparsed visible unparsed f
    rw [wholeLines_unbroken h some]
    simp [going, once]
  | cut a c b h ends ih =>
    obtain ⟨⟨u, first, _⟩, rest, other, behind⟩ := scan_cut ends single scanned
    obtain ⟨going, answered⟩ := ih behind rest
    rw [wholeLines_cut h ends other]
    refine ⟨List.forall_mem_cons.mpr ⟨isLast_of_inside first f, going⟩, ?_⟩
    rw [List.countP_cons]
    omega

/-- The lines of a JSON text that is broken by a line end: none ends the feed, and neither the first nor
the last one is a JSON text. -/
theorem lines_of_broken (f : StreamFilters) {t : List Char} {v : Value}
    (json : Value.parse t = .ok v) (single : '\n' ∉ t ∧ '\r' ∉ t) (broken : ¬ Unbroken t) :
    (∀ line ∈ wholeLines t, isLast f line = false) ∧
      2 ≤ (wholeLines t).countP (gives f) := by
  have scanned := Value.scan_of_parse json
  clear json
  induction t using cut_induction with
  | unbroken a h => exact absurd h broken
  | cut a c b h ends _ =>
    obtain ⟨⟨u, first, within⟩, rest, other, behind⟩ := scan_cut ends single scanned
    have visible : isVisible a = true := visible_of_scan first (by decide) within
    have unparsed : ∀ v, Value.parse a ≠ .ok v := fun v parsed =>
      within (Option.some.inj (first.symm.trans (Value.scan_of_parse parsed)))
    obtain ⟨stays, once⟩ := answered_of_unparsed visible unparsed f
    obtain ⟨going, answered⟩ := lines_inside f b behind rest
    rw [wholeLines_cut h ends other]
    refine ⟨List.forall_mem_cons.mpr ⟨stays, going⟩, ?_⟩
    rw [List.countP_cons_of_pos once]
    omega

/-- JSON texts that are read line by line give no fewer answers than read one by one, and more if one of
those that are read is broken. -/
theorem total_lines (f : StreamFilters) {texts : List (List Char)}
    (json : ∀ t ∈ texts, ∃ v, Value.parse t = .ok v)
    (single : ∀ t ∈ texts, '\n' ∉ t ∧ '\r' ∉ t) :
    total f texts ≤ total f (texts.flatMap wholeLines) ∧
      ((∃ t ∈ examined f texts, ¬ Unbroken t) →
        total f texts < total f (texts.flatMap wholeLines)) := by
  induction texts with
  | nil => exact ⟨Nat.le_refl _, fun ⟨t, member, _⟩ => by cases member⟩
  | cons t texts ih =>
    obtain ⟨⟨v, parsed⟩, others⟩ := List.forall_mem_cons.mp json
    obtain ⟨here, behind⟩ := List.forall_mem_cons.mp single
    obtain ⟨most, more⟩ := ih others behind
    rw [List.flatMap_cons]
    -- a broken text gives two answers at least, and one at most if it is read as a whole
    by_cases whole : Unbroken t
    · have some : t ≠ [] := by
        rintro rfl
        cases (isClean_of_parse parsed).visible
      rw [wholeLines_unbroken whole some, List.singleton_append]
      cases stop : isLast f t with
      | true =>
        rw [total_last stop, total_last stop, examined_last stop]
        refine ⟨Nat.le_refl 0, fun ⟨u, member, broken⟩ => ?_⟩
        cases List.mem_singleton.mp member
        exact absurd whole broken
      | false =>
        rw [total_cons stop, total_cons stop, examined_cons stop]
        refine ⟨by omega, fun ⟨u, member, broken⟩ => ?_⟩
        rcases List.mem_cons.mp member with rfl | member
        · exact absurd whole broken
        · have := more ⟨u, member, broken⟩
          omega
    · obtain ⟨going, twice⟩ := lines_of_broken f parsed here whole
      have fewer : total f (t :: texts) ≤ 1 + total f texts := by
        cases stop : isLast f t with
        | true =>
          rw [total_last stop]
          exact Nat.zero_le _
        | false =>
          rw [total_cons stop]
          exact Nat.add_le_add_right List.countP_le_length _
      rw [total_append going]
      exact ⟨by omega, fun _ => by omega⟩

/-- Texts without line ends are read as they are, up to the one that ends the feed. -/
theorem course_lines (f : StreamFilters) (ending : Ending) (w : Watch)
    {texts : List (List Char)} (some : ∀ t ∈ texts, t ≠ [])
    (unbroken : ∀ t ∈ examined f texts, Unbroken t) :
    course f ending w (texts.flatMap wholeLines) = course f ending w texts := by
  induction texts generalizing w with
  | nil => rfl
  | cons t texts ih =>
    obtain ⟨here, others⟩ := List.forall_mem_cons.mp some
    have whole : Unbroken t := unbroken t (by simp [examined])
    rw [List.flatMap_cons, wholeLines_unbroken whole here, List.singleton_append]
    refine course_cons_congr (fun going w => ?_) w
    rw [examined_cons going] at unbroken
    exact ih w others (List.forall_mem_cons.mp unbroken).2

end Live

namespace LiveSource

open Live

/-- A body of clean texts joined by line feeds, in UTF-8 and in pieces of any size, brings each text
as one message exactly if no text holds a separator. As long as no text up to the one that ends the
feed holds one, the feed gives what it gives for the texts, read one by one; and texts that are JSON
have to be like that. -/
theorem messages_eq_texts_iff {s : LiveSource} {config : StreamConfig} {reply : Reply}
    {limit : Option Number.Binary64} {texts : List (List Char)} (closed : s.isOpen = false)
    (wanted : isWanted config.filters = true) (server : s.server = .replies reply)
    (opened : (s.start config).result = .ok ())
    (limited : (s.start config).source.idleLimit = .ok limit)
    (positive : limit.any isNotPositive = false) (decoder : reply.decoder = .ok (.utf8 {}))
    (complete : (reply.transmission limit).ending = .closed)
    (clean : ∀ t ∈ texts, IsClean t) (single : ∀ t ∈ texts, '\n' ∉ t ∧ '\r' ∉ t)
    (body : bodyBytes reply.plainBody = utf8Bytes (['\n'].intercalate texts)) :
    let messages := (reply.transmission limit).lines.filter isVisible
    let promise := course config.filters .closed s.watch texts
    let plain := ∀ t ∈ examined config.filters texts, ∀ c ∈ t, c ∉ separators
    (messages = texts ↔ ∀ t ∈ texts, ∀ c ∈ t, c ∉ separators) ∧
    (plain → ∀ n, Source.answers n (s.start config).source = promise.first n) ∧
    ((∀ t ∈ texts, ∃ v, Value.parse t = .ok v) →
      (∀ n, Source.answers n (s.start config).source = promise.first n) → plain) := by
  intro messages promise plain
  have lines : messages = (texts.flatMap wholeLines).filter isVisible := by
    have whole : (reply.transmission limit).lines = wholeLines (['\n'].intercalate texts) := by
      unfold Reply.transmission at complete ⊢
      rw [decoder] at complete ⊢
      rw [ofArrivals_closed complete, body, Utf8Decoder.feed_utf8Bytes]
      simp [Utf8Decoder.flush, wholeLines]
    change (reply.transmission limit).lines.filter isVisible = _
    rw [whole, wholeLines_intercalate rfl fun t ht => (single t ht).2]
  have some : ∀ t ∈ texts, t ≠ [] := by
    rintro t ht rfl
    cases (clean [] ht).visible
  have unbroken : ∀ t ∈ texts, (Unbroken t ↔ ∀ c ∈ t, c ∉ separators) := fun t ht =>
    unbroken_iff (clean t ht) (single t ht).1 (single t ht).2
  have read : ∀ t ∈ examined config.filters texts, t ∈ texts := fun t => List.mem_of_mem_take
  have actual (n : Nat) : Source.answers n (s.start config).source =
      (course config.filters .closed s.watch (texts.flatMap wholeLines)).first n := by
    have follows := start_follows closed wanted server opened limited positive
    rw [answers_eq_course follows n, complete, ← course_filter_isVisible,
      ← course_filter_isVisible _ _ _ (texts.flatMap wholeLines), ← lines]
  refine ⟨?_, fun whole n => ?_, fun json same => ?_⟩
  · rw [lines]
    constructor
    · intro same t ht
      rw [← unbroken t ht]
      -- no line holds a line end, whatever it was cut from
      rw [← same] at ht
      obtain ⟨u, _, line⟩ := List.mem_flatMap.mp (List.mem_filter.mp ht).1
      exact unbroken_of_mem_wholeLines line
    · intro whole
      rw [wholeLines_texts some fun t ht => (unbroken t ht).mpr (whole t ht)]
      exact List.filter_eq_self.mpr fun t ht => (clean t ht).visible
  · rw [actual, course_lines _ _ _ some fun t ht => (unbroken t (read t ht)).mpr (whole t ht)]
  · intro t ht
    rw [← unbroken t (read t ht)]
    -- one answer too many: the courses differ at some number of pulls
    by_contra broken
    have fewer := (total_lines config.filters json single).2 ⟨t, ht, broken⟩
    have equal : total config.filters (texts.flatMap wholeLines) = total config.filters texts :=
      total_of_first fun n => (actual n).symm.trans (same n)
    omega

/-- A feed whose reply brings texts joined by line feeds, in two pieces. -/
def joinedReply (texts : List (List Char)) (cut : Nat) : Reply where
  body := [.bytes ((utf8Bytes (['\n'].intercalate texts)).take cut),
    .bytes ((utf8Bytes (['\n'].intercalate texts)).drop cut)]

def joinedFeed (texts : List (List Char)) (cut : Nat) : LiveSource where
  endpoint := "http://feed.example/stream"
  server := .replies (joinedReply texts cut)
  watch := { clock := fun n => 7 + n }

def plainTexts : List (List Char) :=
  ["[\"\u00e9\"]".toList, "\x7b\"type\":\"ris_message\",\"data\":\x7b\"timestamp\":5\x7d\x7d".toList]

theorem messages_eq_texts_plain :
    ((joinedReply plainTexts 3).transmission (some (.ofInt 10))).lines.filter isVisible =
      plainTexts ∧
    ∀ n, Source.answers n
        ((joinedFeed plainTexts 3).start { filters := { windows := [⟨0, 9⟩] } }).source =
      (course { windows := [⟨0, 9⟩] } .closed (joinedFeed plainTexts 3).watch plainTexts).first n := by
  have clean : ∀ t ∈ plainTexts, IsClean t := by decide +kernel
  have plain : plainTexts.all (fun t => t.all fun c => !separators.contains c) = true := by
    decide +kernel
  have framed := @messages_eq_texts_iff (joinedFeed plainTexts 3)
    { filters := { windows := [⟨0, 9⟩] } } (joinedReply plainTexts 3) (some (.ofInt 10)) plainTexts
    rfl rfl rfl rfl (by rfl) (by rfl) (by rfl) (by decide +kernel) clean (by decide +kernel)
    (by decide +kernel)
  have none : ∀ t ∈ plainTexts, ∀ c ∈ t, c ∉ separators := by simpa using plain
  exact ⟨framed.1.mpr none, framed.2.1 fun t ht => none t (List.mem_of_mem_take ht)⟩

def separatedTexts : List (List Char) :=
  [["\x7b\"type\":\"ris_message\",\"data\":", "\x7b\"timestamp\":5,\"note\":\"a\u2028b\"\x7d\x7d"].flatMap
    String.toList]

def statuses (answers : List PullAnswer) : List (Option RecordStatus) :=
  answers.map fun answer => answer.toOption.join.map Record.status

/-- It is taken for two broken lines. -/
theorem separated_text_splits :
    (∀ t ∈ separatedTexts, (Value.parse t).isOk = true ∧ '\n' ∉ t ∧ '\r' ∉ t) ∧
    statuses (Source.answers 2
      ((joinedFeed separatedTexts 3).start { filters := { windows := [⟨0, 9⟩] } }).source) =
        [some .corruptedRecord, some .corruptedRecord] ∧
    statuses ((course { windows := [⟨0, 9⟩] } .closed (joinedFeed separatedTexts 3).watch
      separatedTexts).first 2) = [some .valid, none] :=
  ⟨by decide +kernel, by decide +kernel, by decide +kernel⟩

end LiveSource
end RouteFeed
