import RouteFeed.Proofs.Feed.Conversion
import RouteFeed.Proofs.Feed.Course

/-! The kinds of lines of a live feed, by what they hold. A line is blank, or no JSON text, or holds a
message of some type; a message about routes or a peer is well-formed if it can be converted. -/
namespace RouteFeed.Live

def message? (type : String) (line : List Char) : Option (Fields) :=
  if line.all Text.isBlank then none
  else
    match Value.parse line with
    | .ok (.object fields) =>
      if (Named.get? fields ↑"type").bind Value.string? = some type then some fields else none
    | _ => none

def dataOf (fields : Fields) : Value := (Named.get? fields ↑"data").getD (.object [])

/-- The record of a well-formed message about routes or a peer. -/
def wellFormed? (line : List Char) : Option Record :=
  (message? "ris_message" line).bind fun fields => (convert (dataOf fields)).toOption

/-- A line that is no JSON text, or holds a message about routes or a peer that is malformed. -/
def isCorrupt (line : List Char) : Bool :=
  (!line.all Text.isBlank && !(Value.parse line).isOk) ||
    (message? "ris_message" line).any fun fields => !(convert (dataOf fields)).isOk

/-- The time of the last message behind a line; a message counts as soon as its contents can be
read. -/
def timeAfter (last : Int) (line : List Char) : Int :=
  match (message? "ris_message" line).map fun fields => content (dataOf fields) with
  | some (.ok (p, _)) => p.time
  | _ => last

/-- The watch when the time of a line's message has been read. -/
def Watch.at (w : Watch) (line : List Char) : Watch := { w with last := timeAfter w.last line }

def Watch.past (w : Watch) (line : List Char) : Watch :=
  if isCorrupt line then (w.at line).tick else w.at line

/-- A line whose reading fails with what is neither the failure of the line alone nor what the feed
says about its own failure. -/
inductive Hazard (line : List Char) : Prop
  /-- A number is too long, or the nesting too deep. -/
  | unreadable {fault} (present : line.all Text.isBlank = false)
    (h : Value.parse line = .error fault) (limit : fault ≠ .malformed)
  | overflows {fields} (m : message? "ris_message" line = some fields)
    (h : Overflows (dataOf fields))
  /-- The feed reports a failure of its own in no object. -/
  | complaint {fields} (m : message? "ris_error" line = some fields)
    (h : ∀ inner, dataOf fields ≠ .object inner)

theorem typed_iff {fields : Fields} {type : String} :
    (Named.get? fields ↑"type").bind Value.string? = some type ↔
      Named.get? fields ↑"type" = some (.text type) := by
  simp [Option.bind_eq_some_iff, Value.string?_eq_some_iff]

theorem message?_eq_some_iff {type : String} {line : List Char} {fields : Fields} :
    message? type line = some fields ↔ line.all Text.isBlank = false ∧
      Value.parse line = .ok (.object fields) ∧
      Named.get? fields ↑"type" = some (.text type) := by
  unfold message?
  by_cases blank : line.all Text.isBlank
  · simp [blank]
  · simp only [blank, Bool.false_eq_true, if_false, true_and]
    constructor
    · intro h
      split at h
      · rename_i found hp
        split at h
        · rename_i named
          cases h
          exact ⟨hp, typed_iff.mp named⟩
        · cases h
      · cases h
    · rintro ⟨hp, ht⟩
      simp only [hp, typed_iff.mpr ht, if_true]

theorem message?_unique {type other : String} {line : List Char} {fields : Fields}
    (h : message? type line = some fields) (different : type ≠ other) :
    message? other line = none := by
  obtain ⟨present, parsed, typed⟩ := message?_eq_some_iff.mp h
  have hn : ∀ found, message? other line ≠ some found := by
    intro found hf
    obtain ⟨_, hp, ht⟩ := message?_eq_some_iff.mp hf
    rw [parsed] at hp
    cases hp
    rw [typed] at ht
    exact different (Points.ofString_inj.mp (Value.text.inj (Option.some.inj ht)))
  exact Option.eq_none_iff_forall_ne_some.mpr hn

/-- What the feed says about its own failure is reported as such if it stands in an object. -/
theorem feedFailure_kind (fields : Fields) :
    (feedFailure (.object fields)).kind = .backend ↔ ∃ inner, dataOf fields = .object inner := by
  have data : Value.get (.object fields) "data" (.object []) = .ok (dataOf fields) := rfl
  unfold feedFailure
  rw [data]
  cases dataOf fields with
  | object inner => exact ⟨fun _ => ⟨inner, rfl⟩, fun _ => rfl⟩
  | _ =>
    constructor
    · intro h
      cases h
    · rintro ⟨inner, h⟩
      cases h

inductive View (line : List Char) : Prop
  | nothing (read : reading line = .nothing) (quiet : message? "ris_error" line = none)
    (noRecord : wellFormed? line = none) (sound : isCorrupt line = false)
    (time : ∀ last, timeAfter last line = last)
  | record {r} (read : reading line = .record r) (quiet : message? "ris_error" line = none)
    (found : wellFormed? line = some r) (sound : isCorrupt line = false)
    (time : ∀ last, timeAfter last line = r.time)
  | corrupt {entry time} (read : reading line = .broken entry time)
    (quiet : message? "ris_error" line = none) (noRecord : wellFormed? line = none)
    (broken : isCorrupt line = true) (time : ∀ last, timeAfter last line = time.getD last)
  | complaint {fields} (read : reading line = .fails (feedFailure (.object fields)) none)
    (found : message? "ris_error" line = some fields) (noRecord : wellFormed? line = none)
    (sound : isCorrupt line = false) (time : ∀ last, timeAfter last line = last)
  | escapes {f time} (read : reading line = .fails f time) (kind : f.kind ≠ .backend)
    (quiet : message? "ris_error" line = none) (hazard : Hazard line)

theorem reading_message {line : List Char} {fields : Fields}
    (m : message? "ris_message" line = some fields) :
    reading line = match convert (dataOf fields) with
      | .ok r => .record r
      | .error (f, time) =>
        if breaksLine f then
          .broken (.warning "Malformed RIS Live message" [("error", .text f.message)]) time
        else .fails f time := by
  obtain ⟨present, parsed, typed⟩ := message?_eq_some_iff.mp m
  simp only [reading, present, Bool.false_eq_true, if_false, readLine, parsed, readMessage,
    typed_iff.mpr typed]
  rfl

theorem reading_complaint {line : List Char} {fields : Fields}
    (m : message? "ris_error" line = some fields) :
    reading line = .fails (feedFailure (.object fields)) none := by
  obtain ⟨present, parsed, typed⟩ := message?_eq_some_iff.mp m
  simp only [reading, present, Bool.false_eq_true, if_false, readLine, parsed, readMessage,
    typed_iff.mpr typed]

theorem wellFormed?_eq_some_iff {line : List Char} {r : Record} :
    wellFormed? line = some r ↔
      ∃ fields, message? "ris_message" line = some fields ∧ convert (dataOf fields) = .ok r := by
  have same (x : Except (Failure × Option Int) Record) : x.toOption = some r ↔ x = .ok r := by
    cases x <;> simp [Except.toOption]
  simp only [wellFormed?, Option.bind_eq_some_iff, same]

theorem reading_of_wellFormed {line : List Char} {r : Record} (h : wellFormed? line = some r) :
    reading line = .record r := by
  obtain ⟨fields, m, converted⟩ := wellFormed?_eq_some_iff.mp h
  rw [reading_message m, converted]

theorem wellFormed_status {line : List Char} {r : Record} (h : wellFormed? line = some r) :
    r.status = .valid := by
  obtain ⟨fields, _, converted⟩ := wellFormed?_eq_some_iff.mp h
  obtain ⟨_, host, es, _, _, _, same⟩ := convert_ok converted
  rw [same]
  rfl

theorem view_message {line : List Char} {fields : Fields}
    (m : message? "ris_message" line = some fields) : View line := by
  have quiet : message? "ris_error" line = none := message?_unique m (by decide)
  have hr := reading_message m
  cases hc : convert (dataOf fields) with
  | ok r =>
    rw [hc] at hr
    refine .record hr quiet (by simp [wellFormed?, m, hc, Except.toOption])
      (by simp [isCorrupt, m, hc, (message?_eq_some_iff.mp m).2.1, Except.isOk, Except.toBool])
      fun last => ?_
    unfold convert at hc
    split at hc
    · cases hc
    · rename_i p es hp
      split at hc
      · cases hc
      · cases hc
        simp [timeAfter, m, hp, makeRecord]
  | error e =>
    obtain ⟨f, time⟩ := e
    rw [hc] at hr
    by_cases soft : breaksLine f
    · simp only [soft, if_true] at hr
      refine .corrupt hr quiet (by simp [wellFormed?, m, hc, Except.toOption])
        (by simp [isCorrupt, m, hc, Except.isOk, Except.toBool]) fun last => ?_
      unfold convert at hc
      split at hc
      · rename_i g hg
        cases hc
        simp [timeAfter, m, hg]
      · rename_i p es hp
        split at hc
        · cases hc
          simp [timeAfter, m, hp]
        · cases hc
    · simp only [soft, Bool.false_eq_true, if_false] at hr
      have beyond : Overflows (dataOf fields) :=
        (convert_escapes_iff _).mp ⟨f, time, hc, by simpa using soft⟩
      refine .escapes hr ?_ quiet (.overflows m beyond)
      simp only [convert, content_of_overflows beyond] at hc
      cases hc
      decide

theorem view (line : List Char) : View line := by
  by_cases blank : line.all Text.isBlank
  · have none (type : String) : message? type line = none := by simp [message?, blank]
    exact .nothing (by simp [reading, blank]) (none _) (by simp [wellFormed?, none])
      (by simp [isCorrupt, blank, none]) (by simp [timeAfter, none])
  · have present : line.all Text.isBlank = false := by simpa using blank
    cases parsed : Value.parse line with
    | error fault =>
      have none (type : String) : message? type line = none := by simp [message?, present, parsed]
      have unread : wellFormed? line = .none := by simp [wellFormed?, none]
      have time (last : Int) : timeAfter last line = last := by simp [timeAfter, none]
      have hr : reading line = readLine line := by simp [reading, present]
      simp only [readLine, parsed] at hr
      cases fault with
      | malformed =>
        exact .corrupt hr (none _) unread
          (by simp [isCorrupt, present, parsed, Except.isOk, Except.toBool]) time
      | _ => exact .escapes hr nofun (none _) (.unreadable present parsed nofun)
    | ok v =>
      have hr : reading line = readMessage v := by simp [reading, present, readLine, parsed]
      cases m : message? "ris_message" line with
      | some fields => exact view_message m
      | none =>
        have unread : wellFormed? line = none := by simp [wellFormed?, m]
        have time (last : Int) : timeAfter last line = last := by simp [timeAfter, m]
        cases e : message? "ris_error" line with
        | some fields =>
          exact .complaint (reading_complaint e) e unread
            (by simp [isCorrupt, parsed, m, Except.isOk, Except.toBool]) time
        | none =>
          refine .nothing (hr.trans ?_) e unread ?_ time
          · unfold readMessage
            split
            · rename_i fields
              split
              · rename_i typed
                rw [message?_eq_some_iff.mpr ⟨present, parsed, typed_iff.mp typed⟩] at e
                cases e
              · rename_i typed
                rw [message?_eq_some_iff.mpr ⟨present, parsed, typed_iff.mp typed⟩] at m
                cases m
              · rfl
            · rfl
          · simp [isCorrupt, parsed, m, Except.isOk, Except.toBool]

theorem wellFormed_of_reading {line : List Char} {r : Record} (h : reading line = .record r) :
    wellFormed? line = some r := by
  cases view line with
  | nothing read => simp [read] at h
  | corrupt read => simp [read] at h
  | complaint read => simp [read] at h
  | escapes read => simp [read] at h
  | record read _ found =>
    rw [read] at h
    cases h
    exact found

namespace Watch

variable {line : List Char}

theorem past_of_sound (sound : isCorrupt line = false) (w : Watch) : w.past line = w.at line := by
  simp [past, sound]

theorem past_of_broken (broken : isCorrupt line = true) (w : Watch) :
    w.past line = (w.at line).tick := by
  simp [past, broken]

theorem at_eq_hear (time : Option Int) (behind : ∀ last, timeAfter last line = time.getD last)
    (w : Watch) : w.at line = w.hear time := by
  rw [Watch.at, behind, hear]

end Watch

theorem hazard_iff (line : List Char) :
    Hazard line ↔ ∃ f time, reading line = .fails f time ∧ f.kind ≠ .backend := by
  constructor
  · intro h
    cases h with
    | @unreadable fault present parsed limit =>
      have hr : reading line = readLine line := by simp [reading, present]
      simp only [readLine, parsed] at hr
      cases fault with
      | malformed => exact absurd rfl limit
      | _ =>
        refine ⟨_, _, hr, fun kind => ?_⟩
        cases kind
    | overflows m beyond =>
      have hr := reading_message m
      simp only [convert, content_of_overflows beyond] at hr
      refine ⟨_, _, hr, fun kind => ?_⟩
      cases kind
    | complaint m outside =>
      refine ⟨_, _, reading_complaint m, fun kind => ?_⟩
      obtain ⟨inner, h⟩ := (feedFailure_kind _).mp kind
      exact outside inner h
  · rintro ⟨f, time, hr, kind⟩
    cases view line with
    | nothing read => simp [read] at hr
    | record read => simp [read] at hr
    | corrupt read => simp [read] at hr
    | @complaint fields read found =>
      rw [read] at hr
      cases hr
      exact .complaint found fun inner h => kind ((feedFailure_kind _).mpr ⟨inner, h⟩)
    | escapes _ _ _ hazard => exact hazard

end RouteFeed.Live
