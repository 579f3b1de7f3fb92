import RouteFeed.Live.Message
import RouteFeed.Proofs.Computation

/-! Why the conversion of a message fails. Whatever value stands in whatever field, the failure only
breaks the line, but for one: an infinite number where an integer is asked for. -/
namespace RouteFeed

open Live Number

def Mild {α : Type} (x : Except Failure α) : Prop := ∀ f, x = .error f → breaksLine f = true

namespace Mild

variable {α β : Type}

theorem ok (a : α) : Mild (.ok a) := FailsOnly.ok a

theorem error {f : Failure} (h : breaksLine f = true) : Mild (.error f : Except Failure α) :=
  FailsOnly.error h

theorem bind {x : Except Failure α} {next : α → Except Failure β} (hx : Mild x)
    (hn : ∀ a, x = .ok a → Mild (next a)) : Mild (x >>= next) :=
  FailsOnly.bind hx hn

theorem map {x : Except Failure α} (g : α → β) (hx : Mild x) : Mild (x.map g) :=
  FailsOnly.map g hx

theorem mapM {next : α → Except Failure β} (h : ∀ a, Mild (next a)) (as : List α) :
    Mild (as.mapM next) := by
  induction as with
  | nil => exact ok []
  | cons a as ih =>
    rw [List.mapM_cons]
    exact (h a).bind fun b _ => ih.bind fun bs _ => ok (b :: bs)

end Mild

theorem Value.get_mild (v : Value) (key : String) (substitute : Value) :
    Mild (v.get key substitute) := by
  cases v with
  | object fields => exact Mild.ok _
  | _ => exact Mild.error rfl

theorem Value.parts_mild (v : Value) : Mild v.parts := by
  unfold parts
  cases v.parts? with
  | some vs => exact Mild.ok vs
  | none => exact Mild.error rfl

theorem Value.toPair_mild (v : Value) : Mild v.toPair := by
  unfold toPair
  split
  · exact Mild.error rfl
  · exact Mild.ok _
  · exact Mild.error rfl
  · exact Mild.error rfl

def Value.isInfinite : Value → Bool
  | real (.infinite _) => true
  | _ => false

theorem Value.toInteger_mild {v : Value} (h : v.isInfinite = false) : Mild v.toInteger := by
  cases v with
  | int n => exact Mild.ok n
  | bool b => exact Mild.ok _
  | real x =>
    cases x with
    | nan => exact Mild.error rfl
    | infinite negative => cases h
    | finite negative m e => exact Mild.ok _
  | text s =>
    change Mild ((readInteger (s.map CodePoint.toChar)).mapError (Failure.ofNumeral s))
    cases readInteger (s.map CodePoint.toChar) with
    | error fault =>
      cases fault with
      | malformed => exact Mild.error rfl
      | tooLong digits => exact Mild.error rfl
    | ok n => exact Mild.ok n
  | _ => exact Mild.error rfl

def Failure.infiniteInteger : Failure :=
  ⟨.overflow, "cannot convert float infinity to integer"⟩

theorem Value.toInteger_of_isInfinite {v : Value} (h : v.isInfinite = true) :
    v.toInteger = .error .infiniteInteger := by
  unfold isInfinite at h
  split at h
  · rfl
  · cases h

namespace Live

theorem communityText_mild (v : Value) : Mild (communityText v) := v.toPair_mild.map _

theorem announced_mild (p : Peer) (route : Route) (announcement : Value) :
    Mild (announced p route announcement) := by
  unfold announced
  refine (Value.get_mild _ _ _).bind fun prefixes _ => ?_
  refine (Value.parts_mild _).bind fun networks _ => ?_
  exact (Value.get_mild _ _ _).bind fun nextHop _ => Mild.ok _

theorem allAnnounced_mild (p : Peer) (route : Route) (announcements : List Value) :
    Mild (allAnnounced p route announcements) := by
  induction announcements with
  | nil => exact Mild.ok []
  | cons a as ih =>
    unfold allAnnounced
    exact (announced_mild p route a).bind fun first _ => ih.bind fun others _ => Mild.ok _

theorem updateElements_mild (p : Peer) (data : Value) : Mild (updateElements p data) := by
  unfold updateElements
  refine (Value.get_mild _ _ _).bind fun path _ => (Value.parts_mild _).bind fun hops _ => ?_
  refine (Value.get_mild _ _ _).bind fun community _ => (Value.parts_mild _).bind fun pairs _ => ?_
  refine (Mild.mapM communityText_mild pairs).bind fun communities _ => ?_
  refine (Value.get_mild _ _ _).bind fun origin _ => ?_
  refine (Value.get_mild _ _ _).bind fun list _ => (Value.parts_mild _).bind fun as _ => ?_
  refine (allAnnounced_mild _ _ _).bind fun first _ => ?_
  exact (Value.get_mild _ _ _).bind fun list _ => (Value.parts_mild _).bind fun ws _ => Mild.ok _

theorem elements_mild (p : Peer) (data : Value) : Mild (elements p data) := by
  unfold elements
  refine (Value.get_mild _ _ _).bind fun type _ => ?_
  split
  · exact updateElements_mild p data
  · exact (Value.get_mild _ _ _).bind fun state _ => Mild.ok _
  · exact Mild.ok []

theorem collectorOf_mild (data : Value) : Mild (collectorOf data) := by
  unfold collectorOf
  refine (Value.get_mild _ _ _).bind fun host _ => ?_
  split
  · exact Mild.ok _
  · exact Mild.error rfl

def integerField (fields : Fields) (key : Points) : Value :=
  (Named.get? fields key).getD (.int 0)

inductive Overflows : Value → Prop
  | time {fields} (h : (integerField fields "timestamp").isInfinite = true) :
    Overflows (.object fields)
  | peer {fields time} (ht : (integerField fields "timestamp").toInteger = .ok time)
    (h : (integerField fields "peer_asn").isInfinite = true) : Overflows (.object fields)

theorem content_mild {data : Value} (h : ¬ Overflows data) : Mild (content data) := by
  unfold content
  cases data with
  | object fields =>
    have ht : (integerField fields "timestamp").isInfinite = false := by
      simpa using fun hi => h (.time hi)
    refine (Mild.ok (integerField fields "timestamp")).bind fun v hv => ?_
    cases hv
    refine (Value.toInteger_mild ht).bind fun time htime => ?_
    refine (Value.get_mild _ _ _).bind fun address _ => ?_
    have hp : (integerField fields "peer_asn").isInfinite = false := by
      simpa using fun hi => h (.peer htime hi)
    refine (Mild.ok (integerField fields "peer_asn")).bind fun v hv => ?_
    cases hv
    refine (Value.toInteger_mild hp).bind fun asn _ => ?_
    exact (elements_mild _ _).bind fun es _ => Mild.ok _
  | _ => exact (Value.get_mild _ _ _).bind fun v hv => nomatch hv

theorem content_of_overflows {data : Value} (h : Overflows data) :
    content data = .error .infiniteInteger := by
  cases h with
  | time h =>
    have ht := Value.toInteger_of_isInfinite h
    simp only [integerField] at ht
    simp [content, Value.get, ht, bind, Except.bind]
  | peer ht h =>
    have hp := Value.toInteger_of_isInfinite h
    simp only [integerField] at ht hp
    simp [content, Value.get, ht, hp, bind, Except.bind]

/-- A conversion fails with what does not only break the line exactly if the message overflows. -/
theorem convert_escapes_iff (data : Value) :
    (∃ f time, convert data = .error (f, time) ∧ breaksLine f = false) ↔ Overflows data := by
  constructor
  · rintro ⟨f, time, hc, hf⟩
    refine Classical.byContradiction fun h => ?_
    unfold convert at hc
    split at hc
    · rename_i g hg
      cases hc
      rw [content_mild h f hg] at hf
      cases hf
    · split at hc
      · rename_i g hg
        cases hc
        rw [collectorOf_mild data f hg] at hf
        cases hf
      · cases hc
  · intro h
    have hc : convert data = .error (.infiniteInteger, none) := by
      simp only [convert, content_of_overflows h]
    exact ⟨.infiniteInteger, none, hc, rfl⟩

theorem content_ok {data : Value} {p : Peer} {es : List Element}
    (h : content data = .ok (p, es)) :
    ∃ fields, data = .object fields ∧
      (integerField fields "timestamp").toInteger = .ok p.time := by
  unfold content at h
  obtain ⟨timestamp, ht, h⟩ := bind_ok h
  obtain ⟨time, htime, h⟩ := bind_ok h
  obtain ⟨address, _, h⟩ := bind_ok h
  obtain ⟨number, _, h⟩ := bind_ok h
  obtain ⟨asn, _, h⟩ := bind_ok h
  obtain ⟨found, _, h⟩ := bind_ok h
  cases h
  cases data with
  | object fields =>
    cases ht
    exact ⟨fields, rfl, htime⟩
  | _ => cases ht

theorem convert_ok {data : Value} {r : Record} (h : convert data = .ok r) :
    ∃ fields host elements, data = .object fields ∧
      (integerField fields "timestamp").toInteger = .ok r.time ∧
      (Named.get? fields ↑"host").getD (.text []) = .text host ∧
      r = makeRecord r.time (collectorName host) .valid (.stored elements) := by
  unfold convert at h
  split at h
  · cases h
  · rename_i p es hc
    obtain ⟨fields, rfl, time⟩ := content_ok hc
    split at h
    · cases h
    · rename_i collector named
      cases h
      obtain ⟨v, hv, named⟩ := bind_ok named
      cases hv
      split at named
      · rename_i host hh
        cases named
        exact ⟨fields, host, es, rfl, time, hh, rfl⟩
      · cases named

end Live
end RouteFeed
