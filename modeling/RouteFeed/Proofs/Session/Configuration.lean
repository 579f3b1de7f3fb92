import RouteFeed.Proofs.Session.Openings
import RouteFeed.Source.Scripted

/-! The configuration of a session. Options are set by handles, each of which has been made for an
interface of a registry that may still grow; a choice of another interface drops the options. So the
options of a session are at every moment those of its interface, as they have been set since. -/
namespace RouteFeed

variable {σ : Type}

namespace Registry

def Offers (r : Registry σ) (id : BackendId) (option : String) : Prop :=
  ∃ b, r.info id = .ok b ∧ b.owns option = true

variable {r grown : Registry σ} {id : BackendId} {option : String}

theorem offers_of_resolveOption {handle : OptionHandle}
    (made : r.resolveOption id option = .ok handle) : r.Offers handle.backend handle.name := by
  obtain ⟨b, info, made⟩ := bind_ok made
  split at made
  · rename_i owned
    cases made
    exact ⟨b, info, owned⟩
  · cases made

/-- An interface keeps its number and its options when others are registered. -/
theorem Offers.register (offers : r.Offers id option) {name description : String}
    {factory : Except Failure σ} {options : List OptionInfo} {asDefault : Bool} {new : BackendId}
    (done : r.register name description factory options asDefault = .ok (new, grown)) :
    grown.Offers id option := by
  obtain ⟨b, info, owned⟩ := offers
  refine ⟨b, ?_, owned⟩
  unfold Registry.register at done
  split at done
  · cases done
  · cases done
    unfold Registry.info find? at info ⊢
    rw [List.find?_append]
    cases found : r.backends.find? fun b => b.id == id with
    | some c =>
      rw [found] at info
      exact info
    | none =>
      rw [found] at info
      cases info

end Registry

/-- A session, and the handles that have been made for the options of its registry. -/
structure Desk (σ : Type) where
  session : Session σ
  handles : List OptionHandle := []

namespace Desk

inductive Call (σ : Type) where
  | register (name description : String) (factory : Except Failure σ) (options : List OptionInfo)
    (asDefault : Bool)
  /-- A handle is made for an option of an interface. -/
  | resolve (id : BackendId) (option : String)
  | operate (operation : Operation)

/-- A call with what it comes to, and the desk behind it. -/
structure Answer (σ : Type) where
  outcome : Outcome Unit
  desk : Desk σ

/-- Make a call. One that fails to register an interface or to make a handle changes nothing. -/
def answer [Source σ] (d : Desk σ) : Call σ → Answer σ
  | .register name description factory options asDefault =>
    match d.session.registry.register name description factory options asDefault with
    | .ok (_, registry) => ⟨.returned (), { d with session := { d.session with registry } }⟩
    | .error f => ⟨.raised f, d⟩
  | .resolve id option =>
    match d.session.registry.resolveOption id option with
    | .ok handle => ⟨.returned (), { d with handles := handle :: d.handles }⟩
    | .error f => ⟨.raised f, d⟩
  | .operate operation =>
    let m := d.session.move operation
    ⟨m.outcome, { d with session := m.after }⟩

def Admits (d : Desk σ) : Call σ → Prop
  | .operate (.setOption handle _) => handle ∈ d.handles
  | _ => True

/-- Calls with what they have come to, the last one first. -/
abbrev History (σ : Type) := List (Call σ × Outcome Unit)

inductive Course [Source σ] (first : Desk σ) : History σ → Desk σ → Prop
  | here : Course first [] first
  | call {calls d} (before : Course first calls d) (call : Call σ) (admits : d.Admits call) :
    Course first ((call, (d.answer call).outcome) :: calls) (d.answer call).desk

/-- The value that an option has been set to last, since an interface was chosen. Calls that fail do
not count. -/
def lastSet (option : String) : History σ → Option String
  | [] => none
  | (.operate (.select _), .returned ()) :: _ => none
  | (.operate (.setOption handle value), .returned ()) :: calls =>
    if handle.name = option then some value else lastSet option calls
  | _ :: calls => lastSet option calls

variable [Source σ] {d : Desk σ} {call : Call σ}

inductive Does (d : Desk σ) (call : Call σ) (a : Answer σ) : Prop
  /-- Nothing is chosen or set; the registry may have grown. -/
  | rests (backend : a.desk.session.backend = d.session.backend)
    (options : a.desk.session.options = d.session.options) (handles : a.desk.handles = d.handles)
    (offers : ∀ id option, d.session.registry.Offers id option →
      a.desk.session.registry.Offers id option)
    (unset : ∀ option (calls : History σ),
      lastSet option ((call, a.outcome) :: calls) = lastSet option calls)
  | resolves {id option handle} (call : call = .resolve id option)
    (made : d.session.registry.resolveOption id option = .ok handle)
    (answer : a = ⟨.returned (), { d with handles := handle :: d.handles }⟩)
  | selects {id} (call : call = .operate (.select id))
    (answer : a = ⟨.returned (),
      { d with session := { d.session with backend := id, options := [] } }⟩)
  | sets {handle value} (call : call = .operate (.setOption handle value))
    (own : handle.backend = d.session.backend)
    (answer : a = ⟨.returned (),
      { d with session :=
          { d.session with options := Named.put d.session.options handle.name value } }⟩)

theorem Does.of_sameChoice {operation : Operation}
    (same : d.session.SameChoice (d.session.move operation).after)
    (unset : ∀ option (calls : History σ),
      lastSet option ((.operate operation, (d.session.move operation).outcome) :: calls) =
        lastSet option calls) :
    d.Does (.operate operation) (d.answer (.operate operation)) := by
  refine .rests same.backend same.options rfl (fun id option offers => ?_) unset
  have registry : (d.answer (.operate operation)).desk.session.registry = d.session.registry :=
    same.registry
  rw [registry]
  exact offers

/-- A failure to choose an interface or to set an option changes nothing. -/
theorem Does.of_failure {operation : Operation} {f : Failure}
    (failed : d.session.move operation = ⟨operation, d.session, .raised f, d.session⟩) :
    d.Does (.operate operation) (d.answer (.operate operation)) := by
  refine .of_sameChoice ?_ fun option calls => ?_
  · rw [failed]
    exact ⟨rfl, rfl, rfl⟩
  · rw [failed]
    cases operation <;> rfl

theorem answer_does (d : Desk σ) (call : Call σ) : d.Does call (d.answer call) := by
  cases call with
  | register name description factory options asDefault =>
    unfold answer
    dsimp only
    split
    · rename_i done
      exact .rests rfl rfl rfl (fun id option offers => offers.register done) fun _ _ => rfl
    · exact .rests rfl rfl rfl (fun _ _ offers => offers) fun _ _ => rfl
  | resolve id option =>
    unfold answer
    dsimp only
    split
    · rename_i made
      exact .resolves rfl made rfl
    · exact .rests rfl rfl rfl (fun _ _ offers => offers) fun _ _ => rfl
  | operate operation =>
    cases operation with
    | select id =>
      cases selected : d.session.selectBackend id with
      | error f => exact .of_failure (by rw [Session.move, selected]; rfl)
      | ok t =>
        obtain ⟨-, rfl⟩ := Session.selectBackend_ok selected
        refine .selects rfl ?_
        rw [answer, Session.move, selected]
        rfl
    | setOption handle value =>
      cases set : d.session.setBackendOption handle value with
      | error f => exact .of_failure (by rw [Session.move, set]; rfl)
      | ok t =>
        obtain ⟨own, rfl⟩ := Session.setBackendOption_ok set
        refine .sets rfl own ?_
        rw [answer, Session.move, set]
        rfl
    | start filters blocking =>
      exact .of_sameChoice (d.session.start_sameChoice filters blocking) fun _ _ => rfl
    | next tokens token interruption =>
      exact .of_sameChoice (d.session.next_sameChoice tokens token interruption) fun _ _ => rfl
    | dump record => exact .of_sameChoice ⟨rfl, rfl, rfl⟩ fun _ _ => rfl
    | stop => exact .of_sameChoice d.session.stop_sameChoice fun _ _ => rfl

/-- The options are those of the interface, as they have been set last; the handles fit the
registry. -/
structure Sound (d : Desk σ) (calls : History σ) : Prop where
  handles : ∀ handle ∈ d.handles, d.session.registry.Offers handle.backend handle.name
  owned : ∀ option ∈ d.session.options.map Prod.fst,
    d.session.registry.Offers d.session.backend option
  distinct : (d.session.options.map Prod.fst).Nodup
  last : ∀ option, Named.get? d.session.options option = lastSet option calls

theorem Sound.answer {calls : History σ} (sound : d.Sound calls)
    (admits : d.Admits call) :
    (d.answer call).desk.Sound ((call, (d.answer call).outcome) :: calls) := by
  cases d.answer_does call with
  | rests backend options handles offers unset =>
    refine ⟨fun handle made => ?_, fun option set => ?_, ?_, fun option => ?_⟩
    · rw [handles] at made
      exact offers _ _ (sound.handles handle made)
    · rw [options] at set
      rw [backend]
      exact offers _ _ (sound.owned option set)
    · rw [options]
      exact sound.distinct
    · rw [options, unset]
      exact sound.last option
  | resolves call made answer =>
    subst call
    rw [answer]
    refine ⟨?_, sound.owned, sound.distinct, sound.last⟩
    exact List.forall_mem_cons.mpr ⟨Registry.offers_of_resolveOption made, sound.handles⟩
  | selects call answer =>
    subst call
    rw [answer]
    exact ⟨sound.handles, nofun, .nil, fun _ => rfl⟩
  | @sets handle value call own answer =>
    subst call
    rw [answer]
    refine ⟨sound.handles, fun option set => ?_, Named.nodup_put sound.distinct _ _,
      fun option => ?_⟩
    · rw [Named.map_fst_put] at set
      have known : option ∈ d.session.options.map Prod.fst ∨ option = handle.name := by
        split at set
        · exact .inl set
        · simpa using set
      rcases known with before | rfl
      · exact sound.owned option before
      · change d.session.registry.Offers d.session.backend handle.name
        rw [← own]
        exact sound.handles handle admits
    · rw [Named.get?_put, sound.last]
      rfl

theorem Course.sound {first : Desk σ} {calls : History σ}
    (course : Course first calls d) (start : first.Sound []) : d.Sound calls := by
  induction course with
  | here => exact start
  | call before call admits ih => exact ih.answer admits

theorem answer_of_failure (failed : (d.answer call).outcome ≠ .returned ()) :
    (d.answer call).desk.session.backend = d.session.backend ∧
      (d.answer call).desk.session.options = d.session.options := by
  cases d.answer_does call with
  | rests backend options => exact ⟨backend, options⟩
  | resolves _ _ answer | selects _ answer | sets _ _ answer =>
    rw [answer] at failed
    exact absurd rfl failed

omit [Source σ] in
theorem sound_of_new {registry : Registry σ} {backend : Option BackendId} {s : Session σ}
    (new : Session.new registry backend = .ok s) : (⟨s, []⟩ : Desk σ).Sound [] := by
  obtain ⟨id, rfl⟩ := Session.eq_of_new new
  exact ⟨nofun, nofun, .nil, fun _ => rfl⟩

/-- Whatever is called, the options of a session are options of its interface, each with the value
that has been set last since the interface was chosen; a source is opened with just these, and a call
that fails changes neither the interface nor the options. -/
theorem options_as_last_set {registry : Registry (Opened σ)} {backend : Option BackendId}
    {s : Session (Opened σ)} (new : Session.new registry backend = .ok s)
    {history : History (Opened σ)} {d : Desk (Opened σ)} (course : Course ⟨s, []⟩ history d) :
    (∀ entry ∈ d.session.options, d.session.registry.Offers d.session.backend entry.1) ∧
    (d.session.options.map Prod.fst).Nodup ∧
    (∀ option value,
      (option, value) ∈ d.session.options ↔ lastSet option history = some value) ∧
    (∀ filters blocking b o, d.session.state = .configuring → filters.windows ≠ [] →
      d.session.registry.info d.session.backend = .ok b → b.factory = .ok o →
      (d.answer (.operate (.start filters blocking))).desk.session.openings =
        o.openings ++ [{ filters := filters.snapshot, options := d.session.options, blocking }]) ∧
    ∀ call, (d.answer call).outcome ≠ .returned () →
      (d.answer call).desk.session.backend = d.session.backend ∧
        (d.answer call).desk.session.options = d.session.options := by
  have sound := course.sound (sound_of_new new)
  refine ⟨fun entry set => ?_, sound.distinct, fun option value => ?_,
    fun filters blocking b o configuring windows info made => ?_, fun call => answer_of_failure⟩
  · exact sound.owned entry.1 (List.mem_map_of_mem set)
  · rw [Named.mem_iff_get? sound.distinct, sound.last]
  · exact (Session.start_hasOpened ⟨configuring, windows, info⟩ made).2

/-- Two interfaces that both have an option of one name. -/
def twins : Registry (Opened ScriptedSource) where
  backends := [
    { id := 1, name := "first", description := "", options := [⟨"host", ""⟩]
      factory := .ok (Opened.made {}) },
    { id := 2, name := "second", description := "", options := [⟨"host", ""⟩]
      factory := .ok (Opened.made {}) }]
  preferred := some 1

/-- A session over them, with handles for both options. -/
def desk (backend : BackendId) (options : Named String) : Desk (Opened ScriptedSource) :=
  ⟨{ registry := twins, backend, options }, [⟨2, "host"⟩, ⟨1, "host"⟩]⟩

/-- The interfaces are registered while the session is configured. The handle of the first one is
refused when the second one has been chosen. -/
theorem options_as_last_set_switched :
    ∃ s history, Session.new {} (some 1) = .ok s ∧ Course ⟨s, []⟩ history (desk 2 [("host", "c")]) ∧
      (∀ option value,
        (option, value) ∈ [("host", "c")] ↔ lastSet option history = some value) ∧
      ((desk 2 [("host", "c")]).answer
          (.operate (.start { windows := [⟨0, 9⟩] } false))).desk.session.openings =
        [{ filters := { windows := [⟨0, 9⟩] }, options := [("host", "c")] }] := by
  let first : Desk (Opened ScriptedSource) := ⟨{ registry := {}, backend := 1 }, []⟩
  let registered : Desk (Opened ScriptedSource) := ⟨{ registry := twins, backend := 1 }, []⟩
  let join (name : String) : Call (Opened ScriptedSource) :=
    .register name "" (.ok (Opened.made {})) [⟨"host", ""⟩] false
  have start : Course first [] first := .here
  obtain ⟨_, grown⟩ : ∃ history, Course first history registered :=
    ⟨_, .call (.call start (join "first") trivial) (join "second") trivial⟩
  obtain ⟨_, resolved⟩ : ∃ history, Course first history (desk 1 []) :=
    ⟨_, .call (.call grown (.resolve 1 "host") trivial) (.resolve 2 "host") trivial⟩
  obtain ⟨_, chosen⟩ : ∃ history, Course first history (desk 2 []) :=
    ⟨_, .call (.call resolved (.operate (.setOption ⟨1, "host"⟩ "a")) (.tail _ (.head _)))
      (.operate (.select 2)) trivial⟩
  obtain ⟨_, course⟩ : ∃ history, Course first history (desk 2 [("host", "c")]) :=
    ⟨_, .call (.call chosen (.operate (.setOption ⟨1, "host"⟩ "b")) (.tail _ (.head _)))
      (.operate (.setOption ⟨2, "host"⟩ "c")) (.head _)⟩
  have new : Session.new {} (some 1) = .ok first.session := rfl
  obtain ⟨_, _, last, opened, _⟩ := options_as_last_set new course
  exact ⟨_, _, new, course, last, opened _ _ _ _ rfl (List.cons_ne_nil _ _) rfl rfl⟩

end Desk
end RouteFeed
