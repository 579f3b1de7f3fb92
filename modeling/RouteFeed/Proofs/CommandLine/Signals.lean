import RouteFeed.Proofs.CommandLine.Morphism
import RouteFeed.Proofs.CommandLine.Output
import RouteFeed.Proofs.Retrieval.Interrupted
import RouteFeed.Proofs.Session.Rehearsal

/-! Runs under signals. A signal may come at any moment: while the source is opened, which the tokens at
the beginning of the retrieval tell, or while a pull goes on, which its notices tell. One that comes
while a record is written is known at the next pull, as if the pull of that record had ended with it. -/
namespace RouteFeed

variable {σ : Type} [Source σ] {good : σ → Prop}

def Source.justMade {τ : Type} (source : τ) : Traced (Recorded τ) := ⟨⟨source, []⟩, [.made]⟩

theorem Source.Obliging.opened {modes : OutputModes} {size : Int}
    (obliging : Source.Obliging good modes size) {source : σ} (begins : good source)
    (config : StreamConfig) :
    Session.Moves good (justMade source) (Source.start (justMade source) config).source
      [.opened (Source.start (justMade source) config).result.isOk] [] :=
  ⟨obliging.start source config begins, rfl, rfl⟩

namespace CommandLine

/-- A reading that comes to its end before its session is stopped: it has written whole records, and
fails exactly if the source has failed. -/
structure Reading.Keeps (r : Reading (Traced (Recorded σ))) (good : σ → Prop) (modes : OutputModes)
    (size : Int) (t left : Traced (Recorded σ)) (calls : List SourceCall)
    (given : List (Handover σ)) : Prop where
  named : ∃ name, r.session.backendName = .ok name
  moves : Session.Moves good t left calls given
  written : Source.RendersFirst modes size (Handover.produced given) r.lines
  outcome : if calls.any SourceCall.isFault then ∃ f, r.outcome = .raised f ∧ f.IsReported
    else ∃ stats, r.outcome = .returned stats

/-- The stop at the end of a reading closes a source that can be released, and changes nothing else. -/
theorem Reading.stop_of_live {τ : Type} [Source τ] {r : Reading τ} {source : τ} {name : String}
    (unblocked : r.outcome ≠ .blocked) (live : r.session.phase.live? = some source)
    (released : (Source.close source).1 = .ok ()) (named : r.session.backendName = .ok name) :
    r.stop = { r with
      session := { r.session with phase := .stopped (some (Source.close source).2) }
      log := r.log ++ r.session.stop.log } := by
  have closes := Session.stop_of_released (Phase.going_of_live live) (fun other live' => by
    cases live.symm.trans live'
    exact released) named
  rw [live] at closes
  unfold Reading.stop
  split
  · contradiction
  · simp only [closes.1, closes.2]
    rfl

theorem Reading.Keeps.stop {r : Reading (Traced (Recorded σ))} {modes : OutputModes} {size : Int}
    {t left : Traced (Recorded σ)} {calls : List SourceCall} {given : List (Handover σ)}
    (keeps : r.Keeps good modes size t left calls given)
    (obliging : Source.Obliging good modes size) (live : r.session.phase.live? = some left) :
    r.stop.Keeps good modes size t left calls given ∧
      r.stop.session.phase = .stopped (some (Source.close left).2) := by
  have unblocked : r.outcome ≠ .blocked := by
    have outcome := keeps.outcome
    split at outcome
    · obtain ⟨f, raised, _⟩ := outcome
      rw [raised]
      exact nofun
    · obtain ⟨stats, returned⟩ := outcome
      rw [returned]
      exact nofun
  obtain ⟨name, named⟩ := keeps.named
  rw [Reading.stop_of_live unblocked live (obliging.close _ keeps.moves.good) named]
  exact ⟨⟨⟨name, named⟩, keeps.moves, keeps.written, keeps.outcome⟩, rfl⟩

theorem Reading.Keeps.ofRun {r : Retrieval (Traced (Recorded σ))} {t left : Traced (Recorded σ)}
    {calls : List SourceCall} {given : List (Handover σ)} {run : Retrieval.Run (Traced (Recorded σ))}
    (named : ∃ name, r.session.backendName = .ok name) (keeps : r.Keeps good t left calls given run) :
    (Reading.ofRun run).Keeps good r.modes r.elementBuffer t left calls given ∧
      (Reading.ofRun run).session.phase.live? = some left := by
  obtain ⟨closes, written⟩ := keeps
  cases closes with
  | returns outcome session moves calm =>
    refine ⟨⟨?_, moves, written, ?_⟩, congrArg (fun s => s.phase.live?) session⟩
    · rw [Reading.ofRun, session]
      exact named
    · rw [calm, Reading.ofRun, outcome]
      exact ⟨_, rfl⟩
  | raises outcome kind session moves failed =>
    refine ⟨⟨?_, moves, written, ?_⟩, congrArg (fun s => s.phase.live?) session⟩
    · rw [Reading.ofRun, session]
      exact named
    · rw [failed, Reading.ofRun, outcome]
      exact ⟨_, rfl, .inr (.inl kind)⟩

theorem Reading.Keeps.code {r : Reading (Traced (Recorded σ))} {modes : OutputModes} {size : Int}
    {t left : Traced (Recorded σ)} {calls : List SourceCall} {given : List (Handover σ)}
    (keeps : r.Keeps good modes size t left calls given) :
    (ended r).exit.code? = some (if calls.any SourceCall.isFault then -1 else 0) := by
  unfold ended
  have outcome := keeps.outcome
  cases faulty : calls.any SourceCall.isFault with
  | false =>
    rw [faulty] at outcome
    obtain ⟨stats, returned⟩ := outcome
    rw [returned]
    rfl
  | true =>
    rw [faulty] at outcome
    obtain ⟨f, raised, reported⟩ := outcome
    obtain ⟨name, named⟩ := keeps.named
    rw [raised]
    exact congrArg Exit.code? (failed_of_reported reported named)

end CommandLine
end RouteFeed
