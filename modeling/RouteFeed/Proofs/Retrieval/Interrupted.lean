import RouteFeed.Proofs.Retrieval.Turns
import RouteFeed.Proofs.Session.Drawing

/-! Retrievals under a token that may be fired at any moment. Turn by turn, whole records are written as
they are handed over; a turn that ends the run has written nothing, and loses one record at most. -/
namespace RouteFeed

variable {σ : Type}

/-- Lines are the whole renderings of the first records, one at most being left out. -/
def Source.RendersFirst [Source σ] (modes : OutputModes) (size : Int) (produced : List (Record × σ))
    (lines : List String) : Prop :=
  ∃ k texts, produced.length ≤ k + 1 ∧
    (produced.take k).mapM (fun p => Source.rendering p.2 modes size p.1) = .ok texts ∧
    lines = texts.flatten

namespace Retrieval

variable {good : σ → Prop} {token : String} {r next last : Retrieval (Traced (Recorded σ))}
  {t : Traced (Recorded σ)} {run : Run (Traced (Recorded σ))}

structure Resumes (r next : Retrieval (Traced (Recorded σ))) : Prop where
  session : ∃ phase, next.session = { r.session with phase }
  modes : next.modes = r.modes
  buffer : next.elementBuffer = r.elementBuffer

theorem Resumes.trans (h : r.Resumes next) (h' : next.Resumes last) : r.Resumes last := by
  obtain ⟨phase, session⟩ := h.session
  obtain ⟨phase', session'⟩ := h'.session
  refine ⟨⟨phase', ?_⟩, h'.modes.trans h.modes, h'.buffer.trans h.buffer⟩
  rw [session', session]

structure Steady (r : Retrieval (Traced (Recorded σ))) (good : σ → Prop) (token : String)
    (t : Traced (Recorded σ)) : Prop where
  reads : r.session.Reads t
  good : good t.source.source
  named : ∃ name, r.session.backendName = .ok name
  under : r.token = some token
  free : r.interruption = none

variable [Source σ]

theorem Resumes.obliging (h : r.Resumes next)
    (obliging : Source.Obliging good r.modes r.elementBuffer) :
    Source.Obliging good next.modes next.elementBuffer := by
  rw [h.modes, h.buffer]
  exact obliging

theorem Steady.draws (steady : r.Steady good token t)
    (obliging : Source.Obliging good r.modes r.elementBuffer) :
    Session.Draws good r.modes r.elementBuffer r.session t r.pulled := by
  obtain ⟨name, named⟩ := steady.named
  rw [pulled, steady.under, steady.free]
  exact Session.next_draws obliging steady.reads named steady.good r.tokens token

/-- A turn that goes on has written the record that the source has handed over. -/
structure Passes (r next : Retrieval (Traced (Recorded σ))) (good : σ → Prop) (token : String)
    (t left : Traced (Recorded σ)) (record : Record) (lines : List String) : Prop where
  steady : next.Steady good token left
  resumes : r.Resumes next
  tokens : next.tokens = r.pulled.tokens
  moves : Session.Moves good t left [.pulled] [⟨.ok (some record), left.source.source, false⟩]
  whole : Source.rendering left.source.source r.modes r.elementBuffer record = .ok lines

theorem Steady.goesOn (steady : r.Steady good token t)
    (obliging : Source.Obliging good r.modes r.elementBuffer) {log : Log} {w : Writing}
    (turned : r.turn = .goesOn log w next) :
    ∃ left record, r.Passes next good token t left record w.lines := by
  have turns := r.turn_turns
  rw [turned] at turns
  cases turns with
  | @goesOn record outcome finished =>
    cases steady.draws obliging with
    | nothing outcome' => cases outcome.symm.trans outcome'
    | failure outcome' => cases outcome.symm.trans outcome'
    | waits outcome' => cases outcome.symm.trans outcome'
    | @record _ lines left outcome' session moves whole =>
      cases outcome.symm.trans outcome'
      have live : r.behind.session.phase.live? = some left := by
        rw [behind, session]
        rfl
      obtain ⟨written, _⟩ := write_of_rendering (r := r.behind) live whole
      refine ⟨left, record, ⟨⟨?_, moves.good, ?_, steady.under, steady.free⟩, ⟨⟨_, session⟩, rfl, rfl⟩,
        rfl, moves, by rw [written]; exact whole⟩⟩
      · exact .inr (congrArg Session.phase session)
      · obtain ⟨name, named⟩ := steady.named
        refine ⟨name, ?_⟩
        rw [beyond, behind, session]
        exact named

/-- How a run ends that writes nothing any more. -/
inductive Closes (r : Retrieval (Traced (Recorded σ))) (good : σ → Prop)
    (t left : Traced (Recorded σ)) (calls : List SourceCall) (given : List (Handover σ))
    (run : Run (Traced (Recorded σ))) : Prop
  | returns (outcome : run.outcome = .returned ())
    (session : run.retrieval.session = { r.session with phase := .iterating left })
    (moves : Session.Moves good t left calls given) (calm : calls.any SourceCall.isFault = false)
  | raises {f} (outcome : run.outcome = .raised f) (kind : f.kind = .backend)
    (session : run.retrieval.session = { r.session with phase := .failed (some left) })
    (moves : Session.Moves good t left calls given) (failed : calls.any SourceCall.isFault = true)

theorem Steady.ends (steady : r.Steady good token t)
    (obliging : Source.Obliging good r.modes r.elementBuffer) (turned : r.turn = .ends run) :
    run.lines = [] ∧ (run.outcome = .blocked ∧ r.pulled.outcome = .blocked ∨
      ∃ left calls given, r.Closes good t left calls given run ∧ given.length ≤ 1) := by
  have turns := r.turn_turns
  rw [turned] at turns
  have draws := steady.draws obliging
  cases turns with
  | waits outcome => exact ⟨rfl, .inl ⟨rfl, outcome⟩⟩
  | finishes outcome =>
    cases draws with
    | record outcome' => cases outcome.symm.trans outcome'
    | failure outcome' => cases outcome.symm.trans outcome'
    | waits outcome' => cases outcome.symm.trans outcome'
    | @nothing left calls given _ session moves calm few =>
      exact ⟨rfl, .inr ⟨left, calls, given, .returns rfl session moves calm, few⟩⟩
  | fails outcome =>
    cases draws with
    | record outcome' => cases outcome.symm.trans outcome'
    | nothing outcome' => cases outcome.symm.trans outcome'
    | waits outcome' => cases outcome.symm.trans outcome'
    | @failure f left h outcome' kind session moves =>
      cases outcome.symm.trans outcome'
      exact ⟨rfl, .inr ⟨left, _, _, .raises rfl kind session moves rfl, Nat.le_refl _⟩⟩
  | breaks outcome failure =>
    cases draws with
    | nothing outcome' => cases outcome.symm.trans outcome'
    | failure outcome' => cases outcome.symm.trans outcome'
    | waits outcome' => cases outcome.symm.trans outcome'
    | record outcome' session moves whole =>
      cases outcome.symm.trans outcome'
      -- a record that can be rendered as a whole is written without a failure
      have finished := (write_of_rendering (r := r.behind)
        (by rw [behind, session]; rfl) whole).2
      cases failure.symm.trans finished

/-- Some turns that go on have written the records that the source has handed over. -/
structure Delivers (r last : Retrieval (Traced (Recorded σ))) (good : σ → Prop) (token : String)
    (t left : Traced (Recorded σ)) (ws : List (Log × Writing)) (calls : List SourceCall)
    (given : List (Handover σ)) : Prop where
  steady : last.Steady good token left
  resumes : r.Resumes last
  moves : Session.Moves good t left calls given
  calm : calls.any SourceCall.isFault = false
  whole : (Handover.produced given).mapM
    (fun p => Source.rendering p.2 r.modes r.elementBuffer p.1) = .ok (ws.map fun w => w.2.lines)

theorem Steady.leads (steady : r.Steady good token t)
    (obliging : Source.Obliging good r.modes r.elementBuffer) {ws : List (Log × Writing)}
    (chain : r.Leads ws last) :
    ∃ left calls given, r.Delivers last good token t left ws calls given := by
  induction chain generalizing t with
  | here r =>
    exact ⟨t, [], [], steady, ⟨⟨_, rfl⟩, rfl, rfl⟩,
      ⟨steady.good, (List.append_nil _).symm, (List.append_nil _).symm⟩, rfl, rfl⟩
  | @step r log w next ws last turned rest ih =>
    obtain ⟨left, record, passes⟩ := steady.goesOn obliging turned
    obtain ⟨left', calls, given, delivers⟩ := ih passes.steady (passes.resumes.obliging obliging)
    refine ⟨left', _, _, delivers.steady, passes.resumes.trans delivers.resumes,
      passes.moves.trans delivers.moves, ?_, ?_⟩
    · rw [List.any_append, delivers.calm]
      rfl
    · have more := delivers.whole
      rw [passes.resumes.modes, passes.resumes.buffer] at more
      have first : Handover.produced
          (⟨.ok (some record), left.source.source, false⟩ :: given) =
            (record, left.source.source) :: Handover.produced given := rfl
      rw [List.singleton_append, first, List.mapM_cons, passes.whole, more]
      rfl

/-- A run that has come to its end: it has written whole records, all but one at most of those that
the source has handed over, and it fails if the source has failed. -/
structure Keeps (r : Retrieval (Traced (Recorded σ))) (good : σ → Prop)
    (t left : Traced (Recorded σ)) (calls : List SourceCall) (given : List (Handover σ))
    (run : Run (Traced (Recorded σ))) : Prop where
  closes : r.Closes good t left calls given run
  written : Source.RendersFirst r.modes r.elementBuffer (Handover.produced given) run.lines

theorem Closes.after {left first : Traced (Recorded σ)} {ws : List (Log × Writing)}
    {calls more : List SourceCall} {given rest : List (Handover σ)}
    (closes : last.Closes good first left more rest run)
    (delivers : r.Delivers last good token t first ws calls given) :
    r.Closes good t left (calls ++ more) (given ++ rest) (run.afterAll ws) := by
  obtain ⟨phase, session⟩ := delivers.resumes.session
  cases closes with
  | returns outcome left moves calm =>
    refine .returns (by rw [Run.afterAll_outcome, outcome]) ?_ (delivers.moves.trans moves) ?_
    · rw [Run.afterAll_retrieval, left, session]
    · rw [List.any_append, delivers.calm, calm]
      rfl
  | raises outcome kind left moves failed =>
    refine .raises (by rw [Run.afterAll_outcome, outcome]) kind ?_ (delivers.moves.trans moves) ?_
    · rw [Run.afterAll_retrieval, left, session]
    · rw [List.any_append, failed, Bool.or_true]

end Retrieval
end RouteFeed
