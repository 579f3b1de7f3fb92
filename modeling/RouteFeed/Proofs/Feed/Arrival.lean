import RouteFeed.Live.Source

/-! What a reply brings: the lines of its body, and how it ends. This does not depend on what is
made of the lines. -/
namespace RouteFeed

open Number

namespace Live

inductive Ending where
  | closed
  /-- Nothing comes for too long. -/
  | silent
  /-- Nothing comes any more, and there is no limit for that. -/
  | endless
  | failed (f : Failure)
  deriving DecidableEq

/-- A failure to read; the end of a time limit is silence. -/
def Ending.ofFailure (f : Failure) : Ending :=
  if f.kind = .timeout then .silent else .failed f

/-- The end of a reply from which nothing comes any more. -/
def Ending.ofSilence (limit : Option Binary64) : Ending :=
  if limit.all (· = .infinite false) then .endless else .silent

/-- The lines of a reply, and how it ends. -/
structure Transmission where
  lines : List (List Char) := []
  ending : Ending

namespace Transmission

def after (lines : List (List Char)) (t : Transmission) : Transmission :=
  { t with lines := lines ++ t.lines }

@[simp] theorem after_lines (lines : List (List Char)) (t : Transmission) :
    (t.after lines).lines = lines ++ t.lines := rfl

@[simp] theorem after_ending (lines : List (List Char)) (t : Transmission) :
    (t.after lines).ending = t.ending := rfl

/-- The lines that pieces of a body bring, under a limit of the time without a line. -/
def ofArrivals (limit : Option Binary64) :
    Text.Decoder → Text.LineSplitter → Duration → List Arrival → Transmission
  | decoder, splitter, _, [] =>
    match decoder.flush with
    | .error f => { ending := .ofFailure f }
    | .ok text =>
      { lines := (splitter.feed text).1 ++ (splitter.feed text).2.flush, ending := .closed }
  | decoder, splitter, time, .bytes bs :: rest =>
    match decoder.feed bs with
    | .error f => { ending := .ofFailure f }
    | .ok (text, decoder) =>
      let (lines, splitter) := splitter.feed text
      (ofArrivals limit decoder splitter (if lines.isEmpty then time else .zero) rest).after lines
  | _, _, _, .fails f :: _ => { ending := .ofFailure f }
  | _, _, _, .stalls :: _ | _, _, _, .signals :: _ => { ending := .ofSilence limit }
  | decoder, splitter, time, .pauses length :: rest =>
    if limit.all (time.add length).below then
      ofArrivals limit decoder splitter (time.add length) rest
    else { ending := .silent }

end Transmission

def Reply.transmission (limit : Option Binary64) (reply : Reply) : Transmission :=
  match reply.decoder with
  | .ok decoder => .ofArrivals limit decoder {} .zero reply.plainBody
  | .error f => { ending := .ofFailure f }

end Live

open Live

/-- What is left of a reply that is being read. -/
def LiveStream.remaining (limit : Option Binary64) (stream : LiveStream) : Transmission :=
  if stream.ended then { lines := stream.ready, ending := .closed }
  else
    (Transmission.ofArrivals limit stream.decoder stream.splitter .zero stream.rest).after
      stream.ready

theorem LiveStream.remaining_openStream (limit : Option Binary64) (index : Nat) (reply : Reply) :
    (LiveSource.openStream index reply).remaining limit = reply.transmission limit := by
  unfold LiveSource.openStream Reply.transmission
  cases reply.decoder with
  | ok decoder => simp [remaining, Transmission.after]
  | error f => simp [remaining, Transmission.after, Transmission.ofArrivals]

end RouteFeed
