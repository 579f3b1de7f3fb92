import RouteFeed.Filter
import RouteFeed.Log
import RouteFeed.Render

/-! Sources of records.

A source is opened once with its configuration, pulled record by record, and closed. A pull takes
time: it may wait, and while it waits it can be interrupted. So a pull is given as the tree of what
it does next, and whoever pulls decides at each wait which way it goes on. -/
namespace RouteFeed

structure StreamConfig where
  filters : StreamFilters
  options : Named String := []
  /-- Wait for new data instead of ending when the data runs out. -/
  blocking : Bool := false

/-- What becomes known while a source works. -/
inductive Notice where
  | token (name : String)
  | signal
  deriving DecidableEq

/-- What a pull gives: a record, the end of the data, or a failure. -/
abbrev PullAnswer := Except Failure (Option Record)

/-- A pull in progress. The source of a waiting pull is what is left if nothing more happens. -/
inductive Pull (σ : Type) where
  | done (answer : PullAnswer) (source : σ)
  | report (entry : LogEntry) (next : Pull σ)
  | notice (n : Notice) (next : Pull σ)
  /-- The pull waits for what never comes, unless it is interrupted. -/
  | stall (source : σ) (interrupted : Pull σ)
  /-- The pull waits for what comes in time, unless it is interrupted before. -/
  | pause (source : σ) (arrived interrupted : Pull σ)

def Pull.map {σ τ : Type} (f : σ → τ) : Pull σ → Pull τ
  | done answer source => .done answer (f source)
  | report entry next => .report entry (next.map f)
  | notice n next => .notice n (next.map f)
  | stall source interrupted => .stall (f source) (interrupted.map f)
  | pause source arrived interrupted => .pause (f source) (arrived.map f) (interrupted.map f)

/-- The end of an opening: the outcome, the source and what was logged. -/
structure Opening (σ : Type) where
  result : Except Failure Unit
  source : σ
  log : Log := []

/-- What every source can do. -/
class Source (σ : Type) where
  start : σ → StreamConfig → Opening σ
  pull : σ → Pull σ
  close : σ → Except Failure Unit × σ
  dump : σ → Record → Except Failure (List Points) × Record
  /-- What is logged after the run, by work that the run has left behind. -/
  aftermath : σ → Log

instance {α β : Type} [Source α] [Source β] : Source (α ⊕ β) where
  start
    | .inl a, config =>
      let r := Source.start a config
      { result := r.result, source := .inl r.source, log := r.log }
    | .inr b, config =>
      let r := Source.start b config
      { result := r.result, source := .inr r.source, log := r.log }
  pull
    | .inl a => (Source.pull a).map .inl
    | .inr b => (Source.pull b).map .inr
  close
    | .inl a => let r := Source.close a; (r.1, .inl r.2)
    | .inr b => let r := Source.close b; (r.1, .inr r.2)
  dump
    | .inl a, record => Source.dump a record
    | .inr b, record => Source.dump b record
  aftermath
    | .inl a => Source.aftermath a
    | .inr b => Source.aftermath b

end RouteFeed
