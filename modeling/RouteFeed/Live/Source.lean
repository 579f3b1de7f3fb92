import RouteFeed.Live.ContentCoding
import RouteFeed.Live.ContentType
import RouteFeed.Live.Message
import RouteFeed.Live.Server
import RouteFeed.Live.Status
import RouteFeed.Registry
import RouteFeed.Source
import RouteFeed.Text.Ascii
import RouteFeed.Text.Lines
import RouteFeed.Url

/-! The source of a live feed.

It asks a server for the feed and turns the lines of the reply into records. Filters are applied
here; only a single collector is also named to the server. The stream ends once a message lies
behind every time window, when the reply ends, or, unless the source waits for new data, when no
line has come for some time. -/
namespace RouteFeed

open Live Number

def Live.options : List OptionInfo := [
  ⟨"url", "RIS Live streaming endpoint"⟩,
  ⟨"client", "Client identifier sent with the request"⟩,
  ⟨"idle-timeout", "Seconds without data before a non-blocking stream ends"⟩]

/-- The reading of a reply. -/
structure LiveStream where
  /-- The place of the reply among all replies. -/
  index : Nat
  rest : List Arrival
  decoder : Text.Decoder
  splitter : Text.LineSplitter := {}
  ready : List (List Char) := []
  /-- Nothing more can be read. -/
  ended : Bool := false

/-- What dates a record that stands for a line that cannot be read. -/
structure Live.Watch where
  /-- The time of the last message; zero if there was none. -/
  last : Int := 0
  /-- The time now, at each such line that is still to come. -/
  clock : Nat → Int

namespace Live.Watch

def hear (w : Watch) (time : Option Int) : Watch := { w with last := time.getD w.last }

/-- The time of the last message, or the time now. -/
def date (w : Watch) : Int := if w.last = 0 then w.clock 0 else w.last

/-- A line that cannot be read has gone by. -/
def tick (w : Watch) : Watch := { w with clock := fun n => w.clock (n + 1) }

/-- The record that stands for a line that cannot be read. -/
def standIn (w : Watch) : Record := makeRecord w.date [] .corruptedRecord .none

end Live.Watch

structure LiveSource where
  endpoint : String
  clientName : String := "bgpreader"
  idleTimeout : Value := .real (.ofInt 10)
  httpTimeout : Value := .real (.ofInt 30)
  server : Server
  watch : Watch
  filters : StreamFilters := {}
  blocking : Bool := false
  isOpen : Bool := false
  stream : Option LiveStream := none
  held : Option Nat := none
  requests : List Request := []
  released : List Bool := []

namespace LiveSource

def beginsWith (start s : String) : Bool := s.toList.take start.length == start.toList

def isWebAddress (s : String) : Bool := beginsWith "http://" s || beginsWith "https://" s

def setAddress (s : LiveSource) (text : String) : Except Failure LiveSource :=
  if isWebAddress text then .ok { s with endpoint := text }
  else .error (.backendInit s!"Invalid RIS Live url '{text}'")

/-- Zero or below; what is no number is not. -/
def isNotPositive (x : Binary64) : Bool := x.leInt 0

/-- Take over the time without data. It is kept even if it is not positive. -/
def setIdleTimeout (s : LiveSource) (text : String) : Except Failure Unit × LiveSource :=
  match readReal text.toList with
  | none => (.error (.backendInit s!"Invalid idle-timeout '{text}'"), s)
  | some x =>
    let s := { s with idleTimeout := .real x }
    if isNotPositive x then (.error (.backendInit "idle-timeout must be positive"), s)
    else (.ok (), s)

/-- Take over the options one by one. Those before a fault stay. -/
def applyOptions (s : LiveSource) (options : Named String) :
    Except Failure Unit × LiveSource :=
  match (Named.get? options "url").elim (.ok s) s.setAddress with
  | .error f => (.error f, s)
  | .ok s =>
    let s := match Named.get? options "client" with
      | some name => { s with clientName := name }
      | none => s
    match Named.get? options "idle-timeout" with
    | some text => s.setIdleTimeout text
    | none => (.ok (), s)

def form (s : LiveSource) : Named String :=
  [("format", "json"), ("client", s.clientName)] ++
    match s.filters.collectors with
    | [.value collector] => [("host", collector)]
    | _ => []

def loggedForm (s : LiveSource) : Named Value :=
  s.form.map (fun (name, value) => (name, .text value)) ++
    match s.filters.collectors with
    | [.erased] => [("host", .list [])]
    | _ => []

def connectFailure (f : Failure) : Failure :=
  if f.isTransport then .backendInit s!"Failed to connect to RIS Live: {f.message}"
  else if f.kind = .endOfSequence then
    ⟨.runtime, "async generator raised StopAsyncIteration"⟩
  else f

def release (s : LiveSource) (index : Nat) : LiveSource :=
  { s with released := s.released.set index true }

/-- Check the address of a reply that sends the client elsewhere. -/
def checkLocation (status : Nat) (url : Url) (address : String) : Except Failure Unit :=
  if isRedirect status then url.checkLocation address.toList else .ok ()

def checkHeaders (reply : Reply) : Except Failure Unit :=
  reply.headers.forM fun (name, value) => do
    Text.checkAscii name.toList
    Text.checkAscii value.toList

/-- The stream of a reply. If there is no decoder for it, the first reading fails. -/
def openStream (index : Nat) (reply : Reply) : LiveStream :=
  match reply.decoder with
  | .ok decoder => { index, rest := reply.plainBody, decoder }
  | .error f => { index, rest := [.fails f], decoder := .utf8 {} }

def receive (s : LiveSource) (url : Url) (reply : Reply) : Except Failure Unit × LiveSource :=
  let index := s.released.length
  let s := { s with released := s.released ++ [false] }
  let shown := String.ofList url.text
  match checkHeaders reply with
  | .error f => (.error f, s)
  | .ok () =>
    -- the failures before the status leave the connection as it is
    if !url.isAbsolute then
      (.error (.badValue s!"unknown url type: {Text.quoted shown}"), s)
    else if !isSuccess reply.status then
      let location := reply.header? "location"
      match location.elim (.ok ()) (checkLocation reply.status url) with
      | .error f => (.error (connectFailure f), s.release index)
      | .ok () =>
        let report := statusReport reply.status shown location
        (.error (.backendInit s!"Failed to connect to RIS Live: {report}"), s.release index)
    else
      (.ok (), { s with held := some index, stream := some (openStream index reply) })

def connect (s : LiveSource) : Except Failure Unit × LiveSource :=
  let url := do
    let url ← Url.parse s.endpoint.toList
    let url ← url.rooted
    let url ← url.withForm s.form
    url.checkHost
    url.checkServer
    return url
  match url with
  | .error f => (.error f, s)
  | .ok url =>
    let request : Request := { url := String.ofList url.text, timeLimit := s.httpTimeout }
    let s := { s with requests := s.requests ++ [request] }
    match s.server with
    | .refuses f => (.error (connectFailure f), s)
    | .replies reply => s.receive url reply

/-- The filters can let records of the feed through. -/
def isWanted (f : StreamFilters) : Bool :=
  f.matchesProject project && f.matchesRecordType "updates"

def replayEntry (f : StreamFilters) : Log :=
  match f.replayPeriod with
  | some n =>
    if n = 0 then []
    else [.info "RIS Live carries no RIB dumps, ignoring replay period" [("period", .int n)]]
  | none => []

def connectedEntry (s : LiveSource) : LogEntry :=
  .info "Connected to RIS Live" [
    ("endpoint", .text s.endpoint),
    ("params", .object (s.loggedForm.map fun (name, v) => (↑name, v)))]

def start (s : LiveSource) (config : StreamConfig) : Opening LiveSource :=
  if s.isOpen then { result := .ok (), source := s }
  else
    match s.applyOptions config.options with
    | (.error f, s) => { result := .error f, source := s }
    | (.ok (), s) =>
      -- what the options have set stays, even if the feed is not reached
      let s := { s with filters := config.filters, blocking := config.blocking }
      if !isWanted s.filters then
        { result := .ok (), source := { s with isOpen := true }
          log := [.info "RIS Live filtered out by project/type filters" [
            ("projects", .row (s.filters.projects.map Given.toValue))]] }
      else
        let log := replayEntry s.filters
        match s.connect with
        | (.error f, s) => { result := .error f, source := s, log }
        | (.ok (), s) =>
          let s := { s with isOpen := true }
          { result := .ok (), source := s, log := log ++ [s.connectedEntry] }

def close (s : LiveSource) : LiveSource :=
  let s := match s.held with
    | some index => s.release index
    | none => s
  { s with held := none, stream := none, isOpen := false }

def stamp (s : LiveSource) (time : Option Int) : LiveSource :=
  { s with watch := s.watch.hear time }

/-- What the lines that have come give. -/
inductive Scan where
  | ends (answer : PullAnswer) (source : LiveSource) (left : List (List Char)) (log : Log)
  /-- A message lies behind every window. -/
  | passed (source : LiveSource) (log : Log)
  | dry (source : LiveSource) (log : Log)

/-- What the filters make of a record: it is passed over, given, or the end. -/
inductive Verdict where
  | skip
  | give
  | stop (lastEnd : Int)

def verdict (f : StreamFilters) (r : Record) : Verdict :=
  let inside : Verdict :=
    if f.matchesTime r.time && f.matchesCollector r.collector then .give else .skip
  match f.lastEnd with
  | some e => if e < r.time then .stop e else inside
  | none => inside

/-- Go through lines up to the first that ends a pull. -/
def scan (s : LiveSource) : List (List Char) → Scan
  | [] => .dry s []
  | line :: lines =>
    if line.all Text.isBlank then s.scan lines
    else
      match readLine line with
      | .nothing => s.scan lines
      | .fails f time => .ends (.error f) (s.stamp time) lines []
      | .broken entry time =>
        -- without a message before, each stand-in reads the clock anew
        let watch := s.watch.hear time
        .ends (.ok (some watch.standIn)) { s with watch := watch.tick } lines [entry]
      | .record r =>
        let s := s.stamp (some r.time)
        match verdict s.filters r with
        | .skip => s.scan lines
        | .give => .ends (.ok (some r)) s lines []
        | .stop lastEnd =>
          .passed s [.info "All time windows have passed" [("last_end", .int lastEnd)]]

def reporting (log : Log) (p : Pull LiveSource) : Pull LiveSource := log.foldr .report p

def finished (s : LiveSource) : LiveSource := { s with stream := none }

/-- The reply cannot be read any further, but that has not been noticed yet. -/
def broken (s : LiveSource) (stream : LiveStream) : LiveSource :=
  { s with stream := some { stream with rest := [], ready := [], ended := true } }

/-- The end of a pull that found no line in time. -/
def idle (s : LiveSource) : Pull LiveSource :=
  .report (.info "RIS Live idle, ending stream" [("idle_timeout", s.idleTimeout)])
    (.done (.ok none) s.finished)

def cancelled (s : LiveSource) (stream : LiveStream) : Pull LiveSource :=
  .done (.error .cancelled) (s.broken stream)

def readError (f : Failure) : Failure :=
  if f.isTransport then .backend s!"Error reading from RIS Live: {f.message}"
  else if f.kind = .endOfSequence then
    ⟨.runtime, "async generator raised StopAsyncIteration"⟩
  else f

def readFailure (s : LiveSource) (stream : LiveStream) (f : Failure) : Pull LiveSource :=
  if f.kind = .timeout then s.idle
  else .done (.error (readError f)) (s.broken stream)

/-- The limit of the time without data: there is none while the source waits for new data, and a
value that is no number cannot be one. -/
def idleLimit (s : LiveSource) : Except Failure (Option Binary64) :=
  if s.blocking then .ok none
  else
    match s.idleTimeout with
    | .null => .ok none
    | .real x => .ok (some x)
    | .int n => .ok (some (.ofInt n))
    | .bool b => .ok (some (.ofInt (if b then 1 else 0)))
    | v => .error (.wrongShape s!"'<=' not supported between instances of '{v.shape}' and 'int'")

/-- A pull for which nothing comes any more. -/
def starved (s : LiveSource) (limit : Option Binary64) (stream : LiveStream) : Pull LiveSource :=
  if limit.all (· = .infinite false) then .stall s (s.cancelled stream)
  else .pause s s.idle (s.cancelled stream)

/-- End a pull with the outcome of a scan, or go on if there was none. -/
def conclude (stream : LiveStream) (scan : Scan) (onward : LiveSource → Pull LiveSource) :
    Pull LiveSource :=
  match scan with
  | .ends answer s left log =>
    reporting log (.done answer { s with stream := some { stream with ready := left } })
  | .passed s log => reporting log (.done (.ok none) s.finished)
  | .dry s log => reporting log (onward { s with stream := some { stream with ready := [] } })

/-- Read what comes until a pull ends; some time has gone by since the last line. -/
def read (limit : Option Binary64) (stream : LiveStream) :
    LiveSource → Duration → List Arrival → Pull LiveSource
  | s, _, [] =>
    -- the body is over, whatever its last bytes are decoded to
    let s := s.release stream.index
    match stream.decoder.flush with
    | .error f => s.readFailure stream f
    | .ok text =>
      let (lines, splitter) := stream.splitter.feed text
      let stream := { stream with rest := [], ended := true, splitter }
      conclude stream (s.scan (lines ++ splitter.flush)) fun s => .done (.ok none) s.finished
  | s, time, .bytes bs :: rest =>
    match stream.decoder.feed bs with
    | .error f => s.readFailure stream f
    | .ok (text, decoder) =>
      let (lines, splitter) := stream.splitter.feed text
      let stream := { stream with rest, decoder, splitter }
      conclude stream (s.scan lines) fun s =>
        read limit stream s (if lines.isEmpty then time else .zero) rest
  | s, _, .fails f :: _ => s.readFailure stream f
  | s, _, .stalls :: _ => s.starved limit stream
  | s, _, .signals :: _ => .notice .signal (s.starved limit stream)
  | s, time, .pauses length :: rest =>
    let time := time.add length
    let stream := { stream with rest }
    let s := { s with stream := some stream }
    if limit.all time.below then .pause s (read limit stream s time rest) (s.cancelled stream)
    else .pause s s.idle (s.cancelled stream)

/-- Begin a pull. With a limit that is not positive, not even what is there is read. -/
def pull (s : LiveSource) : Pull LiveSource :=
  if !s.isOpen then .done (.error (.backend "RIS Live source is not open")) s
  else
    match s.stream, s.idleLimit with
    | none, _ => .done (.ok none) s
    | some _, .error f => .done (.error f) s
    | some stream, .ok limit =>
      if limit.any isNotPositive then s.idle
      else
        conclude stream (s.scan stream.ready) fun s =>
          if stream.ended then .done (.ok none) s.finished
          else read limit { stream with ready := [] } s .zero stream.rest

instance : Source LiveSource where
  start := start
  pull := pull
  close s := (.ok (), s.close)
  dump _ record := record.dump
  aftermath _ := []

end LiveSource
end RouteFeed
