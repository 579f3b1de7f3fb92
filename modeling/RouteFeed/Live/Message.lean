import RouteFeed.Log
import RouteFeed.Record

/-! Messages of a live feed. A line holds one message as a JSON object; a message about routes or
a peer becomes a record with its elements. -/
namespace RouteFeed.Live

def project : String := "ris-live"

/-- The ending of host names that collectors are known without. -/
def hostSuffix : Points := ".ripe.net"

def collectorName (host : Points) : Points :=
  let kept := host.length - hostSuffix.length
  if host.drop kept == hostSuffix then host.take kept else host

/-- One hop of a path: a number, or a set of numbers in braces. -/
def hopText : Value → Points
  | .list asns =>
    Points.ofString "\x7b" ++ Points.intercalate "," (asns.map Value.plain) ++
      Points.ofString "\x7d"
  | v => v.plain

def pathText (hops : List Value) : Points := Points.intercalate " " (hops.map hopText)

def communityText (v : Value) : Except Failure Value :=
  v.toPair.map fun (asn, value) => .text (asn.plain ++ Points.ofString ":" ++ value.plain)

/-- What the elements of a message have in common. -/
structure Peer where
  time : Int
  address : Value
  asn : Int

def Peer.element (p : Peer) (type : ElementType) : Element :=
  { type, time := .int p.time, peerAddress := p.address, peerAsn := .int p.asn }

/-- What the announcements of a message have in common. -/
structure Route where
  path : Value
  communities : Value
  origin : Value

def announced (p : Peer) (route : Route) (announcement : Value) :
    Except Failure (List Element) := do
  let networks ← (← announcement.get "prefixes" (.list [])).parts
  let nextHop ← announcement.get "next_hop" .null
  return networks.map fun network =>
    { p.element .announcement with
      network, nextHop, asPath := route.path, communities := route.communities
      origin := route.origin }

def allAnnounced (p : Peer) (route : Route) : List Value → Except Failure (List Element)
  | [] => .ok []
  | a :: as => do
    let first ← announced p route a
    let others ← allAnnounced p route as
    return first ++ others

def withdrawn (p : Peer) (networks : List Value) : List Element :=
  networks.map fun network => { p.element .withdrawal with network }

def updateElements (p : Peer) (data : Value) : Except Failure (List Element) := do
  let hops ← (← data.get "path" (.list [])).parts
  let communities ← (← (← data.get "community" (.list [])).parts).mapM communityText
  let route : Route := {
    path := .text (pathText hops), communities := .list communities
    origin := ← data.get "origin" .null }
  let announcements ← (← data.get "announcements" (.list [])).parts
  let first ← allAnnounced p route announcements
  let networks ← (← data.get "withdrawals" (.list [])).parts
  return first ++ withdrawn p networks

def elements (p : Peer) (data : Value) : Except Failure (List Element) := do
  match (← data.get "type" .null).string? with
  | some "UPDATE" => updateElements p data
  | some "RIS_PEER_STATE" =>
    return [{ p.element .peerState with newState := ← data.get "state" .null }]
  | _ => return []

def content (data : Value) : Except Failure (Peer × List Element) := do
  let time ← (← data.get "timestamp" (.int 0)).toInteger
  let address ← data.get "peer" (.text [])
  let asn ← (← data.get "peer_asn" (.int 0)).toInteger
  let p : Peer := ⟨time, address, asn⟩
  return (p, ← elements p data)

def collectorOf (data : Value) : Except Failure Points := do
  match ← data.get "host" (.text []) with
  | .text host => return collectorName host
  | v => throw (.lacksOperation v "removesuffix")

def makeRecord (time : Int) (collector : Points) (status : RecordStatus) (payload : Payload) :
    Record where
  time
  project := project
  collector
  dumpType := .update
  dumpPosition := .middle
  status
  dumpTime := time
  payload

/-- The conversion of a message fails with the time of the message, once that is known. -/
def convert (data : Value) : Except (Failure × Option Int) Record :=
  match content data with
  | .error f => .error (f, none)
  | .ok (p, es) =>
    match collectorOf data with
    | .error f => .error (f, some p.time)
    | .ok collector => .ok (makeRecord p.time collector .valid (.stored es))

inductive Reading where
  /-- Not a message about routes or peers. -/
  | nothing
  | record (r : Record)
  /-- A line that cannot be read as a message, with the entry that reports it, and with a new time
  for such lines if it got as far. -/
  | broken (entry : LogEntry) (time : Option Int)
  | fails (failure : Failure) (time : Option Int)

/-- Failures of a conversion that only break the line. -/
def breaksLine (f : Failure) : Bool :=
  match f.kind with
  | .badValue | .wrongShape | .noOperation => true
  | _ => false

def feedFailure (message : Value) : Failure :=
  let said := do
    let data ← message.get "data" (.object [])
    data.get "message" message
  match said with
  | .ok v => .backend s!"RIS Live error: {v.plain.escaped}"
  | .error f => f

def readMessage (message : Value) : Reading :=
  match message with
  | .object fields =>
    match (Named.get? fields ↑"type").bind Value.string? with
    | some "ris_error" => .fails (feedFailure message) none
    | some "ris_message" =>
      match convert ((Named.get? fields ↑"data").getD (.object [])) with
      | .ok r => .record r
      | .error (f, time) =>
        if breaksLine f then
          .broken (.warning "Malformed RIS Live message" [("error", .text f.message)]) time
        else .fails f time
    | _ => .nothing
  | _ => .nothing

def readLine (line : List Char) : Reading :=
  match Value.parse line with
  | .error .malformed =>
    .broken (.warning "Undecodable RIS Live message" [("size", .int line.length)]) none
  | .error fault => .fails (.ofParse fault) none
  | .ok message => readMessage message

end RouteFeed.Live
