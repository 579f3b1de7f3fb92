import RouteFeed.Element

/-! Records, and cursors over their elements.

A record yields its elements only while it is valid and holds its payload. Every cursor walks the
payload by itself, unless the payload is a feed: a feed hands out each element once, to whichever
cursor asks first. -/
namespace RouteFeed

inductive DumpType where
  | update
  | rib
  deriving DecidableEq

namespace DumpType

def name : DumpType → String
  | update => "update"
  | rib => "rib"

def all : List DumpType := [update, rib]

def ofValue (v : Value) : Except Failure DumpType :=
  v.choose (all.map fun t => (t.name, t)) "DumpType"

end DumpType

inductive DumpPosition where
  | start
  | middle
  | finish
  deriving DecidableEq

namespace DumpPosition

def name : DumpPosition → String
  | start => "start"
  | middle => "middle"
  | finish => "end"

def all : List DumpPosition := [start, middle, finish]

def ofValue (v : Value) : Except Failure DumpPosition :=
  v.choose (all.map fun p => (p.name, p)) "DumpPosition"

end DumpPosition

/-- How the reading of a record ended. Only a valid record has elements. -/
inductive RecordStatus where
  | valid
  | filteredSource
  | emptySource
  | corruptedSource
  | corruptedRecord
  deriving DecidableEq

namespace RecordStatus

def name : RecordStatus → String
  | valid => "valid_record"
  | filteredSource => "filtered_source"
  | emptySource => "empty_source"
  | corruptedSource => "corrupted_source"
  | corruptedRecord => "corrupted_record"

def all : List RecordStatus := [
  valid, filteredSource, emptySource, corruptedSource, corruptedRecord]

def ofValue (v : Value) : Except Failure RecordStatus :=
  v.choose (all.map fun s => (s.name, s)) "RecordStatus"

end RecordStatus

/-- An element as an archive hands it out, before it is converted. -/
structure RawElement where
  type : Value
  time : Value
  peerAddress : Value
  peerAsn : Value
  fields : List (String × Value)

/-- What an archive gives when it is asked for the next element of a record. -/
inductive RawEntry where
  | element (raw : RawElement)
  | fails (failure : Failure)

/-- What a record's elements come from. -/
inductive Payload where
  | none
  | stored (elements : List Element)
  | breaking (elements : List Element) (failure : Failure)
  | feed
  /-- Entries of an archive that are converted when the first cursor is opened. -/
  | pending (entries : List RawEntry)

structure Record where
  time : Int
  project : Points
  collector : Points
  dumpType : DumpType
  dumpPosition : DumpPosition
  status : RecordStatus
  dumpTime : Int
  payload : Payload := .none
  /-- Elements of a feed that have not been handed out. It outlives the payload, because cursors
  opened before still read it. -/
  feed : List Element := []

/-- A single-pass cursor over elements. -/
inductive Cursor where
  | finished
  | walking (rest : List (Option Element))
  | breaking (rest : List Element) (failure : Failure)
  | onFeed

/-- The next element of a cursor without a feed, and the cursor behind it. -/
def Cursor.step : Cursor → Except Failure (Option Element) × Cursor
  | walking (some e :: rest) => (.ok (some e), walking rest)
  | breaking (e :: rest) failure => (.ok (some e), breaking rest failure)
  | breaking [] failure => (.error failure, finished)
  | _ => (.ok none, finished)

def upToGap : List (Option Element) → List Element
  | some e :: rest => e :: upToGap rest
  | _ => []

namespace RawElement

def shownUnder (fields : Fields) (key : String) : Except Failure Points :=
  match Named.get? fields ↑key with
  | some v => v.shown
  | none => .error ⟨.noKey, Text.quoted key⟩

/-- One community of an archive: an object names its two numbers. -/
def communityText : Value → Except Failure Value
  | .object fields => do
    let asn ← shownUnder fields "asn"
    let value ← shownUnder fields "value"
    return .text (asn ++ Points.ofString ":" ++ value)
  | v => v.shown.map .text

def communityTexts (v : Value) : Except Failure Value := do
  if !v.isPresent then return .list []
  let items ← v.parts
  let texts ← items.mapM communityText
  return .list texts

def convert (raw : RawElement) : Except Failure Element := do
  let field (name : String) : Value := (Named.get? raw.fields name).getD .null
  let type ← ElementType.ofValue raw.type
  let time ← raw.time.toInteger
  let asn ← raw.peerAsn.toInteger
  let communities ← communityTexts (field "communities")
  return {
    type, time := .int time, peerAddress := raw.peerAddress, peerAsn := .int asn,
    network := field "prefix", nextHop := field "next-hop", asPath := field "as-path",
    communities, oldState := field "old-state", newState := field "new-state",
    origin := field "origin" }

end RawElement

/-- Convert the entries of an archive in order. At the first failure the entries behind it are
left over. -/
def RawEntry.convertAll : List RawEntry → Except (Failure × List RawEntry) (List Element)
  | [] => .ok []
  | .fails failure :: rest => .error (failure, rest)
  | .element raw :: rest =>
    match raw.convert with
    | .error failure => .error (failure, rest)
    | .ok e => (convertAll rest).map (e :: ·)

namespace Record

def isValid (r : Record) : Bool := r.status == .valid

/-- Open a cursor. The entries of an archive are converted by the first cursor that succeeds, and
kept; a cursor that fails uses up the entries it has read. -/
def openCursor (r : Record) : Except Failure Cursor × Record :=
  if !r.isValid then (.ok (.walking []), r)
  else
    match r.payload with
    | .none => (.ok (.walking []), r)
    | .stored elements => (.ok (.walking (elements.map some)), r)
    | .breaking elements failure => (.ok (.breaking elements failure), r)
    | .feed => (.ok .onFeed, r)
    | .pending entries =>
      match RawEntry.convertAll entries with
      | .ok elements => (.ok (.walking (elements.map some)), { r with payload := .stored elements })
      | .error (failure, rest) => (.error failure, { r with payload := .pending rest })

def next (r : Record) (c : Cursor) : Except Failure (Option Element) × Cursor × Record :=
  match c with
  | .onFeed =>
    match r.feed with
    | e :: rest => (.ok (some e), .onFeed, { r with feed := rest })
    | [] => (.ok none, .finished, r)
  | c => let (e, c) := c.step; (e, c, r)

/-- All the elements that a cursor still yields; the cursor is at its end afterwards. -/
def drain (r : Record) : Cursor → Except Failure (List Element) × Record
  | .onFeed => (.ok r.feed, { r with feed := [] })
  | .walking rest => (.ok (upToGap rest), r)
  | .breaking _ failure => (.error failure, r)
  | .finished => (.ok [], r)

def elements (r : Record) : Except Failure (List Element) × Record :=
  match r.openCursor with
  | (.error f, r) => (.error f, r)
  | (.ok c, r) => r.drain c

def release (r : Record) : Record := { r with payload := .none }

end Record
end RouteFeed
