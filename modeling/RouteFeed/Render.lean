import RouteFeed.Record
import RouteFeed.Text.Charset.Utf8
import RouteFeed.Text.Utf8

/-! The lines of records and elements. Fields are separated by bars. A record has one line of
metadata; an element has a line of its own, or a line in the layout of a dump. -/
namespace RouteFeed

def defaultElementBuffer : Int := 65536

def Record.line (r : Record) : Except Failure Points := do
  let time ← (Value.int r.time).shown
  let dumpTime ← (Value.int r.dumpTime).shown
  return Points.intercalate "|" [
    time, r.project, r.collector, r.dumpType.name, r.status.name, dumpTime,
    r.dumpPosition.name] ++ Points.ofString "|"

namespace Element

def fieldText : Value → Except Failure Points
  | .null => .ok []
  | v => v.shown

/-- The eleven fields of an element's line, which are shown in their order. The address and the
communities have to be texts. -/
def lineFields (e : Element) : Except Failure (List Points) := do
  let time ← e.time.shown
  let asn ← e.peerAsn.shown
  let network ← fieldText e.network
  let nextHop ← fieldText e.nextHop
  let path ← fieldText e.asPath
  let origin ← e.originAsn
  let origin ← fieldText origin
  let communities ← e.communities.joinWords
  let oldState ← fieldText e.oldState
  let newState ← fieldText e.newState
  Value.asTexts 0 [
    .text e.type.letter, .text time, e.peerAddress, .text asn, .text network, .text nextHop,
    .text path, .text origin, .text communities, .text oldState, .text newState]

/-- The line of an element, however long. It has to have a form in UTF-8. -/
def fullLine (e : Element) : Except Failure String :=
  e.lineFields.bind fun fields => (Points.intercalate "|" fields).encode

/-- A line that fits a buffer of a size in bytes, of which the terminator takes one. A longer line
is cut behind the last byte that fits; of a character that the cut goes through nothing is left. -/
def fitLine (size : Int) (line : String) : Except Failure String :=
  if (Text.byteCount line.toList : Int) ≤ size - 1 then .ok line
  else
    let bytes := (Text.utf8Bytes line.toList).take (size - 1).toNat
    .error (.elementTooLong (String.ofList (Text.wholeChars bytes)))

def line (size : Int) (e : Element) : Except Failure String :=
  e.fullLine.bind (fitLine size)

/-- The fields of an element in the layout of a dump, which are shown in their order. -/
def dumpFields (e : Element) (communities : Points) : Except Failure (List Points) := do
  let time ← e.time.shown
  let address ← e.peerAddress.shown
  let asn ← e.peerAsn.shown
  let route (table letter : String) : Except Failure (List Points) := do
    let network ← fieldText e.network
    let path ← fieldText e.asPath
    let origin ← fieldText e.origin
    let nextHop ← fieldText e.nextHop
    return [
      table, time, letter, address, asn, network, path, origin, nextHop, "0", "0", communities,
      "NAG", "", ""]
  match e.type with
  | .rib => route "TABLE_DUMP2" "B"
  | .announcement => route "BGP4MP" "A"
  | .withdrawal => return ["BGP4MP", time, "W", address, asn, ← fieldText e.network]
  | .peerState =>
    return ["BGP4MP", time, "STATE", address, asn, ← fieldText e.oldState, ← fieldText e.newState]

def dumpLine (e : Element) : Except Failure Points := do
  let fields ← e.dumpFields (← e.communities.joinWords)
  return Points.intercalate "|" fields

end Element

/-- Elements rendered one after another, up to the first that fails. -/
structure Rendering (α : Type) where
  lines : List α
  failure : Option Failure
  rest : List Element

namespace Rendering

variable {α : Type}

def of (render : Element → Except Failure α) : List Element → Rendering α
  | [] => ⟨[], none, []⟩
  | e :: es =>
    match render e with
    | .error f => ⟨[], some f, es⟩
    | .ok line => let r := of render es; ⟨line :: r.lines, r.failure, r.rest⟩

/-- The source of the elements fails behind them. -/
def breaking (r : Rendering α) (failure : Failure) : Rendering α :=
  { r with failure := r.failure.or (some failure) }

end Rendering

namespace Record

variable {α : Type}

/-- Render what a cursor still yields. Elements of a feed that are not reached stay in it. -/
def renderFrom (r : Record) (render : Element → Except Failure α) : Cursor → Rendering α × Record
  | .onFeed =>
    let done := Rendering.of render r.feed
    (done, { r with feed := done.rest })
  | .walking rest => (Rendering.of render (upToGap rest), r)
  | .breaking rest failure => ((Rendering.of render rest).breaking failure, r)
  | .finished => (⟨[], none, []⟩, r)

def render (r : Record) (render : Element → Except Failure α) : Rendering α × Record :=
  match r.openCursor with
  | (.error f, r) => (⟨[], some f, []⟩, r)
  | (.ok c, r) => r.renderFrom render c

def dump (r : Record) : Except Failure (List Points) × Record :=
  let (done, r) := r.render Element.dumpLine
  match done.failure with
  | some f => (.error f, r)
  | none => (.ok done.lines, r)

end Record
end RouteFeed
