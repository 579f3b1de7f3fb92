import RouteFeed.Compression.Unpacker
import RouteFeed.Live.Server
import RouteFeed.Text.Blank
import RouteFeed.Text.Cut

/-! Codings of a body, which a header of the reply names in the order in which they were applied. -/
namespace RouteFeed.Live

open Compression

/-- Undoes a coding, piece by piece. -/
inductive ContentDecoder where
  | gzip (unpacker : Unpacker)
  /-- What is no stream from its first piece on is taken for bare blocks. -/
  | deflate (isFirst : Bool) (unpacker : Unpacker)

namespace ContentDecoder

/-- The decoder for a coding; those that are not known are left alone. -/
def ofName? (name : String) : Option ContentDecoder :=
  match name with
  | "gzip" => some (.gzip { format := .gzip })
  | "deflate" => some (.deflate true { format := .zlib })
  | _ => none

/-- Take a piece: what it stands for, or the report of a broken body. -/
def feed (d : ContentDecoder) (piece : List Nat) : Except String (List Nat × ContentDecoder) :=
  match d with
  | gzip u => (u.feed piece).map fun (bytes, u) => (bytes, .gzip u)
  | deflate isFirst u =>
    let fed :=
      match u.feed piece with
      | .error report =>
        if isFirst then Unpacker.feed { format := .raw } piece else .error report
      | .ok fed => .ok fed
    fed.map fun (bytes, u) => (bytes, .deflate false u)

/-- Take a piece through several decoders, one behind the other. -/
def feedAll : List ContentDecoder → List Nat → Except String (List Nat × List ContentDecoder)
  | [], piece => .ok (piece, [])
  | d :: ds, piece => do
    let (piece, d) ← d.feed piece
    let (piece, ds) ← feedAll ds piece
    return (piece, d :: ds)

/-- Undo the codings of a body. Its pieces stay apart; it ends where it is broken. -/
def decodeBody : List ContentDecoder → List Arrival → List Arrival
  | _, [] => []
  | ds, .bytes [] :: body => decodeBody ds body
  | ds, .bytes piece :: body =>
    match feedAll ds piece with
    | .ok (piece, ds) => .bytes piece :: decodeBody ds body
    | .error report => [.fails ⟨.transport .decoding, report⟩]
  | ds, arrival :: body => arrival :: decodeBody ds body

end ContentDecoder

/-- The parts of a header between commas, in lower case. -/
def headerParts (header : String) : List String :=
  (Text.splitAll ',' header.toList).map fun part => (String.ofList (Text.trim part)).toLower

/-- The decoders for the codings of a reply: what was applied last is undone first. -/
def Reply.decoders (r : Reply) : List ContentDecoder :=
  let names := headerParts ((r.header? "content-encoding").getD "")
  (names.filterMap ContentDecoder.ofName?).reverse

/-- The body of a reply without its codings. -/
def Reply.plainBody (r : Reply) : List Arrival := ContentDecoder.decodeBody r.decoders r.body

end RouteFeed.Live
