import RouteFeed.Text.Charset.Bytewise
import RouteFeed.Text.Charset.Scheme
import RouteFeed.Text.Charset.Utf8

/-! Decoders of a text that arrives in pieces of bytes. Bytes that are no character become U+FFFD;
bytes that may begin one wait for the next piece. -/
namespace RouteFeed.Text

inductive Decoder where
  | utf8 (state : Utf8Decoder)
  /-- UTF-8 at its start, where a mark is dropped; the bytes so far may begin one. -/
  | utf8Start (pending : List Nat)
  | bytewise (table : Bytewise)
  | buffered (scheme : Scheme) (pending : List Nat)
  /-- What calls itself a character set but decodes nothing. -/
  | unfit (failure : Failure)
  deriving DecidableEq

namespace Decoder

def utf8Mark : List Nat := [0xef, 0xbb, 0xbf]

/-- Read characters as long as the bytes are enough: the characters, the scheme behind them and the
bytes that are left. Every reading but the last takes a byte at least. -/
def drain : (most : Nat) → Scheme → List Nat → Except Failure (List Char × Scheme × List Nat)
  | 0, s, bytes => .ok ([], s, bytes)
  | most + 1, s, bytes =>
    match s.read bytes with
    | (.unfinished, _) => .ok ([], s, bytes)
    | (.chars cs size, s) =>
      (drain most s (bytes.drop size)).map fun (text, rest) => (cs ++ text, rest)
    | (.stray size, s) =>
      (drain most s (bytes.drop size)).map fun (text, rest) => (replacement :: text, rest)
    | (.refused f, _) => .error f

/-- Take a piece of bytes: the characters that it completes, and the decoder behind it. -/
def feed (d : Decoder) (bytes : List Nat) : Except Failure (List Char × Decoder) :=
  match d with
  | utf8 state =>
    let (text, state) := state.feed bytes
    .ok (text, .utf8 state)
  | utf8Start pending =>
    let bytes := pending ++ bytes
    if bytes.length < 3 && bytes.isPrefixOf utf8Mark then .ok ([], .utf8Start bytes)
    else
      let (text, state) :=
        Utf8Decoder.feed {} (if utf8Mark.isPrefixOf bytes then bytes.drop 3 else bytes)
      .ok (text, .utf8 state)
  | bytewise table => .ok (bytes.map table.char, .bytewise table)
  | buffered scheme pending => do
    let bytes := pending ++ bytes
    let (text, scheme, pending) ← drain bytes.length scheme bytes
    if scheme.maxPending.any (· < pending.length) then
      .error ⟨.undecodable, "pending buffer overflow"⟩
    else .ok (text, .buffered scheme pending)
  | unfit f => if bytes.isEmpty then .ok ([], .unfit f) else .error f

def flush : Decoder → Except Failure (List Char)
  | utf8 state => .ok state.flush
  | utf8Start _ | bytewise _ => .ok []
  | buffered scheme pending => scheme.finish pending
  | unfit f => .error f

end Decoder
end RouteFeed.Text
