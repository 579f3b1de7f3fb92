import RouteFeed.Live.Server
import RouteFeed.Text.Ascii
import RouteFeed.Text.Blank
import RouteFeed.Text.Charset.Name
import RouteFeed.Text.Quoted
import RouteFeed.Url.Percent

/-! The content type of a reply: a type, and parameters between semicolons. The long value of a
parameter may come in numbered segments, and segments may be escaped. -/
namespace RouteFeed.Live

open Text

structure Parameter where
  name : List Char
  value : List Char
  deriving DecidableEq

namespace Parameter

/-- Cut a text at the semicolons outside quotes. A quote behind a backslash is none. -/
def cutPieces (isQuoted isGuarded : Bool) : List Char → List (List Char)
  | [] => [[]]
  | c :: cs =>
    if c == ';' && !isQuoted then [] :: cutPieces false false cs
    else
      let isQuoted := if c == '"' && !isGuarded then !isQuoted else isQuoted
      match cutPieces isQuoted (c == '\\') cs with
      | [] => [[c]]
      | piece :: pieces => (c :: piece) :: pieces

def mergePairs (first second result : Char) : List Char → List Char
  | c :: d :: cs =>
    if c == first && d == second then result :: mergePairs first second result cs
    else c :: mergePairs first second result (d :: cs)
  | cs => cs

/-- A value without its quotes, or without its angle brackets. -/
def unquote (value : List Char) : List Char :=
  let inner := value.drop 1 |>.dropLast
  if value.length ≤ 1 then value
  else if value.head? = some '"' && value.getLast? = some '"' then
    mergePairs '\\' '"' '"' (mergePairs '\\' '\\' '\\' inner)
  else if value.head? = some '<' && value.getLast? = some '>' then inner
  else value

/-- The parameter in a piece; without a sign of equality its value is empty. -/
def ofPiece (piece : List Char) : Parameter :=
  match cutFirst? '=' piece with
  | some (name, value) =>
    { name := (trim name).map Char.toLower, value := unquote (trim value) }
  | none => { name := trim piece, value := [] }

structure Segment where
  number : Option Nat
  value : List Char
  isEscaped : Bool
  deriving DecidableEq

def isWordChar (c : Char) : Bool := c.isAlphanum || c == '_'

/-- The name that a parameter continues, with the segment it gives: an asterisk leads to the number
of the segment, and one at the end marks escapes. -/
def segment? (p : Parameter) : Option (List Char × Segment) := do
  let (name, mark) ← cutFirst? '*' p.name
  let digits := mark.takeWhile isAsciiDigit
  let rest := mark.dropWhile isAsciiDigit
  if name.isEmpty || !name.all isWordChar then none
  else if mark.isEmpty then some (name, ⟨none, p.value, true⟩)
  else if digits.isEmpty || !(rest.isEmpty || rest = ['*']) then none
  else
    let number := digits.foldl (fun n c => n * 10 + (c.toNat - 0x30)) 0
    some (name, ⟨some number, p.value, !rest.isEmpty⟩)

/-- Segments go by their numbers, then by their values, escaped ones last. -/
def Segment.le (a b : Segment) : Bool :=
  if a.number ≠ b.number then a.number.getD 0 < b.number.getD 0
  else if a.value ≠ b.value then String.ofList a.value < String.ofList b.value
  else !a.isEscaped || b.isEscaped

/-- Segments with a number and without one have no order: the first that differs from the others
fails. -/
def checkNumbers (segments : List Segment) : Except Failure Unit :=
  let numbered := segments.map (·.number.isSome)
  match numbered with
  | [] => .ok ()
  | first :: others =>
    if others.all (· == first) then .ok ()
    else
      let (new, old) := if first then ("NoneType", "int") else ("int", "NoneType")
      .error (.wrongShape s!"'<' not supported between instances of '{new}' and '{old}'")

/-- The value of a parameter that came in segments. If some of them are escaped, the value may name
its character set and its language first, each with a single quote behind it. -/
inductive Joined where
  | plain (value : List Char)
  | escaped (charset : Option (List Char)) (value : List Char)

def join (segments : List Segment) : Joined :=
  let segments := segments.mergeSort Segment.le
  let value := segments.flatMap fun s =>
    if s.isEscaped then (Url.unquotedBytes s.value).map Char.ofNat else s.value
  if segments.any Segment.isEscaped then
    match cutFirst? '\'' value with
    | some (charset, rest) =>
      match cutFirst? '\'' rest with
      | some (_, value) => .escaped (some charset) value
      | none => .escaped none value
    | none => .escaped none value
  else .plain value

def valueBytes (value : List Char) : List Nat :=
  value.flatMap fun c =>
    if c.toNat < 0x100 then [c.toNat] else (Quoted.escapeNumber c.toNat).map Char.toNat

/-- The decoder for a text that is there as a whole. A missing mark of the byte order does no
harm. -/
def decoderOfWhole (charset : Charset) (bytes : List Nat) : Decoder :=
  let isUnmarked (size : Nat) : Bool := (markedOrder? size (bytes.take size)).isNone
  match charset with
  | .scheme .utf16Start => .buffered (if isUnmarked 2 then .utf16 false else .utf16Start) []
  | .scheme .utf32Start => .buffered (if isUnmarked 4 then .utf32 false else .utf32Start) []
  | charset => charset.decoder

def decode? (charset : Charset) (bytes : List Nat) : Option (List Char) :=
  let text := do
    let (text, decoder) ← (decoderOfWhole charset bytes).feed bytes
    return text ++ (← decoder.flush)
  text.toOption.filter fun text => !text.contains replacement

/-- The character set with a name. A name cannot hold a null. -/
def findCharset? (name : List Char) : Except Failure (Option Charset) :=
  if name.contains '\x00' then .error (.badValue "embedded null character")
  else .ok (Charset.ofName? (String.ofList name))

/-- The text of a value. What is escaped is in ASCII unless it says otherwise; in a set that is not
known, or that does not fit, it stays as it is. -/
def Joined.text : Joined → Except Failure (List Char)
  | plain value => .ok value
  | escaped charset value => do
    let name := match charset with
      | none | some [] => "ascii".toList
      | some name => name
    let charset ← findCharset? name
    return (charset.bind fun charset => decode? charset (valueBytes value)).getD value

def isNamed (name : String) (given : List Char) : Bool := given.map Char.toLower == name.toList

/-- The value of a parameter in a content type. Values in one piece come before those in segments,
and the type itself, which stands first, is never a segment. -/
def value? (name : String) (contentType : List Char) : Except Failure (Option (List Char)) := do
  match (cutPieces false false contentType).map ofPiece with
  | [] => return none
  | type :: parameters =>
    let segments := parameters.filterMap segment?
    let names := (segments.map Prod.fst).eraseDups
    let group (name : List Char) : List Segment :=
      segments.filterMap fun (other, segment) => if other = name then some segment else none
    let () ← names.forM fun name => checkNumbers (group name)
    let whole := type :: parameters.filter fun p => (segment? p).isNone
    match whole.find? fun p => isNamed name p.name, names.find? (isNamed name) with
    | some p, _ => return some p.value
    | none, some name => return some (← (join (group name)).text)
    | none, none => return none

end Parameter

def namedCharset? (contentType : List Char) : Except Failure (Option Charset) := do
  match ← Parameter.value? "charset" contentType with
  | some name => if name.all isAscii then Parameter.findCharset? name else return none
  | none => return none

/-- The decoder of a body: that of the character set which the content type names, else that of
UTF-8. -/
def Reply.decoder (r : Reply) : Except Failure Decoder := do
  let charset ←
    match r.header? "content-type" with
    | some contentType => namedCharset? contentType.toList
    | none => pure none
  match charset.getD .utf8 with
  | .missing f => throw f
  | charset => return charset.decoder

end RouteFeed.Live
