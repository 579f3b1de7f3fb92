import RouteFeed.Text.Charset.Escapes
import RouteFeed.Text.Charset.Iso2022
import RouteFeed.Text.Charset.Utf7

/-! Character sets whose characters have several bytes, with the state of their reading. -/
namespace RouteFeed.Text

/-- Character sets in which a character can be read without regard to what went before. -/
inductive Multibyte where
  | eucKr
  | unifiedKorean
  | johab
  | gb2312
  | gbk
  | gb18030
  | big5
  | cp950
  | big5Hkscs
  | shiftJis
  | cp932
  | eucJp
  | eucJis (edition : Edition)
  | shiftedJis (edition : Edition)
  deriving DecidableEq

def Multibyte.read : Multibyte → List Nat → Reading
  | eucKr => readEucKr
  | unifiedKorean => readUnifiedKorean
  | johab => readJohab
  | gb2312 => readGb2312
  | gbk => readGbk
  | gb18030 => readGb18030
  | big5 => readBig5
  | cp950 => readCp950
  | big5Hkscs => readBig5Hkscs
  | shiftJis => readShiftJis
  | cp932 => readCp932
  | eucJp => readEucJp
  | eucJis edition => edition.readEuc
  | shiftedJis edition => edition.readShifted

/-- How the head of a text is read, with what has been settled before. -/
inductive Scheme where
  | multibyte (set : Multibyte)
  | hz (inPairs : Bool)
  | switching (set : Switching) (state : Switch)
  | utf7
  | utf16 (bigEndian : Bool)
  /-- UTF-16 at its start, where a mark of the byte order has to stand. -/
  | utf16Start
  | utf32 (bigEndian : Bool)
  /-- UTF-32 at its start, where a mark of the byte order has to stand. -/
  | utf32Start
  | escaped (isRaw : Bool)
  deriving DecidableEq

namespace Scheme

/-- The failure of a text without the mark that it has to start with. -/
def unmarked (name : String) : Failure :=
  ⟨.undecodable, s!"{name} stream does not start with BOM"⟩

/-- Read what is no mark of the byte order: as soon as something has been read, the text fails. -/
def refuseUnmarked (name : String) : Reading → Reading
  | .unfinished => .unfinished
  | _ => .refused (unmarked name)

def read : Scheme → List Nat → Reading × Scheme
  | multibyte set, bytes => (set.read bytes, .multibyte set)
  | hz inPairs, bytes =>
    let (reading, inPairs) := readHz inPairs bytes
    (reading, .hz inPairs)
  | switching set state, bytes =>
    let (reading, state) := set.read state bytes
    (reading, .switching set state)
  | utf7, bytes => (readUtf7 bytes, .utf7)
  | utf16 bigEndian, bytes => (readUtf16 bigEndian bytes, .utf16 bigEndian)
  | utf16Start, bytes =>
    match markedOrder? 2 (bytes.take 2) with
    | some bigEndian => (.chars [] 2, .utf16 bigEndian)
    | none => (refuseUnmarked "UTF-16" (readUtf16 false bytes), .utf16Start)
  | utf32 bigEndian, bytes => (readUtf32 bigEndian bytes, .utf32 bigEndian)
  | utf32Start, bytes =>
    match markedOrder? 4 (bytes.take 4) with
    | some bigEndian => (.chars [] 4, .utf32 bigEndian)
    | none => (refuseUnmarked "UTF-32" (readUtf32 false bytes), .utf32Start)
  | escaped isRaw, bytes => (readEscaped isRaw bytes, .escaped isRaw)

/-- The most bytes that can wait for more to come, if there is a limit. -/
def maxPending : Scheme → Option Nat
  | multibyte _ | hz _ | switching _ _ => some 8
  | utf7 | utf16 _ | utf16Start | utf32 _ | utf32Start | escaped _ => none

/-- What bytes that still wait at the end of the text come to. -/
def finish (s : Scheme) (pending : List Nat) : Except Failure (List Char) :=
  match s, pending with
  | _, [] => .ok []
  | utf7, bytes => .ok (finishUtf7 bytes)
  | utf16Start, _ :: _ :: _ => .error (unmarked "UTF-16")
  | escaped true, [0x5c] => .ok ['\\']
  | _, _ => .ok [replacement]

end Scheme
end RouteFeed.Text
