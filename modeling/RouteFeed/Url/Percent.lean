import RouteFeed.Text.Charset.Utf8
import RouteFeed.Text.Digit

/-! Percent encoding: characters outside a safe set become the escapes of their bytes. -/
namespace RouteFeed.Url

def utf8Bytes (c : Char) : List Nat := (String.utf8EncodeChar c).map UInt8.toNat

def upperHexDigit (n : Nat) : Char := (Text.hexDigit n).toUpper

def escapeByte (b : Nat) : List Char := ['%', upperHexDigit (b / 16), upperHexDigit b]

def escapeChar (c : Char) : List Char := (utf8Bytes c).flatMap escapeByte

def isHexDigit (c : Char) : Bool := (Text.hexValue? c).isSome

def isUnreserved (c : Char) : Bool :=
  ('a' ≤ c && c ≤ 'z') || ('A' ≤ c && c ≤ 'Z') || ('0' ≤ c && c ≤ '9') ||
    c == '-' || c == '.' || c == '_' || c == '~'

def quote (safe : Char → Bool) : List Char → List Char
  | [] => []
  | '%' :: a :: b :: cs =>
    if isHexDigit a && isHexDigit b then '%' :: a :: b :: quote safe cs
    else (if safe '%' then ['%'] else escapeByte 0x25) ++ quote safe (a :: b :: cs)
  | c :: cs => (if isUnreserved c || safe c then [c] else escapeChar c) ++ quote safe cs

def unquotedBytes : List Char → List Nat
  | [] => []
  | '%' :: a :: b :: cs =>
    match Text.hexValue? a, Text.hexValue? b with
    | some x, some y => (16 * x + y) :: unquotedBytes cs
    | _, _ => 0x25 :: unquotedBytes (a :: b :: cs)
  | c :: cs => c.toNat :: unquotedBytes cs

def unquote (cs : List Char) : List Char := Text.ofUtf8 (unquotedBytes cs)

def printableExcept (unsafeChars : List Char) (c : Char) : Bool :=
  0x20 ≤ c.toNat && c.toNat < 0x7f && !unsafeChars.contains c

def fragmentSafe : Char → Bool := printableExcept [' ', '"', '<', '>', '\x60']
def querySafe : Char → Bool := printableExcept [' ', '"', '#', '<', '>']
def pathSafe : Char → Bool :=
  printableExcept [' ', '"', '#', '<', '>', '?', '\x60', '\x7b', '\x7d']
def userSafe : Char → Bool :=
  printableExcept [
    ' ', '"', '#', '<', '>', '?', '\x60', '\x7b', '\x7d', '/', ';', '=', '@', '[', '\\', ']', '^',
    '|']
def hostSafe (c : Char) : Bool :=
  ['!', '$', '&', '\'', '(', ')', '*', '+', ',', ';', '=', '"', '\x60', '\x7b', '\x7d', '%', '|',
    '\\'].contains c

def formPart (s : String) : List Char :=
  s.toList.flatMap fun c =>
    if c == ' ' then ['+'] else if isUnreserved c then [c] else escapeChar c

def formText (fields : List (String × String)) : List Char :=
  List.intercalate ['&'] (fields.map fun (name, value) => formPart name ++ '=' :: formPart value)

end RouteFeed.Url
