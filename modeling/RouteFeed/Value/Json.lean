import RouteFeed.Text.Digit
import RouteFeed.Value.Printer

/-! Values as JSON text, in ASCII. -/
namespace RouteFeed.Value

open Number Text

def unitEscape (n : Nat) : List Char := '\\' :: 'u' :: hexDigits 4 n

def jsonChar (c : Char) : List Char :=
  if c == '"' then ['\\', '"']
  else if c == '\\' then ['\\', '\\']
  else if c == '\n' then ['\\', 'n']
  else if c == '\r' then ['\\', 'r']
  else if c == '\t' then ['\\', 't']
  else if c == '\x08' then ['\\', 'b']
  else if c == '\x0c' then ['\\', 'f']
  else if 0x20 ≤ c.toNat ∧ c.toNat < 0x7f then [c]
  else if c.toNat < 0x10000 then unitEscape c.toNat
  else
    let n := c.toNat - 0x10000
    unitEscape (0xd800 + n / 0x400) ++ unitEscape (0xdc00 + n % 0x400)

def jsonPoint : CodePoint → List Char
  | .char c => jsonChar c
  | .half place => unitEscape (0xd800 + place)

def jsonString (s : Points) : String := String.ofList ('"' :: s.flatMap jsonPoint ++ ['"'])

/-- A JSON number; what is no finite number gets a word. -/
def jsonReal : Binary64 → String
  | .nan => "NaN"
  | .infinite negative => if negative then "-Infinity" else "Infinity"
  | x => realText x

mutual

def json : Value → String
  | null => "null"
  | bool b => if b then "true" else "false"
  | int n => decimal n
  | real x => jsonReal x
  | text s => jsonString s
  | list items | row items => "[" ++ String.intercalate ", " (jsonItems items) ++ "]"
  | object fields => "\x7b" ++ String.intercalate ", " (jsonFields fields) ++ "\x7d"

def jsonItems : List Value → List String
  | [] => []
  | v :: vs => json v :: jsonItems vs

def jsonFields : Fields → List String
  | [] => []
  | (key, v) :: fields => (jsonString key ++ ": " ++ json v) :: jsonFields fields

end

end RouteFeed.Value
