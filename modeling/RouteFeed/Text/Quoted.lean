import RouteFeed.Text.Digit
import RouteFeed.Text.Printable

/-! Quoted texts, as they stand in messages: in single quotes, or in double quotes if only that
saves an escape, with a backslash before what cannot stand by itself. -/
namespace RouteFeed.Text.Quoted

/-- Double quotes are taken for a text with a single quote and no double one. -/
def mark (cs : List Char) : Char :=
  if cs.contains '\'' && !cs.contains '"' then '"' else '\''

/-- The escape of a number: a backslash, a letter for the size, and hexadecimal digits. -/
def escapeNumber (n : Nat) : List Char :=
  if n < 0x100 then '\\' :: 'x' :: hexDigits 2 n
  else if n < 0x10000 then '\\' :: 'u' :: hexDigits 4 n
  else '\\' :: 'U' :: hexDigits 8 n

def escape (mark c : Char) : List Char :=
  if c == mark || c == '\\' then ['\\', c]
  else if c == '\t' then ['\\', 't']
  else if c == '\n' then ['\\', 'n']
  else if c == '\r' then ['\\', 'r']
  else if isPrintable c then [c]
  else escapeNumber c.toNat

def encode (cs : List Char) : List Char :=
  let q := mark cs
  q :: cs.flatMap (escape q) ++ [q]

/-- A text that is given by the numbers of its characters, with its quotes. A number that belongs to
no character is escaped. -/
def encodeNumbers (ns : List Nat) : List Char :=
  let q := mark (ns.map Char.ofNat)
  let shown (n : Nat) : List Char :=
    if n.isValidChar then escape q (Char.ofNat n) else escapeNumber n
  q :: ns.flatMap shown ++ [q]

end Quoted

def quoted (s : String) : String := String.ofList (Quoted.encode s.toList)

def quotedNumbers (ns : List Nat) : String := String.ofList (Quoted.encodeNumbers ns)

end RouteFeed.Text
