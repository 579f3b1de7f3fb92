import RouteFeed.Failure
import RouteFeed.Text.Mark
import RouteFeed.Text.Quoted
import RouteFeed.Url.Label.Character
import RouteFeed.Url.Label.Context
import RouteFeed.Url.Label.Direction
import RouteFeed.Url.Punycode

/-! Labels of host names. A label with characters outside ASCII has a form in ASCII, which begins
with a mark. Labels and their characters are checked in both directions. -/
namespace RouteFeed.Url

abbrev Label := List Nat

namespace Label

def fault (message : String) : Failure := ⟨.hostName, message⟩

/-- The number of a character as it is shown: at least four digits. -/
def shownNumber (n : Nat) : String :=
  let digits := (Nat.toDigits 16 n).map Char.toUpper
  "U+" ++ String.ofList (List.replicate (4 - digits.length) '0' ++ digits)

def badCharacter (label : Label) (n place : Nat) : Failure :=
  ⟨.hostCharacter, s!"Codepoint {shownNumber n} at position {Text.decimal place} of " ++
    s!"{Text.quotedNumbers label} not allowed"⟩

/-- A character that may not stand where it does. -/
def badContext (label : Label) (n place : Nat) : Failure :=
  ⟨.hostContext, s!"Codepoint {shownNumber n} not allowed at position {Text.decimal place} in " ++
    Text.quotedNumbers label⟩

def badJoiner (label : Label) (n place : Nat) : Failure :=
  fault <| s!"Unknown codepoint adjacent to joiner {shownNumber n} at position " ++
    s!"{Text.decimal place} in {Text.quotedNumbers label}"

def badDirection (label : Label) (f : Direction.Fault) : Failure :=
  let shown := Text.quotedNumbers label
  let invalid (place : Nat) (order : String) : String :=
    s!"Invalid direction for codepoint at position {Text.decimal place} in a {order} label"
  ⟨.hostDirection, match f with
    | .unknown place => s!"Unknown directionality in label {shown} at position {Text.decimal place}"
    | .start => s!"First codepoint in label {shown} must be directionality L, R or AL"
    | .inRight place => invalid place "right-to-left"
    | .inLeft place => invalid place "left-to-right"
    | .mixedNumbers => "Can not mix numeral types in a right-to-left label"
    | .ending => "Label ends with illegal codepoint directionality"⟩

def checkCharacters (label : Label) (before : List Nat) : List Nat → Except Failure Unit
  | [] => .ok ()
  | n :: behind =>
    let place := before.length + 1
    if isJoiner n then
      if admitsJoiner before n behind then checkCharacters label (n :: before) behind
      else .error (badJoiner label n place)
    else if isContextual n then
      if admitsContextual before n behind then checkCharacters label (n :: before) behind
      else .error (badContext label n place)
    else if isLabelChar n then checkCharacters label (n :: before) behind
    else .error (badCharacter label n place)

def hyphen : Nat := '-'.toNat

def check (label : Label) : Except Failure Unit := do
  if label.isEmpty then throw (fault "Empty Label")
  if !Text.Canonical.isComposed label then
    throw (fault "Label must be in Normalization Form C")
  if (label.drop 2).take 2 == [hyphen, hyphen] then
    throw (fault "Label has disallowed hyphens in 3rd and 4th position")
  if label.head? == some hyphen || label.getLast? == some hyphen then
    throw (fault "Label must not start or end with a hyphen")
  if label.head?.any Text.isMark then
    throw (fault "Label begins with an illegal combining character")
  checkCharacters label [] label
  (Direction.check label).mapError (badDirection label)

def formMark : List Char := ['x', 'n', '-', '-']

def checkAscii (text : List Char) : Except Failure Unit := do
  let text := text.map Char.toLower
  if text.take formMark.length == formMark then
    let form := text.drop formMark.length
    if form.isEmpty then throw (fault "Malformed A-label, no Punycode eligible content found")
    if form.getLast? == some '-' then throw (fault "A-label must not end with a hyphen")
    match Punycode.decode? form with
    | some label => check label
    | none => throw (fault "Invalid A-label")
  else check (text.map Char.toNat)

/-- The most characters of a label in ASCII. -/
def sizeLimit : Nat := 63

def toAscii (text : List Char) : Except Failure (List Char) := do
  let label := text.map Char.toNat
  let form ←
    if label.all (· < 0x80) then do
      checkAscii text
      pure text
    else do
      check label
      pure (formMark ++ Punycode.encode label)
  if sizeLimit < form.length then throw (fault "Label too long") else return form

end Label
end RouteFeed.Url
