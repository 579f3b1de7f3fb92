import RouteFeed.Number.Integer
import RouteFeed.Number.Real

/-! Numbers as settings write them, in ASCII digits with blanks around.

An integer may have leading zeros, single underscores between its digits and a fraction of zeros;
behind its first digit, leading zeros and underscores mix freely, and a minus sign may end them. A
real number may hold single underscores anywhere inside if no blanks stand around it. -/
namespace RouteFeed.Settings

open Number

inductive WholeFault where
  | malformed
  | tooLong
  deriving DecidableEq

def dropZeroFraction (cs : List Char) : List Char :=
  let fraction := cs.dropWhile (· != '.')
  if fraction.length > 1 && (fraction.drop 1).all (· == '0') then cs.takeWhile (· != '.') else cs

/-- Without single underscores; none stands at an end or beside another one. -/
def withoutUnderscores? : (afterOther : Bool) → List Char → Option (List Char)
  | afterOther, [] => if afterOther then some [] else none
  | afterOther, c :: cs =>
    if c == '_' then if afterOther then withoutUnderscores? false cs else none
    else (withoutUnderscores? true cs).map (c :: ·)

/-- Without leading zeros and the underscores among them. A zero keeps its last digit, and so does
a fraction. -/
def withoutZeros (cs : List Char) : List Char :=
  let isLeading (c : Char) : Bool := c == '0' || c == '_'
  let rest := cs.dropWhile isLeading
  match cs, rest with
  | '0' :: _, [] | '0' :: _, '.' :: _ =>
    let zeros := cs.takeWhile isLeading
    zeros.drop (zeros.length - 1) ++ rest
  | '0' :: _, _ => rest
  | _, _ => cs

def withoutPlus : List Char → List Char
  | '+' :: cs => cs
  | cs => cs

/-- An integer in its plain form: digits of which the first is a zero only if it is the last, behind
a minus sign or none. -/
def readPlainWhole? (cs : List Char) : Option Int :=
  let (negative, digits) := match cs with
    | '-' :: digits => (true, digits)
    | digits => (false, digits)
  let leads := digits.head? == some '0' && digits.length ≠ 1
  if digits.isEmpty || !digits.all Text.isAsciiDigit || leads then none
  else
    let n := Int.ofNat (asciiNumber digits)
    some (if negative then -n else n)

/-- The characters up to the end of the plain integer that a text begins with, if it is not zero. -/
def headLength (cs : List Char) : Nat :=
  let sign := if cs.head? == some '-' then 1 else 0
  let digits := (cs.drop sign).takeWhile Text.isAsciiDigit
  if digits.head? == some '0' then 0 else sign + digits.length

/-- An integer. A plain one at the head of the text that is too long is refused as such, whatever
follows it. -/
def readWhole (cs : List Char) : Except WholeFault Int :=
  let trimmed := Text.trimBy Text.isWhiteSpace cs
  let plain? :=
    if trimmed.take 2 == ['+', '-'] then none
    else withoutUnderscores? false (dropZeroFraction (withoutZeros (withoutPlus trimmed)))
  if digitLimit < headLength cs then .error .tooLong
  else
    match plain?.filter (·.length ≤ digitLimit) |>.bind readPlainWhole? with
    | some n => .ok n
    | none => .error .malformed

def readRealSetting (cs : List Char) : Option Binary64 :=
  match readPlainReal (Text.trimBy Text.isWhiteSpace cs) with
  | some x => some x
  | none => (withoutUnderscores? false cs).bind readPlainReal

end RouteFeed.Settings
