import RouteFeed.Number.Binary64
import RouteFeed.Text.Blank
import RouteFeed.Text.Digit

/-! Real numbers read from text. The plain form has a sign, ASCII digits with a point anywhere
among them and an exponent, or one of the words for infinity and for no number. The wide form also
takes blanks around it, decimal digits of any script and single underscores between digits. -/
namespace RouteFeed.Number

def takeSign : List Char → Bool × List Char
  | '-' :: cs => (true, cs)
  | '+' :: cs => (false, cs)
  | cs => (false, cs)

def asciiNumber (cs : List Char) : Nat :=
  cs.foldl (fun n c => 10 * n + (c.toNat - '0'.toNat)) 0

/-- The power of ten after the digits: nothing, or a mark, a sign and digits. -/
def exponentPart? : List Char → Option Int
  | [] => some 0
  | mark :: cs =>
    if mark == 'e' || mark == 'E' then
      let (negative, ds) := takeSign cs
      if ds.isEmpty || !ds.all Text.isAsciiDigit then none
      else some (if negative then -Int.ofNat (asciiNumber ds) else Int.ofNat (asciiNumber ds))
    else none

def specialReal? (negative : Bool) (cs : List Char) : Option Binary64 :=
  let word := String.ofList (cs.map Char.toLower)
  if word == "inf" || word == "infinity" then some (.infinite negative)
  else if word == "nan" then some .nan
  else none

def readPlainReal (cs : List Char) : Option Binary64 :=
  let (negative, body) := takeSign cs
  match specialReal? negative body with
  | some x => some x
  | none =>
    let whole := body.takeWhile Text.isAsciiDigit
    let rest := body.dropWhile Text.isAsciiDigit
    let (fraction, rest) := match rest with
      | '.' :: cs => (cs.takeWhile Text.isAsciiDigit, cs.dropWhile Text.isAsciiDigit)
      | cs => ([], cs)
    if whole.isEmpty && fraction.isEmpty then none
    else (exponentPart? rest).map fun e =>
      .ofDecimal negative (asciiNumber (whole ++ fraction)) (e - fraction.length)

def dropUnderscores? : (afterDigit : Bool) → List Char → Option (List Char)
  | _, [] => some []
  | afterDigit, '_' :: cs =>
    match cs with
    | c :: _ =>
      if afterDigit && Text.isAsciiDigit c then dropUnderscores? false cs else none
    | [] => none
  | _, c :: cs => (dropUnderscores? (Text.isAsciiDigit c) cs).map (c :: ·)

/-- Decimal digits of every script become ASCII digits. -/
def foldDigit (c : Char) : Char :=
  match Text.digitValue? c with
  | some d => Char.ofNat ('0'.toNat + d)
  | none => c

def readReal (cs : List Char) : Option Binary64 :=
  (dropUnderscores? false ((Text.trimBy Text.isWhiteSpace cs).map foldDigit)).bind readPlainReal

end RouteFeed.Number
