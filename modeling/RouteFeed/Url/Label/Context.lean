import RouteFeed.Text.Canonical
import RouteFeed.Text.Joining
import RouteFeed.Text.Script

/-! Characters that may stand in a label only beside certain others. -/
namespace RouteFeed.Url

open Text (Script joinsBefore joinsBehind transparentRuns inRuns)

/-- Whether the next character that joining does not pass through joins. -/
def meetsJoining (joins : Nat → Bool) (ns : List Nat) : Bool :=
  match ns.dropWhile fun n => inRuns n transparentRuns with
  | [] => false
  | n :: _ => joins n

def viramaClass : Nat := 9

def isJoiner (n : Nat) : Bool := n == 0x200c || n == 0x200d

/-- A joiner may stand behind a virama; the one that keeps apart also between characters that would
join. The characters before it are listed from the last to the first. -/
def admitsJoiner (before : List Nat) (n : Nat) (behind : List Nat) : Bool :=
  before.head?.any (fun b => Text.Canonical.combiningClass b == viramaClass) ||
    (n == 0x200c && meetsJoining joinsBehind before && meetsJoining joinsBefore behind)

def isArabicDigit (n : Nat) : Bool := 0x660 ≤ n && n ≤ 0x669
def isEasternArabicDigit (n : Nat) : Bool := 0x6f0 ≤ n && n ≤ 0x6f9

/-- Characters that depend on others in the label. -/
def isContextual (n : Nat) : Bool :=
  [0xb7, 0x375, 0x5f3, 0x5f4, 0x30fb].contains n || isArabicDigit n || isEasternArabicDigit n

/-- The middle dot of Japanese stands beside its scripts. -/
def isJapanese (n : Nat) : Bool :=
  Script.hiragana.holds n || Script.katakana.holds n || Script.han.holds n

/-- A middle dot stands between two letters l, a Greek sign before a Greek letter, a Hebrew sign
behind a Hebrew letter, a dot of Japanese in a label with its scripts, and the digits of one kind
without those of the other. The characters before are listed from the last to the first. -/
def admitsContextual (before : List Nat) (n : Nat) (behind : List Nat) : Bool :=
  let label := before ++ behind
  if n == 0xb7 then before.head? == some 'l'.toNat && behind.head? == some 'l'.toNat
  else if n == 0x375 then behind.head?.any Script.greek.holds
  else if n == 0x5f3 || n == 0x5f4 then before.head?.any Script.hebrew.holds
  else if n == 0x30fb then label.any fun m => m != 0x30fb && isJapanese m
  else if isArabicDigit n then !label.any isEasternArabicDigit
  else !label.any isArabicDigit

end RouteFeed.Url
