import RouteFeed.Failure
import RouteFeed.Text.Cut
import RouteFeed.Text.LowerCase
import RouteFeed.Url.Label
import RouteFeed.Url.Percent

/-! Hosts of a URL: numbers of version 4, numbers of version 6 in brackets, names in ASCII, and
internationalised names, which become ASCII. -/
namespace RouteFeed.Url

def isDigit (c : Char) : Bool := '0' ≤ c && c ≤ '9'

/-- Four groups of digits with dots between. -/
def looksLikeVersion4 (cs : List Char) : Bool :=
  let parts := Text.splitAll '.' cs
  parts.length == 4 && parts.all fun p => !p.isEmpty && p.all isDigit

/-- A number of version 4: four parts below 256 without leading zeros. -/
def isVersion4 (cs : List Char) : Bool :=
  let parts := Text.splitAll '.' cs
  parts.length == 4 && parts.all fun p =>
    !p.isEmpty && p.all isDigit && p.length ≤ 3 && (p.length == 1 || p.head? != some '0') &&
      p.foldl (fun n c => 10 * n + (c.toNat - '0'.toNat)) 0 ≤ 255

def isHexGroup (p : List Char) : Bool := !p.isEmpty && p.length ≤ 4 && p.all isHexDigit

/-- The groups of version 6, with at most one gap of empty groups. -/
def areGroups (parts : List (List Char)) : Bool :=
  let inner := (parts.drop 1).dropLast
  match inner.findIdx? List.isEmpty with
  | some i =>
    let skip := i + 1
    let high := parts.take skip
    let low := parts.drop (skip + 1)
    let high := if high.head? == some [] then high.drop 1 else high
    let low := if low.getLast? == some [] then low.dropLast else low
    (inner.drop (i + 1)).all (!·.isEmpty) &&
      (parts.head? != some [] || high.isEmpty) && (parts.getLast? != some [] || low.isEmpty) &&
      high.length + low.length < 8 && high.all isHexGroup && low.all isHexGroup
  | none => parts.length == 8 && parts.all isHexGroup

/-- A number of version 6, with the zone behind a percent sign. -/
def isVersion6 (cs : List Char) : Bool :=
  let address := cs.takeWhile (· != '%')
  let zoneOk := match cs.dropWhile (· != '%') with
    | [] => true
    | _ :: zone => !zone.isEmpty && !zone.contains '%'
  let parts := Text.splitAll ':' address
  let parts? := match parts.getLast? with
    | some last =>
      if last.contains '.' then
        if isVersion4 last then some (parts.dropLast ++ [['0'], ['0']]) else none
      else some parts
    | none => none
  !cs.contains '/' && zoneOk && 3 ≤ parts.length &&
    match parts? with
    | some parts => parts.length ≤ 9 && areGroups parts
    | none => false

def isLabelDot (c : Char) : Bool :=
  c == '.' || c == '\u3002' || c == '\uff0e' || c == '\uff61'

def labels : List Char → List (List Char)
  | [] => [[]]
  | c :: cs =>
    if isLabelDot c then [] :: labels cs
    else
      match labels cs with
      | [] => [[c]]
      | l :: ls => (c :: l) :: ls

/-- The labels of a name, without the empty one behind a dot at its end, and whether there is such a
dot. -/
def rootedLabels (name : List Char) : Except Failure (List (List Char) × Bool) :=
  let ls := labels name
  if ls == [[]] then .error (Label.fault "Empty domain")
  else if ls.getLast? == some [] then .ok (ls.dropLast, true)
  else .ok (ls, false)

/-- The most characters of a name in ASCII, without a dot at its end. -/
def nameLimit : Nat := 253

def asciiName (name : List Char) : Except Failure (List Char) := do
  let (ls, rooted) ← rootedLabels name
  let forms ← ls.mapM Label.toAscii
  let text := List.intercalate ['.'] (if rooted then forms ++ [[]] else forms)
  if nameLimit + (if rooted then 1 else 0) < text.length then throw (Label.fault "Domain too long")
  else return text

def checkAsciiName (name : List Char) : Except Failure Unit := do
  if nameLimit + 1 < name.length then throw (Label.fault "Domain too long")
  let (ls, _) ← rootedLabels name
  ls.forM Label.checkAscii

def badHost (reason : String) (host : List Char) : Failure :=
  ⟨.badUrl, s!"Invalid {reason}: {Text.quoted (String.ofList host)}"⟩

def encodeHost (host : List Char) : Except Failure (List Char) :=
  if host.isEmpty then .ok []
  else if looksLikeVersion4 host then
    if isVersion4 host then .ok host else .error (badHost "IPv4 address" host)
  else if host.head? == some '[' && host.getLast? == some ']' && 2 ≤ host.length then
    let inner := (host.drop 1).dropLast
    if isVersion6 inner then .ok inner else .error (badHost "IPv6 address" host)
  else if host.all (·.toNat < 0x80) then .ok (quote hostSafe (Text.lower host))
  else
    match asciiName (Text.lower host) with
    | .ok name => .ok name
    | .error _ => .error (badHost "IDNA hostname" host)

end RouteFeed.Url
