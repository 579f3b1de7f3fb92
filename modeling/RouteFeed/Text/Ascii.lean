import RouteFeed.Failure
import RouteFeed.Text.Quoted

/-! Texts that have to be in ASCII. -/
namespace RouteFeed.Text

def isAscii (c : Char) : Bool := c.toNat < 0x80

/-- Where the first characters outside ASCII stand: one with its escape, or a run by its ends. -/
def strayPlace (cs : List Char) : String :=
  let start := (cs.takeWhile isAscii).length
  match cs.dropWhile isAscii with
  | [] => ""
  | c :: others =>
    let more := (others.takeWhile fun c => !isAscii c).length
    if more = 0 then
      s!"character '{String.ofList (Quoted.escapeNumber c.toNat)}' in position {decimal start}"
    else s!"characters in position {decimal start}-{decimal (start + more)}"

def checkAscii (cs : List Char) : Except Failure Unit :=
  if cs.all isAscii then .ok ()
  else
    .error ⟨.unencodable,
      s!"'ascii' codec can't encode {strayPlace cs}: ordinal not in range(128)"⟩

end RouteFeed.Text
