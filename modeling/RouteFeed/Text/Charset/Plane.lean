import RouteFeed.Text.Charset.Reading

/-! Planes of characters: numbered rows, in which the characters stand in numbered cells. Both
numbers count from one. A plane usually has 94 rows of 94 cells. -/
namespace RouteFeed.Text

/-- The rows of a plane, an empty one in front. A cell without a character holds the replacement
character. -/
structure Plane where
  rows : Array (Array Char)

namespace Plane

/-- The plane with some rows, each given by its number and its characters from the first cell on. -/
def ofRows (rows : List (Nat × String)) : Plane :=
  let last := (rows.map Prod.fst).max?.getD 0
  ⟨rows.foldl (fun plane (i, chars) => plane.set! i chars.toList.toArray)
    (Array.replicate (last + 1) #[])⟩

def char? (p : Plane) (row cell : Nat) : Option Char :=
  if cell = 0 then none
  else ((p.rows[row]?).bind (·[cell - 1]?)).filter (· != replacement)

def absent (p : Plane) (first count : Nat) : Array Char :=
  let present := p.rows.foldl
    (fun marks row => row.foldl
      (fun marks c => if first ≤ c.toNat then marks.setIfInBounds (c.toNat - first) true else marks)
      marks)
    (Array.replicate count false)
  (((List.range count).filter fun i => !present.getD i true).map fun i =>
    Char.ofNat (first + i)).toArray

end Plane
end RouteFeed.Text
