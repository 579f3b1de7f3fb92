import RouteFeed.Text.Digit

/-! Sorted runs of numbers, and tables of them that are written as text: words of hexadecimal
digits, each a single number or the first and the last of a run with a hyphen between. A table of
entries has several numbers in a word, with dots between. -/
namespace RouteFeed.Text

def inRuns (n : Nat) : List (Nat × Nat) → Bool
  | [] => false
  | (lo, hi) :: runs => if n < lo then false else n ≤ hi || inRuns n runs

/-- The runs of a row, from the left: those before, the first number of the run begun if its end is
awaited, and the number begun. -/
def runsFrom (done : List (Nat × Nat)) (first : Option Nat) (n : Nat) :
    List Char → List (Nat × Nat)
  | [] => ((first.getD n, n) :: done).reverse
  | '-' :: cs => runsFrom done (some n) 0 cs
  | ' ' :: cs => runsFrom ((first.getD n, n) :: done) none 0 cs
  | c :: cs => runsFrom done first (16 * n + (hexValue? c).getD 0) cs

def runsOf (rows : List String) : List (Nat × Nat) :=
  rows.flatMap fun row => runsFrom [] none 0 row.toList

/-- The entries of a row of dotted numbers, from the left: those before, the numbers of the entry
begun, and the number begun. -/
def entriesFrom (done : List (List Nat)) (entry : List Nat) (n : Nat) :
    List Char → List (List Nat)
  | [] => ((n :: entry).reverse :: done).reverse
  | '.' :: cs => entriesFrom done (n :: entry) 0 cs
  | ' ' :: cs => entriesFrom ((n :: entry).reverse :: done) [] 0 cs
  | c :: cs => entriesFrom done entry (16 * n + (hexValue? c).getD 0) cs

def entriesOf (rows : List String) : List (List Nat) :=
  rows.flatMap fun row => entriesFrom [] [] 0 row.toList

example : runsOf ["41-5a b5", "c0"] = [(0x41, 0x5a), (0xb5, 0xb5), (0xc0, 0xc0)] := by decide

example : entriesOf ["c0.41.300 340.300"] = [[0xc0, 0x41, 0x300], [0x340, 0x300]] := by decide

end RouteFeed.Text
