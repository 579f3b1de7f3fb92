import RouteFeed.Text.Canonical.Table

/-! Canonical composition. A text is taken apart into base characters and marks, the marks of a base
are put in order, and what can be composed is composed again. Texts that are canonically
equivalent come out alike. -/
namespace RouteFeed.Text.Canonical

/-- The class of a combining mark; zero for every other character. -/
def combiningClass (n : Nat) : Nat :=
  match classes.find? fun c => inRuns n c.2 with
  | some c => c.1
  | none => 0

/-! Syllables of Hangul are numbered by their leading consonant, their vowel, and a trailing
consonant or none. -/

def leadBase : Nat := 0x1100
def vowelBase : Nat := 0x1161
def trailBase : Nat := 0x11a7
def syllableBase : Nat := 0xac00
def leadCount : Nat := 19
def vowelCount : Nat := 21
def trailCount : Nat := 28

def splitSyllable? (n : Nat) : Option (List Nat) :=
  let i := n - syllableBase
  if n < syllableBase || leadCount * vowelCount * trailCount ≤ i then none
  else
    let lead := leadBase + i / (vowelCount * trailCount)
    let vowel := vowelBase + i % (vowelCount * trailCount) / trailCount
    let trail := i % trailCount
    some (if trail = 0 then [lead, vowel] else [lead, vowel, trailBase + trail])

/-- The syllable of a leading consonant and a vowel, or of such a syllable and a trailing
consonant. -/
def joinSyllable? (a b : Nat) : Option Nat :=
  let lead := a - leadBase
  let vowel := b - vowelBase
  let i := a - syllableBase
  let trail := b - trailBase
  if leadBase ≤ a && lead < leadCount && vowelBase ≤ b && vowel < vowelCount then
    some (syllableBase + (lead * vowelCount + vowel) * trailCount)
  else if syllableBase ≤ a && i < leadCount * vowelCount * trailCount && i % trailCount == 0 &&
      trailBase < b && trail < trailCount then
    some (a + trail)
  else none

def parts? (n : Nat) : Option (List Nat) :=
  match (composites ++ others).find? fun entry => entry.head? == some n with
  | some entry => some (entry.drop 1)
  | none => splitSyllable? n

/-- A character taken apart, down to so many levels. -/
def decomposeWithin : Nat → Nat → List Nat
  | 0, n => [n]
  | levels + 1, n =>
    match parts? n with
    | some ns => ns.flatMap (decomposeWithin levels)
    | none => [n]

def levels : Nat := 4

/-- The marks at the head of a text in the order of their classes, in front of what follows. Marks
of one class keep their order. -/
def orderMarks (marks : List Nat) : List Nat :=
  marks.mergeSort fun a b => combiningClass a ≤ combiningClass b

/-- The text with its marks in order, behind the marks gathered so far. -/
def orderFrom (marks : List Nat) : List Nat → List Nat
  | [] => orderMarks marks
  | n :: ns =>
    if combiningClass n = 0 then orderMarks marks ++ n :: orderFrom [] ns
    else orderFrom (marks ++ [n]) ns

def decompose (text : List Nat) : List Nat := orderFrom [] (text.flatMap (decomposeWithin levels))

def compose? (a b : Nat) : Option Nat :=
  match composites.find? fun entry => entry.drop 1 == [a, b] with
  | some entry => entry.head?
  | none => joinSyllable? a b

/-- Compose what follows a base and the marks that stay behind it. A character is composed with the
base unless a mark of its class or of a higher one stands between. -/
def composeFrom (base : Nat) (marks : List Nat) (highest : Nat) : List Nat → List Nat
  | [] => base :: marks
  | n :: ns =>
    let c := combiningClass n
    let joined? := if marks.isEmpty || highest < c then compose? base n else none
    match joined? with
    | some joined => composeFrom joined marks highest ns
    | none =>
      if c = 0 then base :: marks ++ composeFrom n [] 0 ns
      else composeFrom base (marks ++ [n]) c ns

def compose (text : List Nat) : List Nat :=
  match decompose text with
  | [] => []
  | n :: ns => composeFrom n [] 0 ns

def isComposed (text : List Nat) : Bool := compose text == text

end RouteFeed.Text.Canonical
