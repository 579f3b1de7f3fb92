/-! Lines of a text that arrives in pieces.

A line ends at a line feed, a carriage return, both together, a vertical tab, a form feed, one of
the separators U+001C to U+001E, U+0085, U+2028 or U+2029. A carriage return at the end of a piece
waits for what comes next. The splitter takes one character at a time, so the lines do not depend
on how a text is cut into pieces. -/
namespace RouteFeed.Text

/-- Ends a line by itself; a carriage return may be followed by a line feed. -/
def isLineEnd (c : Char) : Bool :=
  let n := c.val
  (0x0a ≤ n && n ≤ 0x0d) || (0x1c ≤ n && n ≤ 0x1e) || n == 0x85 || n == 0x2028 || n == 0x2029

structure LineSplitter where
  /-- The characters of the line so far, the last one first. -/
  begun : List Char := []
  returned : Bool := false
  deriving DecidableEq

namespace LineSplitter

def line (s : LineSplitter) : List Char := s.begun.reverse

/-- Take a character that does not follow a carriage return. -/
def take (s : LineSplitter) (c : Char) : List (List Char) × LineSplitter :=
  if c == '\r' then ([], { s with returned := true })
  else if isLineEnd c then ([s.line], {})
  else ([], { s with begun := c :: s.begun })

/-- Take the next character: the lines that it ends, and the line behind it. -/
def step (s : LineSplitter) (c : Char) : List (List Char) × LineSplitter :=
  if s.returned then
    if c == '\n' then ([s.line], {})
    else
      let (lines, s') := take {} c
      (s.line :: lines, s')
  else s.take c

def feed (s : LineSplitter) : List Char → List (List Char) × LineSplitter
  | [] => ([], s)
  | c :: cs =>
    let (lines, s) := s.step c
    let (more, s) := s.feed cs
    (lines ++ more, s)

def flush (s : LineSplitter) : List (List Char) :=
  if s.begun.isEmpty && !s.returned then [] else [s.line]

/-- The lines of a text cut in two are those of the whole. -/
theorem feed_append (s : LineSplitter) (xs ys : List Char) :
    s.feed (xs ++ ys) =
      ((s.feed xs).1 ++ ((s.feed xs).2.feed ys).1, ((s.feed xs).2.feed ys).2) := by
  induction xs generalizing s with
  | nil => simp [feed]
  | cons c cs ih => simp [feed, ih, List.append_assoc]

end LineSplitter
end RouteFeed.Text
