/-! Blank characters.

Two sets are in use. The narrow one is the White_Space property; it makes up the margins of
numerals. The wide one also takes the four information separators U+001C to U+001F; it separates
words, and lines made of it are blank. -/
namespace RouteFeed.Text

def isWhiteSpace (c : Char) : Bool :=
  let n := c.val
  n == 0x20 || (0x09 ≤ n && n ≤ 0x0d) || n == 0x85 || n == 0xa0 || n == 0x1680 ||
    (0x2000 ≤ n && n ≤ 0x200a) || n == 0x2028 || n == 0x2029 || n == 0x202f ||
    n == 0x205f || n == 0x3000

/-- White_Space and the information separators. -/
def isBlank (c : Char) : Bool :=
  isWhiteSpace c || (0x1c ≤ c.val && c.val ≤ 0x1f)

def trimBy (p : Char → Bool) (cs : List Char) : List Char :=
  ((cs.dropWhile p).reverse.dropWhile p).reverse

def trim (cs : List Char) : List Char := trimBy isBlank cs

variable {α : Type} (p : α → Bool)

/-- The words that `p` separates, read from the left, with the word begun so far. -/
def wordsFrom : List α → List α → List (List α)
  | word, [] => if word.isEmpty then [] else [word.reverse]
  | word, c :: cs =>
    if p c then
      if word.isEmpty then wordsFrom [] cs else word.reverse :: wordsFrom [] cs
    else wordsFrom (c :: word) cs

/-- The maximal runs without `p`, in order. -/
def wordsBy (cs : List α) : List (List α) := wordsFrom p [] cs

def words (cs : List Char) : List (List Char) := wordsBy isBlank cs

variable {p}

@[simp] theorem wordsBy_nil : wordsBy p [] = [] := rfl

theorem wordsFrom_ne_nil (word cs : List α) (h : word ≠ []) : wordsFrom p word cs ≠ [] := by
  induction cs generalizing word with
  | nil => simp [wordsFrom, h]
  | cons c cs ih =>
    simp only [wordsFrom]
    split
    · simp [h]
    · exact ih _ (by simp)

theorem wordsBy_eq_nil_iff (cs : List α) : wordsBy p cs = [] ↔ ∀ c ∈ cs, p c = true := by
  induction cs with
  | nil => simp
  | cons c cs ih =>
    simp only [wordsBy, wordsFrom, List.mem_cons, forall_eq_or_imp]
    cases hc : p c with
    | true => simpa [wordsBy] using ih
    | false => simp [wordsFrom_ne_nil]

theorem wordsFrom_map {β : Type} (f : β → α) (word cs : List β) :
    wordsFrom p (word.map f) (cs.map f) = (wordsFrom (p ∘ f) word cs).map (List.map f) := by
  induction cs generalizing word with
  | nil => cases word <;> simp [wordsFrom]
  | cons c cs ih =>
    have begun := ih (c :: word)
    have fresh := ih []
    simp only [List.map_cons, List.map_nil] at begun fresh
    cases blank : p (f c) <;> cases word <;> simp_all [wordsFrom]

theorem wordsBy_map {β : Type} (f : β → α) (cs : List β) :
    wordsBy p (cs.map f) = (wordsBy (p ∘ f) cs).map (List.map f) := wordsFrom_map f [] cs

end RouteFeed.Text
