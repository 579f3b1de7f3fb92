/-! Texts in bytes of UTF-8, with their lengths and cuts. -/
namespace RouteFeed.Text

def charBytes (c : Char) : List Nat := (String.utf8EncodeChar c).map UInt8.toNat

def utf8Bytes (cs : List Char) : List Nat := cs.flatMap charBytes

def byteCount (cs : List Char) : Nat := cs.foldr (fun c n => c.utf8Size + n) 0

/-- The longest start of a text, in whole characters, with at most `limit` bytes. -/
def takeBytes : (limit : Nat) → List Char → List Char
  | _, [] => []
  | limit, c :: cs => if c.utf8Size ≤ limit then c :: takeBytes (limit - c.utf8Size) cs else []

@[simp] theorem byteCount_nil : byteCount [] = 0 := rfl

@[simp] theorem byteCount_cons (c : Char) (cs : List Char) :
    byteCount (c :: cs) = c.utf8Size + byteCount cs := rfl

@[simp] theorem length_charBytes (c : Char) : (charBytes c).length = c.utf8Size := by
  rw [charBytes, List.length_map, String.length_utf8EncodeChar]

@[simp] theorem utf8Bytes_cons (c : Char) (cs : List Char) :
    utf8Bytes (c :: cs) = charBytes c ++ utf8Bytes cs := rfl

@[simp] theorem length_utf8Bytes (cs : List Char) : (utf8Bytes cs).length = byteCount cs := by
  induction cs with
  | nil => rfl
  | cons c cs ih => rw [utf8Bytes_cons, List.length_append, length_charBytes, ih, byteCount_cons]

theorem utf8Bytes_isPrefix {part cs : List Char} (h : List.IsPrefix part cs) :
    List.IsPrefix (utf8Bytes part) (utf8Bytes cs) := by
  obtain ⟨rest, rfl⟩ := h
  exact ⟨utf8Bytes rest, List.flatMap_append.symm⟩

theorem takeBytes_isPrefix (limit : Nat) (cs : List Char) :
    List.IsPrefix (takeBytes limit cs) cs := by
  induction cs generalizing limit with
  | nil => simp [takeBytes]
  | cons c cs ih =>
    simp only [takeBytes]
    split
    · simpa using ih _
    · simp

theorem byteCount_takeBytes_le (limit : Nat) (cs : List Char) :
    byteCount (takeBytes limit cs) ≤ limit := by
  induction cs generalizing limit with
  | nil => simp [takeBytes]
  | cons c cs ih =>
    simp only [takeBytes]
    split
    · have := ih (limit - c.utf8Size)
      simp only [byteCount_cons]
      omega
    · simp

/-- Whatever start of a text has at most `limit` bytes, it is a start of the longest one. -/
theorem isPrefix_takeBytes {limit : Nat} {part cs : List Char} (h : List.IsPrefix part cs)
    (fits : byteCount part ≤ limit) : List.IsPrefix part (takeBytes limit cs) := by
  induction cs generalizing limit part with
  | nil =>
    obtain rfl := List.prefix_nil.mp h
    exact List.nil_prefix
  | cons c cs ih =>
    cases part with
    | nil => exact List.nil_prefix
    | cons d part =>
      obtain ⟨rfl, rest⟩ := List.cons_prefix_cons.mp h
      rw [byteCount_cons] at fits
      rw [takeBytes, if_pos (by omega)]
      exact List.cons_prefix_cons.mpr ⟨rfl, ih rest (by omega)⟩

/-- Of a text that is long enough at most three bytes are lost: the next character has four at
most. -/
theorem limit_le_byteCount_takeBytes {limit : Nat} {cs : List Char} (long : limit ≤ byteCount cs) :
    limit ≤ byteCount (takeBytes limit cs) + 3 := by
  induction cs generalizing limit with
  | nil =>
    rw [byteCount_nil] at long
    omega
  | cons c cs ih =>
    rw [byteCount_cons] at long
    rw [takeBytes]
    split
    · have := ih (show limit - c.utf8Size ≤ byteCount cs by omega)
      rw [byteCount_cons]
      omega
    · have := c.utf8Size_le_four
      rw [byteCount_nil]
      omega

end RouteFeed.Text
