/-!
Text measured in bytes of UTF-8. Offsets into a text count bytes, while the text itself is a list
of characters, so a cut is defined only where no character is split.
-/

namespace GrammarMachine.Text

/-- The number of bytes a list of characters takes in UTF-8. -/
def size : List Char → Nat
  | [] => 0
  | c :: rest => c.utf8Size + size rest

/-- What follows the first `n` bytes, if these bytes are whole characters of the text. -/
def drop? : Nat → List Char → Option (List Char)
  | 0, text => some text
  | _ + 1, [] => none
  | n + 1, c :: rest =>
      if c.utf8Size ≤ n + 1 then drop? (n + 1 - c.utf8Size) rest else none

/-- The first `n` bytes, if they are whole characters of the text. -/
def take? : Nat → List Char → Option (List Char)
  | 0, _ => some []
  | _ + 1, [] => none
  | n + 1, c :: rest =>
      if c.utf8Size ≤ n + 1 then (take? (n + 1 - c.utf8Size) rest).map (c :: ·) else none

/-- The bytes from `start` up to `stop`, if both ends lie in the text, in order and between
characters. -/
def slice? (start stop : Nat) (text : List Char) : Option (List Char) :=
  if start ≤ stop then (drop? start text).bind (take? (stop - start)) else none

/-- The size of a string is that of its characters. -/
theorem utf8ByteSize_ofList (text : List Char) : (String.ofList text).utf8ByteSize = size text := by
  induction text with
  | nil => rfl
  | cons c rest ih =>
      rw [size, ← ih]
      simp [String.utf8ByteSize, List.utf8Encode]

theorem size_append (a b : List Char) : size (a ++ b) = size a + size b := by
  induction a with
  | nil => simp [size]
  | cons c a ih => simp [size, ih, Nat.add_assoc]

theorem drop?_size_append (a b : List Char) : drop? (size a) (a ++ b) = some b := by
  induction a with
  | nil => cases b <;> simp [size, drop?]
  | cons c a ih =>
      have hc : 0 < c.utf8Size := c.utf8Size_pos
      obtain ⟨n, hn⟩ : ∃ n, c.utf8Size + size a = n + 1 := ⟨c.utf8Size + size a - 1, by omega⟩
      simp only [size, hn, List.cons_append, drop?]
      rw [if_pos (by omega), show n + 1 - c.utf8Size = size a by omega, ih]

theorem take?_size_append (a b : List Char) : take? (size a) (a ++ b) = some a := by
  induction a with
  | nil => cases b <;> simp [size, take?]
  | cons c a ih =>
      have hc : 0 < c.utf8Size := c.utf8Size_pos
      obtain ⟨n, hn⟩ : ∃ n, c.utf8Size + size a = n + 1 := ⟨c.utf8Size + size a - 1, by omega⟩
      simp only [size, hn, List.cons_append, take?]
      rw [if_pos (by omega), show n + 1 - c.utf8Size = size a by omega, ih]
      rfl

end GrammarMachine.Text
