import GrammarMachine.Text.Ranges

/-!
Ranges of characters in their encoded form. A character is encoded in one to four bytes; a range of
characters is a list of sequences of byte ranges, each of which holds every combination of its
bytes.
-/

namespace GrammarMachine.Text

/-- Byte ranges that follow each other. -/
abbrev ByteSequence := List (Nat × Nat)

/-- The sequences of the values from `low` to `high` that are written as a leading byte, counted
from `lead`, and the given number of further bytes with six bits each. -/
def byteSequencesFrom (lead : Nat) : Nat → Nat → Nat → List ByteSequence
  | 0, low, high => [[(lead + low, lead + high)]]
  | n + 1, low, high =>
      let unit := Nat.pow 64 (n + 1)
      let first := low / unit
      let last := high / unit
      let under (byte low high : Nat) : List ByteSequence :=
        (byteSequencesFrom 0x80 n low high).map ((lead + byte, lead + byte) :: ·)
      if first = last then under first (low % unit) (high % unit)
      else
        let head := if low % unit = 0 then [] else under first (low % unit) (unit - 1)
        let tail := if high % unit = unit - 1 then [] else under last 0 (high % unit)
        let start := if low % unit = 0 then first else first + 1
        let stop := if high % unit = unit - 1 then last + 1 else last
        let whole : List ByteSequence :=
          if start < stop then
            [(lead + start, lead + stop - 1) :: List.replicate (n + 1) (0x80, 0xbf)]
          else []
        head ++ whole ++ tail

/-- A block of characters with encodings of one length. -/
structure EncodingBlock where
  low : Nat
  high : Nat
  lead : Nat
  further : Nat

/-- The blocks of characters; surrogates have no encoding. -/
def encodingBlocks : List EncodingBlock :=
  [⟨0x0, 0x7f, 0, 0⟩, ⟨0x80, 0x7ff, 0xc0, 1⟩, ⟨0x800, 0xd7ff, 0xe0, 2⟩,
   ⟨0xe000, 0xffff, 0xe0, 2⟩, ⟨0x10000, 0x10ffff, 0xf0, 3⟩]

/-- The byte sequences of the characters of a set, in ascending order. -/
def Ranges.byteSequences (s : Ranges) : List ByteSequence :=
  s.flatMap fun (low, high) => encodingBlocks.flatMap fun block =>
    if max low block.low ≤ min high block.high then
      byteSequencesFrom block.lead block.further (max low block.low) (min high block.high)
    else []

end GrammarMachine.Text
