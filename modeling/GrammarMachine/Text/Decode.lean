/-!
Text from bytes. Bytes that encode no character are read as replacement characters, one for each
longest beginning of an encoding or, where there is none, for each byte.
-/

namespace GrammarMachine.Text

/-- The sign that stands for bytes that encode no character. -/
def replacement : Char := '\ufffd'

/-- A character of which the first bytes are read: the value so far, the number of bytes that are
missing, and the bounds for the next one. -/
structure Begun where
  value : Nat
  missing : Nat
  low : Nat
  high : Nat

/-- The text so far, the last character first, and the character that has begun. -/
structure Decoding where
  read : List Char := []
  begun : Option Begun := none

namespace Decoding

/-- Reads a byte that begins a character. The bounds leave out encodings that are longer than
needed, surrogates and numbers that are too large. -/
def first (read : List Char) (byte : Nat) : Decoding :=
  if byte < 0x80 then ⟨Char.ofNat byte :: read, none⟩
  else if byte < 0xc2 then ⟨replacement :: read, none⟩
  else if byte < 0xe0 then ⟨read, some ⟨byte - 0xc0, 1, 0x80, 0xbf⟩⟩
  else if byte < 0xf0 then
    let low := if byte = 0xe0 then 0xa0 else 0x80
    let high := if byte = 0xed then 0x9f else 0xbf
    ⟨read, some ⟨byte - 0xe0, 2, low, high⟩⟩
  else if byte < 0xf5 then
    let low := if byte = 0xf0 then 0x90 else 0x80
    let high := if byte = 0xf4 then 0x8f else 0xbf
    ⟨read, some ⟨byte - 0xf0, 3, low, high⟩⟩
  else ⟨replacement :: read, none⟩

/-- Reads a byte. -/
def next (d : Decoding) (byte : UInt8) : Decoding :=
  let byte := byte.toNat
  match d.begun with
  | none => first d.read byte
  | some p =>
      if byte < p.low ∨ p.high < byte then first (replacement :: d.read) byte
      else
        let value := p.value * 64 + (byte - 0x80)
        if p.missing = 1 then ⟨Char.ofNat value :: d.read, none⟩
        else ⟨d.read, some ⟨value, p.missing - 1, 0x80, 0xbf⟩⟩

/-- The text when there are no more bytes. -/
def finish (d : Decoding) : String :=
  String.ofList (if d.begun.isSome then replacement :: d.read else d.read).reverse

end Decoding

/-- The text of the bytes. -/
def decode (bytes : List UInt8) : String :=
  (bytes.foldl Decoding.next {}).finish

/-- The text of the bytes behind a byte order mark, if there is one. -/
def decodeMarked : List UInt8 → String
  | 0xef :: 0xbb :: 0xbf :: bytes => decode bytes
  | bytes => decode bytes

end GrammarMachine.Text
