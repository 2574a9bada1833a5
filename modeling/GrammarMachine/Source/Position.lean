/-!
Points and stretches of an input. A position counts both the bytes of text and the gaps before it,
so passing a gap moves the position although it adds no text.
-/

namespace GrammarMachine

/-- A point of the input. -/
structure Position where
  offset : Nat := 0
  gaps : Nat := 0
  deriving DecidableEq

/-- The position after `n` more bytes. -/
def Position.skip (p : Position) (n : Nat) : Position :=
  { p with offset := p.offset + n }

/-- The position after one more gap. -/
def Position.skipGap (p : Position) : Position :=
  { p with gaps := p.gaps + 1 }

/-- What a rule sees of the place where the input is read. -/
structure Cursor where
  position : Position
  atGap : Bool
  done : Bool
  deriving DecidableEq

/-- A point of both the tag stream and the input. -/
structure Mark where
  tag : Nat
  position : Position
  deriving DecidableEq

/-- A completed match: the slot it was stored in, the tags from `firstTag` up to `lastTag` and the
stretch of input it covers. -/
structure Extent where
  name : String
  firstTag : Nat
  lastTag : Nat
  start : Position
  stop : Position
  text : String
  deriving DecidableEq

/-- Whether the match covers no input. -/
def Extent.isEmpty (e : Extent) : Bool :=
  e.start = e.stop

end GrammarMachine
