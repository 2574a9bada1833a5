import GrammarMachine.Pattern.Expr
import GrammarMachine.Text.ByteRange

/-!
The room that an expression takes as a machine over bytes. A machine is a list of states; each state
takes some room, and so does each byte range and each branch that it holds. An expression is
turned into two machines, one that reads forward and one that reads backward, and both have to fit
into a limited room. Repetitions with counts are written out, so they are what makes machines large.
-/

namespace GrammarMachine.Pattern

/-- The direction in which a machine reads. -/
inductive Direction where
  | forward
  | backward
deriving DecidableEq

/-- The room of a state by itself. -/
def stateSize : Nat := 32

/-- The room of a byte range in a state. -/
def rangeSize : Nat := 8

/-- The room of a branch in a state. -/
def branchSize : Nat := 4

/-- The room in which each machine has to fit. -/
def sizeLimit : Nat := 10485760

/-- Groups sequences that follow each other and have the same first range. Each group has that range
and the rests of the sequences. -/
def groupSequences (sequences : List Text.ByteSequence) :
    List ((Nat × Nat) × List Text.ByteSequence) :=
  (sequences.splitBy fun s t => s.head? == t.head?).filterMap fun run =>
    run.head?.bind fun s => s.head?.map fun range => (range, run.map List.tail)

/-- A state that chooses by the byte: its ranges with the numbers of the states that follow. -/
abbrev Chooser := List ((Nat × Nat) × Nat)

/-- Adds the states that read one of the sequences; the first of them gets the number returned.
Equal states are shared; zero is the number of the state after the last byte. -/
def shareStates : Nat → List Text.ByteSequence → Array Chooser → Nat × Array Chooser
  | 0, _, known => (0, known)
  | fuel + 1, sequences, known =>
      let add : Chooser × Array Chooser → (Nat × Nat) × List Text.ByteSequence →
          Chooser × Array Chooser := fun (chooser, known) (range, rests) =>
        if rests.all List.isEmpty then ((range, 0) :: chooser, known)
        else
          let (number, known) := shareStates fuel rests known
          ((range, number) :: chooser, known)
      let (chooser, known) := (groupSequences sequences).foldl add ([], known)
      -- Numbers of states count from one.
      match known.findIdx? (· == chooser) with
      | some i => (i + 1, known)
      | none => (known.size + 1, known.push chooser)

/-- The number of states that read the sequences when only common beginnings are shared. -/
def countBeginnings : Nat → List Text.ByteSequence → Nat
  | 0, _ => 0
  | fuel + 1, sequences =>
      ((groupSequences sequences).map fun (_, rests) => 1 + countBeginnings fuel rests).sum

/-- The room of a set of characters. A set of single bytes is one state; of other sets, a machine
that reads forward shares equal ends and one that reads backward common beginnings. -/
def CharSet.size (d : Direction) (s : CharSet) : Nat :=
  if s.all fun (_, high) => high < 0x80 then 2 * stateSize + s.length * rangeSize
  else
    let sequences := Text.Ranges.byteSequences s
    match d with
    | .forward =>
        let (_, states) := shareStates 5 sequences #[]
        states.foldl (fun size chooser => size + stateSize + chooser.length * rangeSize) stateSize
    | .backward =>
        2 * stateSize + sequences.length * branchSize + countBeginnings 5 sequences * stateSize

/-- Words in order of preference, divided into runs of words that end at once and runs of words that
go on. Only words of one run share a branch. -/
def wordRuns (words : List (List UInt8)) : List (List (List UInt8)) :=
  words.splitBy fun a b => a.isEmpty == b.isEmpty

/-- The rests of words by their first bytes. -/
def groupWords (words : List (List UInt8)) : List (List (List UInt8)) :=
  (words.filterMap List.head?).eraseDups.map fun b =>
    (words.filter (·.head? == some b)).map List.tail

/-- The room of a tree that chooses between words of less than the given length by their bytes.
Words that end at once take a branch each, but those in front of all others take one together. -/
def wordTreeSize : Nat → List (List UInt8) → Nat
  | 0, _ => 0
  | fuel + 1, words =>
      let runSize (run : List (List UInt8)) (i : Nat) : Nat :=
        if run.all List.isEmpty then branchSize * (if i = 0 then 1 else run.length)
        else
          let groups := groupWords run
          let longer := groups.filter fun rests => !rests.all List.isEmpty
          branchSize + stateSize + (if groups.length = 1 then 0 else groups.length * rangeSize) +
            (longer.map (wordTreeSize fuel)).sum
      stateSize + ((wordRuns words).zipIdx.map fun (run, i) => runSize run i).sum

namespace Expr

/-- The bytes of a literal in the order in which a machine reads them. -/
def word? (d : Direction) : Expr → Option (List UInt8)
  | .literal text =>
      let bytes := (String.ofList text).toUTF8.toList
      some (if d = .forward then bytes else bytes.reverse)
  | _ => none

/-- The room of `n` rounds of a body; no rounds take one state. -/
def roundsSize (n body : Nat) : Nat :=
  if n = 0 then stateSize else n * body

/-- The room of a repetition with the room of its body. -/
def repetitionSize (body : Nat) (consumes : Bool) (least : Nat) (most : Option Nat) : Nat :=
  let fork := stateSize + 2 * branchSize
  match least, most with
  | 0, some 1 => fork + body + stateSize
  | 0, none => if consumes then fork + body else 2 * fork + body + stateSize
  | least, none => roundsSize least body + fork
  | least, some most =>
      if least = most then roundsSize least body
      else roundsSize least body + stateSize + (most - least) * (fork + body)

/-- The room of an expression by itself, and as the rest of a list of options. -/
def sizes (d : Direction) : Expr → Nat × Nat
  | .empty => alone stateSize
  | .literal text => alone ((String.ofList text).utf8ByteSize * stateSize)
  | .one set => alone (CharSet.size d set)
  | .look _ => alone stateSize
  | .group _ body => alone ((body.sizes d).1 + if d = .forward then 2 * stateSize else 0)
  | .seq a b => alone ((a.sizes d).1 + (b.sizes d).1)
  | .alt a b =>
      let branches := branchSize + (a.sizes d).1 + (b.sizes d).2
      match (Expr.alt a b).options.mapM (word? d) with
      | some words =>
          (stateSize + wordTreeSize ((words.map List.length).foldl max 0 + 1) words, branches)
      | none => (2 * stateSize + branches, branches)
  | .rep body least most _ =>
      let consumes := decide (0 < body.leastLength?.getD 0)
      alone (repetitionSize (body.sizes d).1 consumes least most)
where
  /-- The rest of a list of options that is one expression has one branch more. -/
  alone (size : Nat) : Nat × Nat := (size, size + branchSize)

/-- The room of the machine of an expression. A machine that is not tied to the point where it
starts to read first skips any number of bytes. -/
def size (d : Direction) (e : Expr) : Nat :=
  let skip := 3 * stateSize + 2 * branchSize + rangeSize
  match d with
  | .forward =>
      (if e.beginsWith .textStart then stateSize else skip) + 3 * stateSize + (e.sizes d).1
  | .backward => (if e.endsWith .textEnd then stateSize else skip) + stateSize + (e.sizes d).1

/-- Whether the machines of an expression fit in their room. -/
def fits (e : Expr) : Bool :=
  e.size .forward ≤ sizeLimit && e.size .backward ≤ sizeLimit

end Expr

end GrammarMachine.Pattern
