import GrammarMachine.Pattern.Expr

/-!
Matching programs. A regular expression becomes a list of instructions with ordered forks; all
threads of the program advance together over the text, in order of preference, and no instruction is
entered twice at one point. The end found is that of the leftmost match, and of the matches that
start there that of the most preferred one.
-/

namespace GrammarMachine.Pattern

/-- An instruction, with the places where the program goes on. -/
inductive Instr where
  | one (set : CharSet) (next : Nat)
  | look (test : Look) (next : Nat)
  | fork (first second : Nat)
  | accept

/-- A matching program. An anchored one is only started at the beginning of the text. -/
structure Program where
  code : Array Instr
  start : Nat
  anchored : Bool

/-- Code under construction, and the place where it begins. -/
abbrev Block := Nat × Array Instr

namespace Block

/-- Adds an instruction in front. -/
def emit (code : Array Instr) (instr : Instr) : Block :=
  (code.size, code.push instr)

/-- A fork between going on with a body and leaving; a greedy one prefers the body. -/
def fork (greedy : Bool) (body leave : Nat) : Instr :=
  if greedy then .fork body leave else .fork leave body

/-- A body once or more often: after each round a fork decides whether to go on. -/
def plus (body : Nat → Array Instr → Block) (greedy : Bool) (next : Nat) (code : Array Instr) :
    Block :=
  let again := code.size
  let (start, code) := body again (code.push .accept)
  (start, code.setIfInBounds again (fork greedy start next))

/-- A body any number of times, for a body that never matches the empty text. -/
def star (body : Nat → Array Instr → Block) (greedy : Bool) (next : Nat) (code : Array Instr) :
    Block :=
  let again := code.size
  let (start, code) := body again (code.push .accept)
  (again, code.setIfInBounds again (fork greedy start next))

/-- A body at most `n` times in front of the block; each round that is left out leaves the rest out
too. -/
def atMost (body : Nat → Array Instr → Block) (greedy : Bool) (leave : Nat) : Nat → Block → Block
  | 0, block => block
  | n + 1, (rest, code) =>
      let (start, code) := body rest code
      atMost body greedy leave n (emit code (fork greedy start leave))

/-- A body exactly `n` times in front of the block. -/
def exactly (body : Nat → Array Instr → Block) : Nat → Block → Block
  | 0, block => block
  | n + 1, (rest, code) => exactly body n (body rest code)

end Block

/-- The code of an expression that goes on at `next`. A repetition of a body that may match the
empty text is an optional repetition of at least one round, which keeps the order of preference. -/
def Expr.compile : Expr → Nat → Array Instr → Block
  | .empty, next, code => (next, code)
  | .literal text, next, code =>
      let put (block : Block) (c : Char) := Block.emit block.2 (.one (.single c) block.1)
      text.reverse.foldl put (next, code)
  | .one set, next, code => Block.emit code (.one set next)
  | .look test, next, code => Block.emit code (.look test next)
  | .group _ body, next, code => body.compile next code
  | .seq a b, next, code =>
      let (second, code) := b.compile next code
      a.compile second code
  | .alt a b, next, code =>
      let (second, code) := b.compile next code
      let (first, code) := a.compile next code
      Block.emit code (.fork first second)
  | .rep body least most greedy, next, code =>
      let inner := fun next code => body.compile next code
      match most with
      | some most =>
          Block.exactly inner least (Block.atMost inner greedy next (most - least) (next, code))
      | none =>
          match least with
          | 0 =>
              -- A body that may match the empty text must be tried once before it is left.
              if 0 < body.leastLength?.getD 0 then Block.star inner greedy next code
              else
                let (start, code) := Block.plus inner greedy next code
                Block.emit code (Block.fork greedy start next)
          | least + 1 => Block.exactly inner least (Block.plus inner greedy next code)

def Program.ofExpr (e : Expr) : Program :=
  let (start, code) := e.compile 0 #[.accept]
  ⟨code, start, e.beginsWith .textStart⟩

namespace Program

/-- The threads at one point: those that wait for a character or accept, the least preferred one
first, and for every place the last point at which it was entered. -/
structure Threads where
  waiting : List Nat
  entered : Array Nat

/-- The threads before anything is entered. -/
def noThreads (p : Program) : Threads :=
  ⟨[], Array.replicate p.code.size 0⟩

/-- Enters the places on a stack, following forks and tests that hold between two characters. Each
place is entered once at a point, so twice the length of the code bounds the number of rounds. -/
def enter (p : Program) (point : Nat) (before after : Option Char) :
    Nat → List Nat → Threads → Threads
  | 0, _, threads => threads
  | _ + 1, [], threads => threads
  | fuel + 1, place :: stack, ⟨waiting, entered⟩ =>
      if entered[place]? = some point then p.enter point before after fuel stack ⟨waiting, entered⟩
      else
        let entered := entered.setIfInBounds place point
        match p.code[place]? with
        | some (.look test next) =>
            if test.holds before after then
              p.enter point before after fuel (next :: stack) ⟨waiting, entered⟩
            else p.enter point before after fuel stack ⟨waiting, entered⟩
        | some (.fork first second) =>
            p.enter point before after fuel (first :: second :: stack) ⟨waiting, entered⟩
        | _ => p.enter point before after fuel stack ⟨place :: waiting, entered⟩

def enterAt (p : Program) (point : Nat) (before after : Option Char) (threads : Threads)
    (place : Nat) : Threads :=
  p.enter point before after (2 * p.code.size + 2) [place] threads

/-- The threads preferred to the first accepting one, and whether there is an accepting one. -/
def beforeAccept (p : Program) (places : List Nat) : List Nat × Bool :=
  let (live, rest) := places.span fun place => !p.code[place]? matches some .accept
  (live, !rest.isEmpty)

/-- The threads after the character `c`. -/
def advance (p : Program) (point : Nat) (c : Char) (after : Option Char) (places : List Nat)
    (entered : Array Nat) : Threads :=
  let move (threads : Threads) (place : Nat) : Threads :=
    match p.code[place]? with
    | some (.one set next) =>
        if set.contains c.toNat then p.enterAt point (some c) after threads next else threads
    | _ => threads
  places.foldl move ⟨[], entered⟩

/-- Runs the threads over the text. `found` is the end of the most preferred match so far, counted
in characters from the start of the whole text; points are counted from one. -/
def run (p : Program) : Nat → List Char → Threads → Option Nat → Option Nat
  | point, text, ⟨waiting, entered⟩, found =>
      let (live, accepted) := p.beforeAccept waiting.reverse
      let found := if accepted then some (point - 1) else found
      match text with
      | [] => found
      | c :: rest =>
          let threads := p.advance (point + 1) c rest.head? live entered
          let threads :=
            if p.anchored || found.isSome then threads
            -- Until there is a match, one may still begin at each point, with the least preference.
            else p.enterAt (point + 1) (some c) rest.head? threads p.start
          if threads.waiting.isEmpty && (p.anchored || found.isSome) then found
          else p.run (point + 1) rest threads found

/-- The end of the leftmost match, in characters from the start of the text. -/
def matchEnd? (p : Program) (text : List Char) : Option Nat :=
  p.run 1 text (p.enterAt 1 none text.head? p.noThreads p.start) none

end Program

end GrammarMachine.Pattern
