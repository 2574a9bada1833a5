import GrammarMachine.Text.Word

/-!
Regular expressions over characters: sets of characters, tests of the surroundings of a point, and
the usual combinations. Alternatives and repetitions are ordered: of two ways to match, the one
listed first is preferred. Expressions are put together by functions that keep them in a simple
form, without changing what they match.
-/

namespace GrammarMachine.Pattern

/-- A set of characters. -/
abbrev CharSet := Text.Ranges

/-- The set of the characters between two. -/
def CharSet.range (low high : Char) : CharSet :=
  [(low.toNat, high.toNat)]

def CharSet.single (c : Char) : CharSet :=
  .range c c

def CharSet.ofChars (chars : String) : CharSet :=
  Text.Ranges.ofList (chars.toList.map fun c => (c.toNat, c.toNat))

/-- Which characters a test or a class knows. -/
inductive Repertoire where
  | ascii
  | full
deriving DecidableEq

def Repertoire.isWord : Repertoire → Char → Bool
  | .ascii, c => c.isAlphanum || c = '_'
  | .full, c => Text.isWord c

/-- What ends a line: a line feed only, or a carriage return, a line feed or the two together. -/
inductive LineBreak where
  | feed
  | any
deriving DecidableEq

/-- A test of the characters around a point. -/
inductive Look where
  | textStart
  | textEnd
  | lineStart (breaks : LineBreak)
  | lineEnd (breaks : LineBreak)
  | wordBoundary (words : Repertoire)
  | notWordBoundary (words : Repertoire)
  | wordStart (words : Repertoire)
  | wordEnd (words : Repertoire)
  | wordStartHalf (words : Repertoire)
  | wordEndHalf (words : Repertoire)
deriving DecidableEq

/-- Whether the test holds between the two characters; at an end of the text one is missing. -/
def Look.holds (before after : Option Char) : Look → Bool
  | .textStart => before.isNone
  | .textEnd => after.isNone
  | .lineStart .feed => before.isNone || before == some '\n'
  | .lineStart .any =>
      before.isNone || before == some '\n' || before == some '\r' && after != some '\n'
  | .lineEnd .feed => after.isNone || after == some '\n'
  | .lineEnd .any =>
      after.isNone || after == some '\r' || after == some '\n' && before != some '\r'
  | .wordBoundary w => before.any w.isWord != after.any w.isWord
  | .notWordBoundary w => before.any w.isWord == after.any w.isWord
  | .wordStart w => !before.any w.isWord && after.any w.isWord
  | .wordEnd w => before.any w.isWord && !after.any w.isWord
  | .wordStartHalf w => !before.any w.isWord
  | .wordEndHalf w => !after.any w.isWord

/-- A regular expression. A sequence and a list of alternatives lean to the right. -/
inductive Expr where
  | empty
  | literal (text : List Char)
  | one (set : CharSet)
  | look (test : Look)
  | group (index : Nat) (body : Expr)
  | seq (first second : Expr)
  | alt (first second : Expr)
  | rep (body : Expr) (least : Nat) (most : Option Nat) (greedy : Bool)
deriving DecidableEq

namespace Expr

/-- The number of characters of the shortest match, if the expression can match at all. -/
def leastLength? : Expr → Option Nat
  | .empty => some 0
  | .literal text => some text.length
  | .one set => if set.isEmpty then none else some 1
  | .look _ => some 0
  | .group _ body => body.leastLength?
  | .seq a b => do return (← a.leastLength?) + (← b.leastLength?)
  | .alt a b => do return min (← a.leastLength?) (← b.leastLength?)
  | .rep body least _ _ => body.leastLength?.map (least * ·)

/-- Whether the expression matches nothing but the empty text. -/
def onlyEmpty : Expr → Bool
  | .empty => true
  | .literal text => text.isEmpty
  | .one _ => false
  | .look _ => true
  | .group _ body => body.onlyEmpty
  | .seq a b => a.onlyEmpty && b.onlyEmpty
  | .alt a b => a.onlyEmpty && b.onlyEmpty
  | .rep body _ _ _ => body.onlyEmpty

/-- Whether every match begins with the test. -/
def beginsWith (test : Look) : Expr → Bool
  | .look l => l = test
  | .group _ body => body.beginsWith test
  | .seq a b => a.beginsWith test || a.onlyEmpty && b.beginsWith test
  | .alt a b => a.beginsWith test && b.beginsWith test
  | .rep body least _ _ => 0 < least && body.beginsWith test
  | _ => false

/-- Whether every match ends with the test. -/
def endsWith (test : Look) : Expr → Bool
  | .look l => l = test
  | .group _ body => body.endsWith test
  | .seq a b => b.endsWith test || b.onlyEmpty && a.endsWith test
  | .alt a b => a.endsWith test && b.endsWith test
  | .rep body least _ _ => 0 < least && body.endsWith test
  | _ => false

/-- The expressions that follow each other in a sequence. -/
def factors : Expr → List Expr
  | .empty => []
  | .seq a b => a :: b.factors
  | e => [e]

/-- The sequence with the given factors. -/
def ofFactors : List Expr → Expr
  | [] => .empty
  | [e] => e
  | e :: rest => .seq e (ofFactors rest)

/-- Joins literals that follow each other. -/
def joinLiterals : List Expr → List Expr
  | [] => []
  | .literal text :: rest =>
      match joinLiterals rest with
      | .literal more :: tail => .literal (text ++ more) :: tail
      | tail => .literal text :: tail
  | e :: rest => e :: joinLiterals rest

def sequence (es : List Expr) : Expr :=
  ofFactors (joinLiterals (es.flatMap factors))

def ofSet (set : CharSet) : Expr :=
  match set with
  | [(low, high)] => if low = high then .literal [Char.ofNat low] else .one set
  | set => .one set

def options : Expr → List Expr
  | .alt a b => a :: b.options
  | e => [e]

def ofOptions : List Expr → Expr
  | [] => .one []
  | [e] => e
  | e :: rest => .alt e (ofOptions rest)

/-- The character of a literal that has just one. -/
def char? : Expr → Option Char
  | .literal [c] => some c
  | _ => none

/-- The set of an expression that is just one. -/
def set? : Expr → Option CharSet
  | .one set => some set
  | _ => none

/-- The factors that all sequences begin with; there are none unless every option is a sequence. -/
def sharedFactors : List Expr → List Expr
  | [] => []
  | .seq a b :: rest => rest.foldl (fun shared e =>
      match e with
      | .seq _ _ => ((shared.zip e.factors).takeWhile fun (x, y) => x = y).map (·.1)
      | _ => []) (Expr.seq a b).factors
  | _ => []

/-- One of several expressions, the first ones preferred. Characters and sets to choose from become
one set, and factors that all options begin with are taken out; each round of that shortens every
option, so the fuel is the length of one. -/
def choiceWithin : Nat → List Expr → Expr
  | fuel, es =>
      let es := es.flatMap options
      if es.length ≤ 1 then ofOptions es
      else match es.mapM char? with
        | some chars => ofSet (.ofList (chars.map fun c => (c.toNat, c.toNat)))
        | none =>
            match es.mapM set? with
            | some sets => ofSet (sets.foldl .union [])
            | none =>
                match fuel, sharedFactors es with
                | fuel + 1, first :: more =>
                    let shared := first :: more
                    let rests := es.map fun e => ofFactors (e.factors.drop shared.length)
                    sequence (shared ++ [choiceWithin fuel rests])
                | _, _ => ofOptions es

/-- One of several expressions, the first ones preferred. -/
def choice (es : List Expr) : Expr :=
  choiceWithin ((es.flatMap options).flatMap factors).length es

/-- A repetition. What matches only the empty text need not be repeated. -/
def repetition (body : Expr) (least : Nat) (most : Option Nat) (greedy : Bool) : Expr :=
  let (least, most) :=
    if body.onlyEmpty then (min least 1, some (min (most.getD 1) 1)) else (least, most)
  if most = some 0 then .empty
  else if least = 1 ∧ most = some 1 then body
  else .rep body least most greedy

end Expr

end GrammarMachine.Pattern
