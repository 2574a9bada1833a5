import GrammarMachine.Tree.Build

/-!
Rules for whole streams of tags, checked tag by tag without building the tree, and views of streams.
-/

namespace GrammarMachine.Stream

/-- What is wrong with a stream. -/
inductive Defect where
  | noDoctype
  | noFragment
  | notClosed
  | unbalanced (index : Nat)
  | danglingReference (index : Nat)
  | unclosed (count : Nat)
  | noTree (error : BuildError)

def Defect.message : Defect → String
  | .noDoctype => "stream must start with a doctype"
  | .noFragment => "doctype must be followed by the fragment"
  | .notClosed => "stream must end by closing the fragment"
  | .unbalanced index => "unbalanced close at " ++ toString index
  | .danglingReference index =>
      "reference at " ++ toString index ++ " is not followed by a value"
  | .unclosed count => toString count ++ " unclosed tags"
  | .noTree error => error.message

/-- Whether a tag may follow a reference to a slot. -/
def mayFollow (slot : Slot) : Option Tag → Bool
  | some .arrayStart => slot.isArray
  | some tag => tag.fillsSlot
  | none => false

/-- Checks balance and what follows references, from a tag at an index and inside `depth` brackets.
-/
def scan (index depth : Nat) : List Tag → Except Defect Unit
  | [] => if depth = 0 then .ok () else .error (.unclosed depth)
  | tag :: rest =>
      let depth := if tag.opens then depth + 1 else depth
      if tag.closes && depth = 0 then .error (.unbalanced index)
      else
        let depth := if tag.closes then depth - 1 else depth
        match tag with
        | .reference slot =>
            if mayFollow slot rest.head? then scan (index + 1) depth rest
            else .error (.danglingReference index)
        | _ => scan (index + 1) depth rest

/-- Checks all rules of a finished stream. -/
def check (tags : List Tag) : Except Defect Unit :=
  match tags with
  | .doctype .. :: .openFragment _ :: _ =>
      match tags.getLast? with
      | some .closeFragment => do
          scan 0 0 tags
          match Node.ofTags tags with
          | .ok _ => .ok ()
          | .error error => .error (.noTree error)
      | _ => .error .notClosed
  | .doctype .. :: _ => .error .noFragment
  | _ => .error .noDoctype

def opensFragment : Tag → Bool
  | .openFragment _ => true
  | _ => false

def closesFragment : Tag → Bool
  | .closeFragment => true
  | _ => false

/-- The tags between the first opening and the last closing of a fragment. A missing bracket leaves
that side as it is. -/
def body (tags : List Tag) : List Tag :=
  let start := match tags.findIdx? opensFragment with
    | some index => index + 1
    | none => 0
  let fromEnd := match tags.reverse.findIdx? closesFragment with
    | some index => index + 1
    | none => 0
  (tags.take (tags.length - fromEnd)).drop start

def render (tags : List Tag) : List String :=
  tags.map Tag.display

end GrammarMachine.Stream
