import GrammarMachine.Tag.Basic

/-!
The listing of a stream: one tag a line, indented by the number of open nodes.
-/

namespace GrammarMachine.Format

/-- The lines of tags inside `depth` brackets. A closing tag that closes nothing is not indented. -/
def listingFrom (depth : Nat) : List Tag → List String
  | [] => []
  | tag :: rest =>
      let depth := if tag.closes then depth - 1 else depth
      (Json.indentation depth ++ tag.display ++ "\n") ::
        listingFrom (if tag.opens then depth + 1 else depth) rest

def listing (tags : List Tag) : String :=
  String.join (listingFrom 0 tags)

end GrammarMachine.Format
