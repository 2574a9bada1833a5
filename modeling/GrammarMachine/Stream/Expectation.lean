import GrammarMachine.Stream.Basic

/-!
Expectations on streams of tags, with a report where one is not met.
-/

namespace GrammarMachine.Stream

/-- What is expected of a stream. -/
inductive Expectation where
  | wellFormed
  | body (expected : List String)
  | length (expected : Nat)
  | lacks (kind : String)
  | sourceText (expected : String)

/-- Whether an expectation is met. Some failures come with a report. -/
inductive Verdict where
  | met
  | unmet
  | reported (report : String)

def Verdict.ofBool (met : Bool) : Verdict :=
  if met then .met else .unmet

/-- The tags one a line. -/
def listing (tags : List Tag) : String :=
  String.intercalate "\n" (render tags)

def Expectation.judge (tags : List Tag) : Expectation → Verdict
  | .wellFormed =>
      match check tags with
      | .ok _ => .met
      | .error defect =>
          .reported ("Malformed tag stream: " ++ defect.message ++ "\n" ++ listing tags)
  | .body expected => .ofBool (render (Stream.body tags) = expected)
  | .length expected => .ofBool (tags.length = expected)
  | .lacks kind =>
      match tags.findIdx? (·.kind = kind) with
      | none => .met
      | some index =>
          .reported ("Unexpected " ++ kind ++ " at " ++ toString index ++ ":\n" ++ listing tags)
  | .sourceText expected =>
      match Node.ofTags tags with
      | .ok fragment => .ofBool (fragment.sourceText = expected)
      | .error error => .reported error.message

end GrammarMachine.Stream
