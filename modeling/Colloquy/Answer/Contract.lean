import Colloquy.Answer.Payload
import Colloquy.Text.Blank

/-!
# The contract of structured answers

What a model's answer must be like to be taken. All that is wrong with it
is listed, so that the model can mend everything at once; an answer with
nothing wrong in it decodes.
-/

namespace Colloquy.Answer

/-- **One thing wrong with an answer**, and where. -/
inductive Violation where
  /-- The answer is no object. -/
  | notAnObject
  /-- An entry that does not belong there. -/
  | unexpected (path : String)
  /-- An entry that is missing. -/
  | required (path : String)
  /-- An entry of the wrong kind. -/
  | mustBe (path what : String)
  /-- A kind of text that is none. -/
  | unknownKind (kind : String)
  /-- No kind of text. -/
  | noKind
  /-- Nothing to show. -/
  | blankContent
deriving DecidableEq, Repr

/-- The kinds of text, listed. -/
def kindNames : String := ", ".intercalate (Kind.all.map Kind.name)

/-- How the model is told about a violation. -/
def Violation.message : Violation → String
  | .notAnObject => "payload: must be a JSON object"
  | .unexpected path => s!"{path}: unexpected field"
  | .required path => s!"{path}: field required"
  | .mustBe path what => s!"{path}: must be {what}"
  | .unknownKind kind => s!"answer.kind: '{kind}' is not one of {kindNames}"
  | .noKind => s!"answer.kind: must be one of {kindNames}"
  | .blankContent => "answer.content: must not be empty"

/-- The entries of an object that do not belong there. -/
def unexpectedFields (fields : Json.Fields) (known : List String) (above : String) :
    List Violation :=
  (fields.names.filter fun name => !known.contains name).map fun name =>
    .unexpected (above ++ name)

/-- What is wrong with the kind of text. -/
def kindViolations (v : Option Json) : List Violation :=
  match v.bind Json.string? with
  | some s => if (Kind.byName.lookup s).isSome then [] else [.unknownKind s]
  | none => [.noKind]

/-- What is wrong with the content. -/
def contentViolations : Option Json → List Violation
  | some (.str s) => if Text.isBlankText s then [.blankContent] else []
  | some _ => [.mustBe "answer.content" "a string"]
  | none => [.required "answer.content"]

/-- What is wrong with the hint about link previews. -/
def previewViolations : Option Json → List Violation
  | none | some .null | some (.bool _) => []
  | some _ => [.mustBe "answer.meta.disable_link_preview" "a boolean"]

/-- What is wrong with the hints. -/
def metaViolations : Option Json → List Violation
  | none | some .null => []
  | some (.obj fields) =>
    unexpectedFields fields ["disable_link_preview"] "answer.meta."
      ++ previewViolations (Json.Fields.find? fields "disable_link_preview")
  | some _ => [.mustBe "answer.meta" "an object"]

/-- What is wrong with the inner object. -/
def bodyViolations : Option Json → List Violation
  | none => [.required "answer"]
  | some (.obj fields) =>
    unexpectedFields fields ["kind", "content", "meta"] "answer."
      ++ kindViolations (Json.Fields.find? fields "kind")
      ++ contentViolations (Json.Fields.find? fields "content")
      ++ metaViolations (Json.Fields.find? fields "meta")
  | some _ => [.mustBe "answer" "an object"]

/-- What is wrong with the flag. -/
def flagViolations : Option Json → List Violation
  | some (.bool _) => []
  | some _ => [.mustBe "should_answer_to_user" "a boolean"]
  | none => [.required "should_answer_to_user"]

/-- What is wrong with the items of the attachments, counted from one
number on. -/
def itemViolations : Nat → List Json → List Violation
  | _, [] => []
  | n, .obj _ :: rest => itemViolations (n + 1) rest
  | n, _ :: rest => .mustBe s!"attachments[{n}]" "an object" :: itemViolations (n + 1) rest

/-- What is wrong with the attachments. -/
def attachmentViolations : Option Json → List Violation
  | none | some .null => []
  | some (.arr items) => itemViolations 0 items
  | some _ => [.mustBe "attachments" "a list"]

/-- **All that is wrong with an answer.** -/
def violations : Json → List Violation
  | .obj fields =>
    unexpectedFields fields ["answer", "should_answer_to_user", "attachments"] ""
      ++ bodyViolations (Json.Fields.find? fields "answer")
      ++ flagViolations (Json.Fields.find? fields "should_answer_to_user")
      ++ attachmentViolations (Json.Fields.find? fields "attachments")
  | _ => [.notAnObject]

end Colloquy.Answer
