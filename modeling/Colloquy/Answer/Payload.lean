import Colloquy.Json.Decode

/-!
# Structured answers

The form a final answer has when one is asked for: what is to be shown, as
what kind of text, and whether it is to be shown at all. An answer has one
normal form as JSON, in which every entry is there; the only hint that may
be missing is the one about link previews.
-/

namespace Colloquy

/-- **What kind of text an answer is.** -/
inductive Answer.Kind where
  /-- Plain text. -/
  | text
  /-- HTML. -/
  | html
  /-- Markdown. -/
  | markdown
deriving DecidableEq, Repr, Inhabited

/-- **A structured answer.** -/
structure Answer where
  /-- What kind of text the content is. -/
  kind : Answer.Kind
  /-- What is to be shown. -/
  content : String
  /-- Whether links are to be shown without a preview, if that matters. -/
  disableLinkPreview : Option Bool := none
  /-- Whether the person is to be answered at all. -/
  shouldAnswer : Bool
  /-- What is attached. -/
  attachments : List Json.Fields := []
deriving Repr, BEq, Inhabited

namespace Answer

open Json.Decode (choice list needed withDefault whenGiven nullable)

/-- The name of a kind. -/
def Kind.name : Kind → String
  | .text => "text"
  | .html => "html"
  | .markdown => "markdown"

/-- All kinds. -/
def Kind.all : List Kind := [.text, .html, .markdown]

/-- The kinds by their names. -/
def Kind.byName : List (String × Kind) :=
  all.map fun k => (k.name, k)

/-- The hints as JSON. -/
def metaJson (a : Answer) : Json :=
  .ofFields <|
    match a.disableLinkPreview with
    | some b => [("disable_link_preview", .bool b)]
    | none => []

/-- **The normal form of an answer.** -/
def toJson (a : Answer) : Json :=
  .ofFields
    [("answer",
        .ofFields
          [("kind", .str a.kind.name), ("content", .str a.content), ("meta", a.metaJson)]),
     ("should_answer_to_user", .bool a.shouldAnswer),
     ("attachments", .arr (a.attachments.map .obj))]

/-- **A text put into the form of an answer**, as the engine itself does
it: only the needed entries are there. -/
def plain (content : String) : Json :=
  .ofFields
    [("answer", .ofFields [("kind", .str "text"), ("content", .str content)]),
     ("should_answer_to_user", .bool true)]

/-- **A text of the engine's own**, in the form that is asked for. -/
def ownText (structured : Bool) (content : String) : Json :=
  if structured then plain content else .str content

/-- How the hints are laid out. -/
def metaLayout : Json.Decode.Record where
  title := "struct AnswerMeta"
  strict := true
  rules := [.allows "disable_link_preview" (nullable Json.Decode.flag)]

/-- The hints from JSON. -/
def metaOfJson (v : Json) : Except Json.Mismatch (Option Bool) := do
  let fields ← metaLayout.read v
  whenGiven fields "disable_link_preview" Json.Decode.flag

/-- What the inner object of an answer holds. -/
structure Body where
  /-- What kind of text the content is. -/
  kind : Kind
  /-- What is to be shown. -/
  content : String
  /-- Whether links are to be shown without a preview. -/
  disableLinkPreview : Option Bool

/-- How the inner object is laid out. -/
def bodyLayout : Json.Decode.Record where
  title := "struct AssistantAnswer"
  strict := true
  rules :=
    [.needs "kind" (choice false Kind.byName), .needs "content" Json.Decode.text,
     .allows "meta" (nullable metaOfJson)]

/-- The inner object from JSON. -/
def bodyOfJson (v : Json) : Except Json.Mismatch Body := do
  let fields ← bodyLayout.read v
  let kind ← needed fields "kind" (choice false Kind.byName)
  let content ← needed fields "content" Json.Decode.text
  let hint ← whenGiven fields "meta" metaOfJson
  .ok ⟨kind, content, hint.join⟩

/-- How an answer is laid out. -/
def layout : Json.Decode.Record where
  title := "struct AssistantPayload"
  strict := true
  rules :=
    [.needs "answer" bodyOfJson, .needs "should_answer_to_user" Json.Decode.flag,
     .allows "attachments" (nullable (list Json.Decode.fields))]

/-- **An answer from JSON.** -/
def ofJson (v : Json) : Except Json.Mismatch Answer := do
  let fields ← layout.read v
  let body ← needed fields "answer" bodyOfJson
  let shouldAnswer ← needed fields "should_answer_to_user" Json.Decode.flag
  let attachments ← whenGiven fields "attachments" (list Json.Decode.fields)
  .ok {
    kind := body.kind, content := body.content
    disableLinkPreview := body.disableLinkPreview
    shouldAnswer, attachments := attachments.getD [] }

end Answer

end Colloquy
