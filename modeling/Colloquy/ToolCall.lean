import Colloquy.Arguments
import Colloquy.Json.Decode
import Colloquy.Json.Printer
import Colloquy.Tool.Failure

/-!
# Tool calls

A call that a model asks for: an id to tell its result by, the name of the
tool, and the arguments, as text or as an object already. Some providers
send the arguments in a block of their own, which may also hold the id
that the result must carry.

A call has two JSON forms. The one in which messages keep it can be read
again (`toJson`, `ofJson`); the other one is what a chat provider is sent
(`toWire`), where the arguments are always text.
-/

namespace Colloquy

/-- **The arguments of a call, as given.** -/
inductive ToolCall.Arguments where
  /-- A text that should be a JSON object. -/
  | text (text : String)
  /-- An object. -/
  | object (fields : Json.Fields)
deriving Repr, BEq, Inhabited

/-- **A call that a model asks for.** -/
structure ToolCall where
  /-- The id of the call. -/
  id : String
  /-- The name of the tool, empty if the model gave none. -/
  name : String := ""
  /-- The arguments. -/
  arguments : ToolCall.Arguments := .text ""
  /-- The provider's own block. -/
  input : Option Json.Fields := none
deriving Repr, BEq, Inhabited

namespace ToolCall

/-- Arguments as a JSON value. -/
def Arguments.toJson : Arguments → Json
  | .text s => .str s
  | .object fields => .obj fields

/-- Arguments from a JSON value: a string or an object. -/
def Arguments.ofJson : Json.Decoder Arguments
  | .str s => .ok (.text s)
  | .obj fields => .ok (.object fields)
  | v => Json.notA "a string or a map" v

/-- **The form in which messages keep a call.** The block is only there if
the provider sent one. -/
def toJson (c : ToolCall) : Json :=
  .ofFields <|
    [("id", .str c.id), ("name", .str c.name), ("arguments", c.arguments.toJson)]
      ++ (match c.input with
          | some fields => [("input", .obj fields)]
          | none => [])

/-- How a call is laid out. -/
def layout : Json.Decode.Record where
  title := "struct ProviderToolCall"
  rules :=
    [.needs "id" Json.Decode.text, .allows "name" Json.Decode.text,
     .allows "arguments" Arguments.ofJson,
     .allows "input" (Json.Decode.nullable Json.Decode.fields)]

/-- **A call from the form in which messages keep it.** -/
def ofJson (v : Json) : Except Json.Mismatch ToolCall := do
  let fields ← layout.read v
  .ok {
    id := ← Json.Decode.needed fields "id" Json.Decode.text
    name := ← Json.Decode.withDefault fields "name" "" Json.Decode.text
    arguments := ← Json.Decode.withDefault fields "arguments" (.text "") Arguments.ofJson
    input := ← Json.Decode.whenGiven fields "input" Json.Decode.fields }

/-- The calls in a list of values; what is no call is passed over. -/
def listOfJson (vs : List Json) : List ToolCall :=
  vs.filterMap fun v => (ofJson v).toOption

/-- The arguments as the text a chat provider is sent. -/
def argumentText (c : ToolCall) : String :=
  match c.arguments with
  | .text s => s
  | .object fields => (Json.obj fields).compact

/-- **The form a chat provider is sent.** -/
def toWire (c : ToolCall) : Json :=
  .ofFields
    [("id", .str c.id), ("type", .str "function"),
     ("function", .ofFields [("name", .str c.name), ("arguments", .str c.argumentText)])]

/-- **What a call comes down to**: the name of a tool and an object. Where
the text of the arguments is blank, the provider's block takes its
place. -/
def resolve (c : ToolCall) : Except Tool.Failure (String × Json.Fields) :=
  if c.name.isEmpty then .error ⟨.executionFailed, "Tool call missing name"⟩
  else
    match c.arguments with
    | .object fields => .ok (c.name, fields)
    | .text s =>
      if Text.isBlankText s then .ok (c.name, c.input.getD [])
      else
        match Colloquy.Arguments.read s with
        | .ok fields => .ok (c.name, fields)
        | .error complaint => .error ⟨.invalidArguments, complaint⟩

/-- The id in the provider's block, if it is not empty. -/
def inputId? (c : ToolCall) : Option String :=
  ((c.input.bind fun fields => fields.find? "call_id").bind Json.string?).filter
    fun s => !s.isEmpty

end ToolCall

end Colloquy
