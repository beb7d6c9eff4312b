import Colloquy.Decimal.Shortest
import Colloquy.Message.Codec
import Colloquy.Tool.Basic

/-!
# Requests

What a provider is asked. There are two families of providers. A chat
provider is sent the whole conversation each time; a responses provider
keeps it, so that a request may name the response it follows and then
carries only what is new. The families also differ in the form of texts,
images, files and tool outputs.
-/

namespace Colloquy.Provider

/-- **The two families of providers.** -/
inductive Mode where
  /-- The whole conversation each time. -/
  | chatCompletions
  /-- Only what is new, behind an earlier response. -/
  | responses
deriving DecidableEq, Repr, Inhabited

namespace Mode

/-- The name of a family. -/
def name : Mode → String
  | .chatCompletions => "chat_completions"
  | .responses => "responses"

/-- The families by their names. -/
def byName : List (String × Mode) :=
  [Mode.chatCompletions, .responses].map fun m => (m.name, m)

/-- A family from its name. -/
def ofJson : Json.Decoder Mode :=
  Json.Decode.choice false byName

end Mode

/-- **A part of what is said, in a provider's form.** -/
inductive ContentPart where
  /-- Text, for a chat provider. -/
  | text (text : String)
  /-- Text, for a responses provider. -/
  | inputText (text : String)
  /-- A JSON value. -/
  | json (value : Json)
  /-- An image, for a chat provider. -/
  | imageUrl (url : String)
  /-- A file, for a chat provider. -/
  | file (filename data : String)
  /-- An image, for a responses provider. -/
  | inputImage (url : String)
  /-- A file, for a responses provider. -/
  | inputFile (filename data : String)
deriving Repr, BEq, Inhabited

/-- A part as JSON. -/
def ContentPart.toJson : ContentPart → Json
  | .text s => .ofFields [("type", .str "text"), ("text", .str s)]
  | .inputText s => .ofFields [("type", .str "input_text"), ("text", .str s)]
  | .json v => .ofFields [("type", .str "json"), ("value", v)]
  | .imageUrl url =>
    .ofFields [("type", .str "image_url"), ("image_url", .ofFields [("url", .str url)])]
  | .file filename data =>
    .ofFields
      [("type", .str "file"),
       ("file", .ofFields [("filename", .str filename), ("file_data", .str data)])]
  | .inputImage url => .ofFields [("type", .str "input_image"), ("image_url", .str url)]
  | .inputFile filename data =>
    .ofFields [("type", .str "input_file"), ("filename", .str filename), ("file_data", .str data)]

/-- **What is said, in a provider's form.** -/
inductive Content where
  /-- A bare text. -/
  | text (text : String)
  /-- Parts. -/
  | parts (parts : List ContentPart)
  /-- The provider's own form, passed on as it is. -/
  | raw (value : Json)
deriving Repr, BEq, Inhabited

/-- Content as JSON. -/
def Content.toJson : Content → Json
  | .text s => .str s
  | .parts ps => .arr (ps.map ContentPart.toJson)
  | .raw v => v

/-- **An entry of a request.** -/
inductive Item where
  /-- A message. -/
  | message (role : Role) (content : Content) (toolCalls : List ToolCall)
  /-- The output of a tool, for a chat provider. -/
  | toolResult (name callId content : String)
  /-- The output of a tool, for a responses provider. -/
  | callOutput (callId output : String)
deriving Repr, BEq, Inhabited

namespace Item

/-- A message with a bare text. -/
def ofText (role : Role) (s : String) : Item :=
  .message role (.text s) []

/-- Who speaks. The output of a tool has no role for a responses
provider. -/
def role? : Item → Option Role
  | .message role _ _ => some role
  | .toolResult _ _ _ => some .tool
  | .callOutput _ _ => none

/-- The text of a tool's output. -/
def toolOutput? : Item → Option String
  | .message _ _ _ => none
  | .toolResult _ _ content => some content
  | .callOutput _ output => some output

/-- An entry as JSON. -/
def toJson : Item → Json
  | .message role content calls =>
    .ofFields <| [("role", .str role.name), ("content", content.toJson)]
      ++ (if calls.isEmpty then [] else [("tool_calls", .arr (calls.map ToolCall.toWire))])
  | .toolResult name callId content =>
    .ofFields
      [("role", .str "tool"), ("tool_call_id", .str callId), ("name", .str name),
       ("content", .str content)]
  | .callOutput callId output =>
    .ofFields
      [("type", .str "function_call_output"), ("call_id", .str callId), ("output", .str output)]

end Item

/-- **How the model is asked**, for all requests alike. -/
structure Sampling where
  /-- The most tokens an answer may take. -/
  maxOutputTokens : Option Nat := none
  /-- The sampling temperature. -/
  temperature : Option Decimal.Single := none
  /-- How much reasoning is asked for. -/
  reasoningEffort : Option String := none
deriving Repr, BEq, Inhabited

/-- **A request.** -/
structure Request where
  /-- The conversation, or what is new of it. -/
  messages : List Item := []
  /-- Instructions that stand above the conversation. -/
  instructions : Option String := none
  /-- The tools on offer. -/
  tools : List Tool.Definition := []
  /-- The form the final answer must have. -/
  responseSchema : Option Json := none
  /-- The key under which the provider caches the prompt. -/
  promptCacheKey : Option String := none
  /-- The response that this request follows. -/
  previousResponseId : Option String := none
  /-- How the model is asked. -/
  sampling : Sampling := {}
deriving Repr, BEq, Inhabited

/-- **A request as JSON**: what is not set is null; the schema is left out
if there is none. -/
def Request.toJson (r : Request) : Json :=
  .ofFields <|
    [("messages", .arr (r.messages.map Item.toJson)),
     ("instructions", .ofString? r.instructions),
     ("tools", .arr (r.tools.map Tool.Definition.toJson)),
     ("prompt_cache_key", .ofString? r.promptCacheKey),
     ("previous_response_id", .ofString? r.previousResponseId),
     ("max_output_tokens", .ofNat? r.sampling.maxOutputTokens),
     ("temperature", .ofString? (r.sampling.temperature.map Decimal.Extended.display)),
     ("reasoning_effort", .ofString? r.sampling.reasoningEffort)]
      ++ Json.optional "response_schema" r.responseSchema

end Colloquy.Provider
