import Colloquy.ToolCall

/-!
# Messages

A conversation is a list of messages, to which messages are only ever
added. A message has a role and parts – text, files of a managed folder,
JSON values – or, in their place, content in a provider's own form. What
is noted about a message, for instance the tool calls of an assistant
message, is kept with it as metadata.
-/

namespace Colloquy

/-- **Who speaks.** -/
inductive Role where
  /-- Instructions. -/
  | system
  /-- The person. -/
  | user
  /-- The model. -/
  | assistant
  /-- A tool. -/
  | tool
deriving DecidableEq, Repr, Inhabited

/-- The name of a role. -/
def Role.name : Role → String
  | .system => "system"
  | .user => "user"
  | .assistant => "assistant"
  | .tool => "tool"

/-- **Where the content of a file part comes from.** -/
inductive FileSource where
  /-- A file below the managed folder. -/
  | managed (path : String)
deriving DecidableEq, Repr, Inhabited

/-- **A part of a message.** -/
inductive Part where
  /-- Text. -/
  | text (text : String)
  /-- An image. -/
  | image (source : FileSource) (mime : String)
  /-- A file that is no image, perhaps with a name to show. -/
  | file (source : FileSource) (mime : String) (filename : Option String)
  /-- A JSON value. -/
  | json (value : Json)
deriving Repr, BEq, Inhabited

/-- The text of a text part. -/
def Part.text? : Part → Option String
  | .text s => some s
  | _ => none

/-- **A message.** -/
structure Message where
  /-- Who speaks. -/
  role : Role
  /-- The parts, in order. -/
  content : List Part := []
  /-- The tool whose result it is. -/
  name : Option String := none
  /-- The call whose result it is. -/
  toolCallId : Option String := none
  /-- Content in a provider's own form, sent in place of the parts. -/
  rawContent : Option Json := none
  /-- What is noted about the message. -/
  metadata : Json.Fields := []
deriving Repr, BEq, Inhabited

namespace Message

/-- A message with one text. -/
def ofText (role : Role) (s : String) : Message :=
  { role, content := [.text s] }

/-- What a person says. -/
def user (s : String) : Message := ofText .user s

/-- What the model says. -/
def assistant (s : String) : Message := ofText .assistant s

/-- An instruction. -/
def system (s : String) : Message := ofText .system s

/-- The result of a tool call. -/
def toolPart (callId name : String) (part : Part) : Message :=
  { role := .tool, content := [part], name := some name, toolCallId := some callId }

/-- A textual result of a tool call. -/
def toolText (callId name s : String) : Message :=
  toolPart callId name (.text s)

/-- A JSON result of a tool call. -/
def toolJson (callId name : String) (v : Json) : Message :=
  toolPart callId name (.json v)

/-- A message with a further note; one under the same name is replaced. -/
def note (m : Message) (name : String) (v : Json) : Message :=
  { m with metadata := m.metadata.insert name v }

/-- Under which name the calls of an assistant message are noted. -/
def toolCallsNote : String := "tool_calls"

/-- **What the model says when it asks for calls**, which are noted. -/
def assistantWithCalls (s : String) (calls : List ToolCall) : Message :=
  (assistant s).note toolCallsNote (.arr (calls.map ToolCall.toJson))

/-- The texts of a message, on lines of their own. -/
def text (m : Message) : String :=
  "\n".intercalate (m.content.filterMap Part.text?)

/-- **The calls noted with a message.** What is no call is passed over. -/
def toolCalls (m : Message) : List ToolCall :=
  match m.metadata.find? toolCallsNote with
  | some (.arr vs) => ToolCall.listOfJson vs
  | _ => []

/-- Whether anything is noted in the place of calls. -/
def hasToolCalls (m : Message) : Bool :=
  match m.metadata.find? toolCallsNote with
  | some (.arr vs) => !vs.isEmpty
  | _ => false

/-- Whether the message was added on behalf of a tool. -/
def isSynthetic (m : Message) : Bool :=
  ((m.metadata.find? "synthetic").bind Json.bool?).getD false

end Message

/-- **A conversation.** -/
structure Transcript where
  /-- Its messages, in order. -/
  messages : List Message := []
deriving Repr, BEq, Inhabited

/-- **What a tool may ask for besides its result.** -/
inductive Directive where
  /-- A message is to be added to the conversation. -/
  | append (message : Message)
deriving Repr, BEq, Inhabited

end Colloquy
