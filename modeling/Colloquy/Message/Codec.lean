import Colloquy.Message.Basic

/-!
# Messages as JSON

Parts and file sources are tagged records. Of the entries that a message
need not have only those that are there are written, and of the metadata
only what is noted. A null in the place of such an entry reads as none.
-/

namespace Colloquy

open Json (Decoder Mismatch)
open Json.Decode (choice tagged list needed withDefault whenGiven nullable)

/-- An entry that is written only if it is there. -/
def Json.optional (name : String) (v : Option Json) : List (String × Json) :=
  match v with
  | some v => [(name, v)]
  | none => []

namespace Role

/-- The roles by their names. -/
def byName : List (String × Role) :=
  [Role.system, .user, .assistant, .tool].map fun r => (r.name, r)

/-- A role from its name. -/
def ofJson (aside : Bool) : Decoder Role :=
  choice aside byName

end Role

namespace FileSource

/-- A file source as JSON. -/
def toJson : FileSource → Json
  | .managed path => .ofFields [("type", .str "managed_file"), ("path", .str path)]

/-- How the one kind of source is laid out. -/
def layout : Json.Decode.Record where
  title := "struct variant FileSource::ManagedFile"
  rules := [.needs "path" Json.Decode.text]
  aside := true

/-- A file source from JSON. -/
def ofJson (aside : Bool) (v : Json) : Except Mismatch FileSource := do
  let ((), w) ← tagged "FileSource" aside [("managed_file", ())] v
  let fields ← layout.read w
  .ok (.managed (← needed fields "path" Json.Decode.text))

end FileSource

namespace Part

/-- **A part as JSON.** -/
def toJson : Part → Json
  | .text s => .ofFields [("type", .str "text"), ("text", .str s)]
  | .image source mime =>
    .ofFields [("type", .str "image"), ("source", source.toJson), ("mime", .str mime)]
  | .file source mime filename =>
    .ofFields <| [("type", .str "file"), ("source", source.toJson), ("mime", .str mime)]
      ++ Json.optional "filename" (filename.map .str)
  | .json v => .ofFields [("type", .str "json"), ("value", v)]

/-- Fields as text, in the order they are given. -/
def printFields (entries : List (String × List Char)) : List Char :=
  '{' :: (List.intercalate [','] (entries.map fun e => Json.printString e.1 ++ ':' :: e.2)
    ++ ['}'])

/-- A file source as text. -/
def printSource : FileSource → List Char
  | .managed path =>
    printFields [("type", Json.printString "managed_file"), ("path", Json.printString path)]

/-- **A part as text**, its fields in the order it declares them. -/
def print : Part → List Char
  | .text s => printFields [("type", Json.printString "text"), ("text", Json.printString s)]
  | .image source mime =>
    printFields
      [("type", Json.printString "image"), ("source", printSource source),
       ("mime", Json.printString mime)]
  | .file source mime filename =>
    printFields <|
      [("type", Json.printString "file"), ("source", printSource source),
       ("mime", Json.printString mime)]
        ++ (match filename with
            | some name => [("filename", Json.printString name)]
            | none => [])
  | .json v => printFields [("type", Json.printString "json"), ("value", v.print)]

/-- A list of parts as text. -/
def printList (parts : List Part) : List Char :=
  '[' :: (List.intercalate [','] (parts.map print) ++ [']'])

/-- The four kinds of parts. -/
inductive Kind where
  /-- Text. -/
  | text
  /-- An image. -/
  | image
  /-- A file that is no image. -/
  | file
  /-- A JSON value. -/
  | json

/-- The kinds by their names. -/
def Kind.byName : List (String × Kind) :=
  [("text", .text), ("image", .image), ("file", .file), ("json", .json)]

/-- How a kind of part is laid out. -/
def Kind.layout : Kind → Json.Decode.Record
  | .text =>
    { title := "struct variant Part::Text", aside := true
      rules := [.needs "text" Json.Decode.text] }
  | .image =>
    { title := "struct variant Part::Image", aside := true
      rules := [.needs "source" (FileSource.ofJson true), .needs "mime" Json.Decode.text] }
  | .file =>
    { title := "struct variant Part::File", aside := true
      rules :=
        [.needs "source" (FileSource.ofJson true), .needs "mime" Json.Decode.text,
         .allows "filename" (nullable Json.Decode.text)] }
  | .json =>
    { title := "struct variant Part::Json", aside := true
      rules := [.needs "value" Json.Decode.any] }

/-- A part of a kind from its fields. -/
def ofFields (kind : Kind) (fields : Json.Fields) : Except Mismatch Part :=
  match kind with
  | .text => do .ok (.text (← needed fields "text" Json.Decode.text))
  | .image => do
    .ok (.image (← needed fields "source" (FileSource.ofJson true))
      (← needed fields "mime" Json.Decode.text))
  | .file => do
    .ok (.file (← needed fields "source" (FileSource.ofJson true))
      (← needed fields "mime" Json.Decode.text) (← whenGiven fields "filename" Json.Decode.text))
  | .json => do .ok (.json (← needed fields "value" Json.Decode.any))

/-- **A part from JSON.** -/
def ofJson (aside : Bool) (v : Json) : Except Mismatch Part := do
  let (kind, w) ← tagged "Part" aside Kind.byName v
  ofFields kind (← kind.layout.read w)

end Part

namespace Message

/-- The entries of a message, in the order it declares them. -/
def entries (m : Message) : List (String × Json) :=
  [("role", .str m.role.name), ("content", .arr (m.content.map Part.toJson))]
    ++ Json.optional "name" (m.name.map .str)
    ++ Json.optional "tool_call_id" (m.toolCallId.map .str)
    ++ Json.optional "raw_content" m.rawContent
    ++ (if m.metadata.isEmpty then [] else [("metadata", .obj m.metadata)])

/-- **A message as JSON.** -/
def toJson (m : Message) : Json :=
  .ofFields m.entries

/-- How a message is laid out. -/
def layout (aside : Bool) : Json.Decode.Record where
  title := "struct Message"
  aside := aside
  rules :=
    [.needs "role" (Role.ofJson aside), .allows "content" (list (Part.ofJson aside)),
     .allows "name" (nullable Json.Decode.text), .allows "tool_call_id" (nullable Json.Decode.text),
     .allows "raw_content" Json.Decode.any, .allows "metadata" Json.Decode.fields]

/-- **A message from JSON.** -/
def ofJson (aside : Bool) (v : Json) : Except Mismatch Message := do
  let found ← (layout aside).read v
  .ok {
    role := ← needed found "role" (Role.ofJson aside)
    content := ← withDefault found "content" [] (list (Part.ofJson aside))
    name := ← whenGiven found "name" Json.Decode.text
    toolCallId := ← whenGiven found "tool_call_id" Json.Decode.text
    rawContent := ← whenGiven found "raw_content" Json.Decode.any
    metadata := ← withDefault found "metadata" [] Json.Decode.fields }

end Message

namespace Transcript

/-- A conversation as JSON. -/
def toJson (t : Transcript) : Json :=
  .ofFields [("messages", .arr (t.messages.map Message.toJson))]

/-- How a conversation is laid out. -/
def layout : Json.Decode.Record where
  title := "struct State"
  rules := [.needs "messages" (list (Message.ofJson false))]

/-- **A conversation from JSON.** -/
def ofJson (v : Json) : Except Mismatch Transcript := do
  let fields ← layout.read v
  .ok ⟨← needed fields "messages" (list (Message.ofJson false))⟩

end Transcript

namespace Directive

/-- A directive as JSON. -/
def toJson : Directive → Json
  | .append m => .ofFields [("type", .str "append_message"), ("message", m.toJson)]

/-- How the one kind of directive is laid out. -/
def layout : Json.Decode.Record where
  title := "struct variant Directive::AppendMessage"
  rules := [.needs "message" (Message.ofJson true)]
  aside := true

/-- **A directive from JSON.** -/
def ofJson (v : Json) : Except Mismatch Directive := do
  let ((), w) ← tagged "Directive" false [("append_message", ())] v
  let fields ← layout.read w
  .ok (.append (← needed fields "message" (Message.ofJson true)))

end Directive

end Colloquy
