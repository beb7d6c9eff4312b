import Colloquy.Files.Base64
import Colloquy.Files.Resolve
import Colloquy.Provider.Request

/-!
# Rendering messages

How a conversation is put before a provider. System messages become
instructions above it, tool messages become outputs of tools, everything
else keeps its role and is a bare text or a list of parts.

Images and files are read when they are rendered and are sent inside of
data URLs. They come from one folder only: a path is followed through all
links, and what it leads to must be a regular file below the folder. A
part whose file is not to be had is left out.
-/

namespace Colloquy

open Provider (Mode ContentPart Content Item)

/-- **The folder that files may come from.** -/
inductive ManagedRoot where
  /-- A folder that was found, with no links on the way to it. -/
  | found (place : Files.Path)
  /-- A path that led nowhere. -/
  | missing (path : String)
deriving DecidableEq, Repr

namespace ManagedRoot

/-- The folder a path names, looked for once. -/
def ofPath (fs : Files) (path : String) : ManagedRoot :=
  match fs.locate path with
  | .ok place => .found place
  | .error _ => .missing path

/-- The components of a path that go anywhere. -/
def steps (path : String) : List String :=
  (Files.components path).filter fun c => !(c = "" || c = ".")

/-- **Whether a place is below the folder.** A path that led nowhere is
compared as it is written; an empty one has everything below it. -/
def contains : ManagedRoot → Files.Path → Bool
  | .found root, place => root.isPrefixOf place
  | .missing path, place =>
    path.isEmpty || (Files.isAbsolute path && (steps path).isPrefixOf place)

/-- Where a relative path leads from the folder. -/
def follow (fs : Files) (root : ManagedRoot) (path : String) : Except Files.Error Files.Path :=
  if path.toList.contains '\x00' then .error .badName
  else
    match root with
    | .found place => Files.walk fs.tree false Files.mostLinks place (Files.components path)
    | .missing rootPath =>
      if rootPath.isEmpty then fs.locate path else fs.locate (rootPath ++ "/" ++ path)

end ManagedRoot

/-- **What rendering depends on**: the family of the provider and the
folder that files may come from. -/
structure Renderer where
  /-- The family of the provider. -/
  mode : Mode
  /-- The folder that files may come from, if any may come at all. -/
  root : Option ManagedRoot := none
  /-- The file system. -/
  files : Files := {}

/-- **The parts of a tool message as one text**: a text as it is, a JSON
value in its compact form, anything else as a JSON list of the parts, each
with its fields in the order it declares them. -/
def partsText (parts : List Part) : String :=
  match parts with
  | [.text s] => s
  | [.json v] => v.compact
  | _ => String.ofList (Part.printList parts)

/-- Instructions: the texts of the system messages that are not blank,
with an empty line between them. -/
def instructions (messages : List Message) : Option String :=
  let texts :=
    ((messages.filter fun m => m.role == .system).map Message.text).filter fun s =>
      !Text.isBlankText s
  if texts.isEmpty then none else some ("\n\n".intercalate texts)

namespace Renderer

/-- A renderer for a family, with a folder given by its path. -/
def make (mode : Mode) (files : Files) (root : Option String) : Renderer where
  mode := mode
  root := root.map (ManagedRoot.ofPath files)
  files := files

/-- **The file a managed path names**: it must be relative, and lead to a
regular file below the folder. -/
def resolve? (r : Renderer) (path : String) : Option Files.Path :=
  match r.root with
  | none => none
  | some root =>
    if Text.isBlankText path || Files.isAbsolute path then none
    else
      match root.follow r.files path with
      | .error _ => none
      | .ok place =>
        if root.contains place && (r.files.bytesAt? place).isSome then some place else none

/-- What the media type is when none is given. -/
def plainMime : String := "application/octet-stream"

/-- **A data URL.** -/
def dataUrl (mime : String) (bytes : List UInt8) : String :=
  "data:" ++ (if Text.isBlankText mime then plainMime else mime) ++ ";base64,"
    ++ String.ofList (Files.base64 bytes)

/-- A managed file: the name it has where it was found, and its bytes. -/
def fileOf? (r : Renderer) : FileSource → Option (String × List UInt8)
  | .managed path => do
    let place ← r.resolve? path
    let bytes ← r.files.bytesAt? place
    some (place.getLast?.getD "", bytes)

/-- An image part in the provider's form. -/
def imagePart (mode : Mode) (url : String) : ContentPart :=
  match mode with
  | .chatCompletions => .imageUrl url
  | .responses => .inputImage url

/-- A file part in the provider's form. -/
def filePart (mode : Mode) (filename url : String) : ContentPart :=
  match mode with
  | .chatCompletions => .file filename url
  | .responses => .inputFile filename url

/-- A text part in the provider's form. -/
def textPart (mode : Mode) (s : String) : ContentPart :=
  match mode with
  | .chatCompletions => .text s
  | .responses => .inputText s

/-- **A part in the provider's form.** There is none for a file that is not
to be had. -/
def part? (r : Renderer) : Part → Option ContentPart
  | .text s => some (textPart r.mode s)
  | .json v => some (.json v)
  | .image source mime =>
    (r.fileOf? source).map fun (_, bytes) => imagePart r.mode (dataUrl mime bytes)
  | .file source mime filename =>
    (r.fileOf? source).map fun (name, bytes) =>
      filePart r.mode (filename.getD name) (dataUrl mime bytes)

/-- **Parts in the provider's form**: a single text is sent bare. -/
def content (r : Renderer) : List Part → Content
  | [.text s] => .text s
  | parts => .parts (parts.filterMap r.part?)

/-- **A message in the provider's form.** -/
def item (r : Renderer) (m : Message) : Item :=
  match m.role with
  | .tool => .toolResult (m.name.getD "tool") (m.toolCallId.getD "") (partsText m.content)
  | role =>
    .message role
      (match m.rawContent with
       | some v => .raw v
       | none => r.content m.content)
      m.toolCalls

/-- **A conversation in the provider's form**, without the system
messages. -/
def items (r : Renderer) (messages : List Message) : List Item :=
  (messages.filter fun m => m.role != .system).map r.item

end Renderer

end Colloquy
