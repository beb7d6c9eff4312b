import Colloquy.DictLiteral.Reader
import Colloquy.DictLiteral.Words
import Colloquy.Fence
import Colloquy.Text.Preview

/-!
# Tool arguments

A model gives the arguments of a tool call as text, and the text is not
always the JSON object it should be. It is taken as it is, then without a
fence around it, then – for an object cut short – each of the two with the
missing closing braces added. Every candidate is read as JSON, and if it
is none as a dict literal. The first candidate that is an object gives the
arguments. A blank text stands for no arguments.

Braces are counted wherever they stand, inside strings as well, so a
repair may add too many or too few of them; it then just does not read.
-/

namespace Colloquy.Arguments

open Text (isBlankText trim)

/-- Whether a text that is not empty begins with an opening brace. -/
def opensBrace (cs : List Char) : Bool :=
  cs.head? == some '{'

/-- **An object cut short, repaired**: the closing braces it lacks are
added. A text without an opening brace in front, or with no brace missing,
has no repair. -/
def repair? (candidate : String) : Option String :=
  let cs := Text.trimChars candidate.toList
  let opened := cs.count '{'
  let closed := cs.count '}'
  if opensBrace cs && closed < opened then
    some (String.ofList (cs ++ List.replicate (opened - closed) '}'))
  else none

/-- What a candidate stands for, read as JSON, else as a dict literal. -/
def readCandidate? (candidate : String) : Option Json :=
  match Json.read candidate with
  | .ok v => some v
  | .error _ => DictLiteral.readChars (DictLiteral.respellWords candidate.toList)

/-- The object a candidate stands for. -/
def object? (candidate : String) : Option Json.Fields :=
  (readCandidate? candidate).bind Json.fields?

/-- The text itself, and the content of the fence around it. -/
def asGiven (payload : String) : List String :=
  if (Fence.after? Fence.fence (Text.trimChars payload.toList)).isSome then
    let content := Fence.body (trim payload)
    if content.isEmpty then [payload] else [payload, content]
  else [payload]

/-- **The candidates**, in the order they are tried: repairs come last. -/
def candidates (payload : String) : List String :=
  asGiven payload ++ (asGiven payload).filterMap repair?

/-- How many characters of a refused text are shown. -/
def previewLength : Nat := 220

/-- The complaint about a text that stands for no object. -/
def complaint (payload : String) : String :=
  "Tool call arguments must be a valid JSON object. Received arguments preview: "
    ++ Text.preview previewLength (Text.onOneLine (trim payload))

/-- **The arguments a text stands for**, or the complaint about it. -/
def read (payload : String) : Except String Json.Fields :=
  if isBlankText payload then .ok []
  else
    match (candidates payload).findSome? object? with
    | some fields => .ok fields
    | none => .error (complaint payload)

end Colloquy.Arguments
