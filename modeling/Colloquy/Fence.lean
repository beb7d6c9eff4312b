import Colloquy.Json.Reader
import Colloquy.Text.Blank

/-!
# Fenced blocks

Models like to put their output between two fences, each of three back
quotes, the opening one perhaps followed by a tag that names a language.
`body` takes the block out of any tagged fence. `readFenced` reads a JSON
answer that may be fenced, where the only tag is `json`, in any case.
-/

namespace Colloquy.Fence

open Text (isBlank trimStart trimEnd trimChars)

/-- A fence: three back quotes. -/
def fence : List Char := List.replicate 3 '\x60'

/-- What follows a beginning, if the text has it. -/
def after? : List Char → List Char → Option (List Char)
  | [], cs => some cs
  | _ :: _, [] => none
  | d :: ds, c :: cs => if c = d then after? ds cs else none

/-- What precedes an ending, if the text has it. -/
def before? (ending cs : List Char) : Option (List Char) :=
  (after? ending.reverse cs.reverse).map List.reverse

/-- The characters a language tag is made of. -/
def isTagChar (c : Char) : Bool :=
  ('a' ≤ c && c ≤ 'z') || ('A' ≤ c && c ≤ 'Z') || ('0' ≤ c && c ≤ '9')
    || c = '-' || c = '_' || c = '+'

/-- **The content of a fenced text**: without the opening fence, its tag,
the closing fence if there is one, and the blanks around all of these. A
text that does not begin with a fence is only trimmed. -/
def content (cs : List Char) : List Char :=
  let trimmed := trimChars cs
  match after? fence trimmed with
  | none => trimmed
  | some rest =>
    let body := trimChars (rest.dropWhile isTagChar)
    trimChars ((before? fence body).getD body)

/-- The content of a fenced string. -/
def body (s : String) : String :=
  String.ofList (content s.toList)

/-- Whether a character is a letter of the tag `json`, whatever its case.
The long s is a form of the letter s. -/
def isTagLetter (letter c : Char) : Bool :=
  c = letter || c.toNat + 32 = letter.toNat || (letter = 's' && c = '\u017f')

/-- What follows the tag `json`, if the text begins with it. -/
def afterJsonTag? : List Char → Option (List Char)
  | a :: b :: c :: d :: rest =>
    if isTagLetter 'j' a && isTagLetter 's' b && isTagLetter 'o' c && isTagLetter 'n' d then
      some rest
    else none
  | _ => none

/-- A text without an opening fence tagged `json`, and the blanks behind
it. -/
def dropTaggedFence (cs : List Char) : List Char :=
  match (after? fence cs).bind afterJsonTag? with
  | some rest => trimStart rest
  | none => cs

/-- A text without an opening fence that has no tag, and the blanks behind
it. -/
def dropPlainFence (cs : List Char) : List Char :=
  match after? fence cs with
  | some rest => trimStart rest
  | none => cs

/-- A text without its closing fence, and the blanks in front of it. -/
def dropClosingFence (cs : List Char) : List Char :=
  match before? fence cs with
  | some rest => trimEnd rest
  | none => cs

/-- **A text without the fences of a JSON answer.** A tagged fence may be
followed by one without a tag; both are dropped. -/
def unfence (cs : List Char) : List Char :=
  dropClosingFence (dropPlainFence (dropTaggedFence (trimChars cs)))

/-- The fault of a text, worded. -/
def readWorded (cs : List Char) : Except String Json :=
  (Json.readChars cs).mapError (Json.Fault.message cs)

/-- **Reading a JSON answer** as it is, and if that fails without its
fences. When both fail it is the second failure that counts. -/
def readFenced (s : String) : Except String Json :=
  match Json.readChars s.toList with
  | .ok v => .ok v
  | .error _ => readWorded (unfence s.toList)

end Colloquy.Fence
