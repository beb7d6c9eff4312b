import Colloquy.Decimal.Digits
import Colloquy.Text.Blank
import Colloquy.Text.Letters
import Colloquy.Text.Preview

/-!
# Redaction of data URLs

A log line carries no inline files. A data URL is recognised by its form –
`data:`, a run of characters as media types have them, `;base64,` and a run
of base64 characters – and is replaced, as a whole and as long as it can
be, by a placeholder that tells its length. URLs are looked for from left
to right, each behind the end of the one before.
-/

namespace Colloquy.Log

open Text (isAsciiLetter)
open Decimal (isDigit)

/-- The characters of a media type. -/
def isMediaChar (c : Char) : Bool :=
  isAsciiLetter c || isDigit c || c = '/' || c = '+' || c = '-' || c = '.'

/-- The characters of a base64 text. -/
def isBase64Char (c : Char) : Bool :=
  isAsciiLetter c || isDigit c || c = '+' || c = '/' || c = '='

/-- What a data URL begins with. -/
def scheme : List Char := ['d', 'a', 't', 'a', ':']

/-- What stands between the media type and the content. -/
def marker : List Char := [';', 'b', 'a', 's', 'e', '6', '4', ',']

/-- **The data URL a text begins with**, as long as it can be. A media type
holds no semicolon and so ends where the marker must begin. -/
def dataUrl? (cs : List Char) : Option (List Char) :=
  if scheme.isPrefixOf cs then
    let behind := cs.drop scheme.length
    let media := behind.takeWhile isMediaChar
    let rest := behind.drop media.length
    if media.isEmpty || !marker.isPrefixOf rest then none
    else
      let content := (rest.drop marker.length).takeWhile isBase64Char
      if content.isEmpty then none else some (scheme ++ media ++ marker ++ content)
  else none

/-- What a data URL of so many bytes is replaced by. -/
def placeholder (bytes : Nat) : List Char :=
  "[base64 data removed, ".toList ++ Decimal.digits bytes ++ " bytes]".toList

/-- The redaction of what remains of a text, so many characters of which
belong to a URL already replaced. -/
def redactFrom : Nat → List Char → List Char
  | _, [] => []
  | passed + 1, _ :: cs => redactFrom passed cs
  | 0, c :: cs =>
    match dataUrl? (c :: cs) with
    | some url => placeholder url.length ++ redactFrom (url.length - 1) cs
    | none => c :: redactFrom 0 cs

/-- **A text with its data URLs replaced.** -/
def redact (s : String) : String :=
  String.ofList (redactFrom 0 s.toList)

/-- **A preview for a log line**: trimmed, on one line, without data
URLs. -/
def preview (n : Nat) (s : String) : String :=
  Text.preview n (redact (Text.onOneLine (Text.trim s)))

end Colloquy.Log
