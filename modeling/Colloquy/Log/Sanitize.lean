import Colloquy.Json.Basic
import Colloquy.Text.Preview
import Colloquy.Text.Search

/-!
# Tool arguments in a log

A log shows the arguments of a tool call, but no credentials and nothing
bulky. What stands under a name that speaks of a credential is masked
whatever it is. Long strings are cut; of a long list or object the first
twenty entries are kept and the number of the others is noted. The
outermost object is shown with all of its fields.
-/

namespace Colloquy.Log

/-- What stands for a value that is not shown. -/
def mask : Json := .str "***"

/-- How many characters of a string are shown. -/
def longestString : Nat := 300

/-- How many entries of a list or object are shown. -/
def mostEntries : Nat := 20

/-- What the names of credentials have in them. -/
def credentialWords : List String :=
  ["api_key", "apikey", "token", "secret", "password", "passwd", "authorization", "cookie"]

/-- **Whether a name speaks of a credential**, in whatever case and with
hyphens or underscores alike. -/
def isSensitive (name : String) : Bool :=
  let normal := String.ofList (name.toList.map fun c => if c = '-' then '_' else c)
  credentialWords.any (Text.mentions normal)

/-- The note on the entries that a list does not show. -/
def missingItems (n : Nat) : Json := .str s!"...(+{n} items)"

/-- The note on the fields that an object does not show. -/
def missingFields (n : Nat) : Json := .str s!"+{n} keys"

mutual

/-- **A value as a log shows it.** -/
def sanitize : Json → Json
  | .str s => .str (Text.preview longestString s)
  | .arr items =>
    .arr ((sanitizeItems items).take mostEntries
      ++ (if mostEntries < items.length then [missingItems (items.length - mostEntries)] else []))
  | .obj fields =>
    let shown := (sanitizeFields fields).take mostEntries
    if mostEntries < fields.length then
      .obj (Json.Fields.insert shown "..." (missingFields (fields.length - mostEntries)))
    else .obj shown
  | v => v

/-- The items of a list, each as a log shows it. -/
def sanitizeItems : List Json → List Json
  | [] => []
  | v :: vs => sanitize v :: sanitizeItems vs

/-- **Fields as a log shows them**: masked, or each as a log shows it. -/
def sanitizeFields : List (String × Json) → List (String × Json)
  | [] => []
  | (name, v) :: rest =>
    (name, if isSensitive name then mask else sanitize v) :: sanitizeFields rest

end

/-- **Arguments as a log shows them.** -/
def arguments (fields : Json.Fields) : Json :=
  .obj (sanitizeFields fields)

end Colloquy.Log
