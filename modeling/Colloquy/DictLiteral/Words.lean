import Colloquy.Text.Letters

/-!
# The words of a dict literal

A dict literal spells its truth values and its null with capitals:
`True`, `False` and `None`. Before it is read these three words are
respelled in small letters, wherever they stand as whole words outside of
quotes. A word is a run of word characters as long as it can be; a quoted
stretch reaches from a quotation mark to the next one of the same kind
that no backslash escapes, or to the end of the text.
-/

namespace Colloquy.DictLiteral

/-- **The small spelling of a word**, if it is one of the three. -/
def respell (word : List Char) : List Char :=
  if word = ['T', 'r', 'u', 'e'] then ['t', 'r', 'u', 'e']
  else if word = ['F', 'a', 'l', 's', 'e'] then ['f', 'a', 'l', 's', 'e']
  else if word = ['N', 'o', 'n', 'e'] then ['n', 'u', 'l', 'l']
  else word

/-- Whether a character opens a quoted stretch. -/
def isQuotationMark (c : Char) : Bool :=
  c = '"' || c = '\''

/-- **Where in a text one stands.** -/
inductive Spot where
  /-- Outside of quotes, behind a word that may still go on. -/
  | behind (word : List Char)
  /-- Inside quotes, perhaps just behind a backslash. -/
  | quoted (mark : Char) (escaped : Bool)
deriving DecidableEq, Repr

/-- The respelling of what remains of a text. -/
def respellFrom : Spot → List Char → List Char
  | .behind word, [] => respell word
  | .quoted _ _, [] => []
  | .behind word, c :: cs =>
    if Text.isWordChar c then respellFrom (.behind (word ++ [c])) cs
    else
      respell word ++ c ::
        respellFrom (if isQuotationMark c then .quoted c false else .behind []) cs
  | .quoted mark escaped, c :: cs =>
    c :: respellFrom
      (if escaped then .quoted mark false
       else if c = '\\' then .quoted mark true
       else if c = mark then .behind []
       else .quoted mark false) cs

/-- **A dict literal with its words in small letters.** -/
def respellWords (cs : List Char) : List Char :=
  respellFrom (.behind []) cs

end Colloquy.DictLiteral
