import Colloquy.Proofs.Arguments.Candidates
import Colloquy.Proofs.Json.Braces
import Colloquy.Proofs.Json.Records
import Colloquy.ToolCall

/-!
# Calls put before a provider again

A call is executed with the arguments it comes down to (`ToolCall.resolve`), and it is put
before a chat provider with the text of its arguments (`ToolCall.toWire`). A provider that
reads this text finds the arguments the tool was executed with, whether they were given as an
object or as a text, and whatever had to be repaired in the text
(`ToolCall.read_wireArguments`).

There is one exception. Where the text of the arguments is blank, the tool is executed with
the provider's block, and the block is not put before the provider again: the text that is
stays blank, which stands for no arguments (`ToolCall.not_read_wireArguments`).
-/

namespace Colloquy

open Json.Reader (greatestDepth)

/-- A text that begins with a brace and is read as an object stands for it. -/
theorem Arguments.read_of_readChars {cs : List Char} {m : Json.Fields}
    (h : Json.readChars ('{' :: cs) = .ok (.obj m)) :
    Arguments.read (String.ofList ('{' :: cs)) = .ok m := by
  rw [read_of_brace String.toList_ofList, object?_of_readChars h]
  rfl

/-- **The text of an object is read as the object.** -/
theorem Arguments.read_compact {m : Json.Fields} (h : (Json.obj m).Readable greatestDepth) :
    Arguments.read (Json.obj m).compact = .ok m := by
  have hread : Json.readChars (Json.obj m).print = .ok (.obj m) := h.readChars_print
  obtain ⟨cs, hcs⟩ := Json.exists_print_obj_eq m
  rw [hcs] at hread
  rw [Json.compact, hcs]
  exact read_of_readChars hread

namespace ToolCall

variable {c : ToolCall} {name : String} {m : Json.Fields}

/-- **The arguments of a call as a chat provider is sent them.** -/
def wireArguments? (sent : Json) : Option String :=
  ((sent.field? "function").bind fun function => function.field? "arguments").bind Json.string?

/-- **Nothing is given for arguments** but blanks, so that the provider's block counts. -/
def BlankArguments (c : ToolCall) : Prop :=
  ∃ s, c.arguments = .text s ∧ Text.isBlankText s = true

theorem blankArguments_iff {s : String} (h : c.arguments = .text s) :
    c.BlankArguments ↔ Text.isBlankText s = true := by
  simp [BlankArguments, h]

/-- An object is something that is given. -/
theorem not_blankArguments (h : c.arguments = .object m) : ¬c.BlankArguments := by
  simp [BlankArguments, h]

/-- The arguments are sent as their text. -/
theorem wireArguments?_toWire (c : ToolCall) : wireArguments? c.toWire = some c.argumentText := by
  have hfunction : c.toWire.field? "function"
      = some (.ofFields [("name", .str c.name), ("arguments", .str c.argumentText)]) := by
    show Json.Fields.find? (Json.Fields.ofList _) "function" = _
    rw [Json.Fields.find?_ofList]
    rfl
  have harguments : (Json.ofFields [("name", .str c.name),
      ("arguments", .str c.argumentText)]).field? "arguments" = some (.str c.argumentText) := by
    show Json.Fields.find? (Json.Fields.ofList _) "arguments" = _
    rw [Json.Fields.find?_ofList]
    rfl
  rw [wireArguments?, hfunction, Option.bind_some, harguments]
  rfl

/-- **Where the arguments come from** that a call comes down to. -/
theorem arguments_of_resolve (h : c.resolve = .ok (name, m)) :
    c.arguments = .object m ∨ (c.BlankArguments ∧ m = c.input.getD []) ∨
      ∃ s, c.arguments = .text s ∧ ¬c.BlankArguments ∧ Arguments.read s = .ok m := by
  unfold resolve at h
  split_ifs at h
  cases harguments : c.arguments with
  | object fields =>
    rw [harguments] at h
    cases h
    exact .inl rfl
  | text s =>
    rw [harguments] at h
    dsimp only at h
    split_ifs at h with hblank
    · cases h
      exact .inr (.inl ⟨(blankArguments_iff harguments).mpr hblank, rfl⟩)
    · have hgiven : ¬c.BlankArguments := mt (blankArguments_iff harguments).mp hblank
      cases hread : Arguments.read s with
      | error complaint =>
        rw [hread] at h
        cases h
      | ok fields =>
        rw [hread] at h
        cases h
        exact .inr (.inr ⟨s, rfl, hgiven, hread⟩)

/-- **What is read where a call is put before a provider again.** If anything was given for
the arguments, it is what the tool was executed with. If not, the tool was executed with the
provider's block, and no arguments are read. -/
theorem read_wireArguments (h : c.resolve = .ok (name, m))
    (hreadable : ∀ fields, c.arguments = .object fields →
      (Json.obj fields).Readable greatestDepth) :
    ∃ text, wireArguments? c.toWire = some text ∧
      (¬c.BlankArguments → Arguments.read text = .ok m) ∧
      (c.BlankArguments → m = c.input.getD [] ∧ Arguments.read text = .ok []) := by
  refine ⟨c.argumentText, wireArguments?_toWire c, ?_⟩
  rcases arguments_of_resolve h with hobject | ⟨hblank, hm⟩ | ⟨s, htext, hgiven, hread⟩
  · refine ⟨fun _ => ?_, fun hblank => absurd hblank (not_blankArguments hobject)⟩
    rw [argumentText, hobject]
    exact Arguments.read_compact (hreadable m hobject)
  · refine ⟨fun hgiven => absurd hblank hgiven, fun _ => ⟨hm, ?_⟩⟩
    obtain ⟨s, hs, hs'⟩ := hblank
    rw [argumentText, hs]
    dsimp only
    rw [Arguments.read, if_pos hs']
  · refine ⟨fun _ => ?_, fun hblank => absurd hblank hgiven⟩
    rw [argumentText, htext]
    exact hread

/-- A call with an object for its arguments, and with a block that does not count. -/
def lookingUp : ToolCall where
  id := "call_1"
  name := "look_up"
  arguments := .object [("exact", .bool true), ("words", .arr [.str "\x7b\"", .null])]
  input := some [("call_id", .str "item_1")]

theorem read_wireArguments_lookingUp :
    lookingUp.resolve
      = .ok ("look_up", [("exact", .bool true), ("words", .arr [.str "\x7b\"", .null])]) ∧
    (∀ fields, lookingUp.arguments = .object fields →
      (Json.obj fields).Readable greatestDepth) ∧
    ¬lookingUp.BlankArguments ∧
    ∃ text, wireArguments? lookingUp.toWire = some text ∧
      Arguments.read text
        = .ok [("exact", .bool true), ("words", .arr [.str "\x7b\"", .null])] := by
  have hresolve : lookingUp.resolve
      = .ok ("look_up", [("exact", .bool true), ("words", .arr [.str "\x7b\"", .null])]) := rfl
  have hsorted : Json.Fields.Sorted
      [("exact", .bool true), ("words", .arr [.str "\x7b\"", .null])] := by
    simpa [Json.Fields.Sorted] using (by decide +kernel : "exact" < "words")
  have hreadable : ∀ fields, lookingUp.arguments = .object fields →
      (Json.obj fields).Readable greatestDepth := by
    rintro fields ⟨⟩
    exact {
      fits := .obj (by simp [Json.Fits.bool, Json.Fits.arr, Json.Fits.str, Json.Fits.null])
      inOrder := .obj hsorted
        (by simp [Json.InOrder.bool, Json.InOrder.arr, Json.InOrder.str, Json.InOrder.null])
      readsBack := by simp }
  have hgiven : ¬lookingUp.BlankArguments := not_blankArguments rfl
  obtain ⟨text, htext, hread, -⟩ := read_wireArguments hresolve hreadable
  exact ⟨hresolve, hreadable, hgiven, text, htext, hread hgiven⟩

/-- A call whose arguments are in the provider's block. -/
def readingFile : ToolCall where
  id := "call_1"
  name := "read_file"
  arguments := .text ""
  input := some [("path", .str "/b")]

/-- **The provider's block is lost** where a call is put before a provider again. -/
theorem not_read_wireArguments :
    ¬∀ (c : ToolCall) (name : String) (m : Json.Fields), c.resolve = .ok (name, m) →
      (∀ fields, c.arguments = .object fields → (Json.obj fields).Readable greatestDepth) →
      ∃ text, wireArguments? c.toWire = some text ∧ Arguments.read text = .ok m := by
  intro hreplays
  have hresolve : readingFile.resolve = .ok ("read_file", [("path", .str "/b")]) := rfl
  obtain ⟨text, htext, hread⟩ := hreplays readingFile _ _ hresolve (by rintro fields ⟨⟩)
  have hempty : text = "" := by
    rw [wireArguments?_toWire] at htext
    exact (Option.some.inj htext).symm
  subst hempty
  cases hread

end ToolCall

end Colloquy
