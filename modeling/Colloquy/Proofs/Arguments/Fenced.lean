import Colloquy.Proofs.Arguments.Candidates
import Colloquy.Proofs.DictLiteral.Reader
import Colloquy.Proofs.Fence.Frame

/-!
# Arguments in a frame of fences

An object in a frame of fences gives the arguments, whatever tag the opening fence has, and
whatever fences, braces and quotation marks there are in the strings of the object
(`read_around`).

The first candidate is the text with its frame. It stands for nothing, since behind the blanks
it begins with a back quote, or with a blank that only the trimming knows: neither JSON
(`Fence.exists_readChars_around_eq_error`) nor a dict literal
(`DictLiteral.readChars_around_eq_none`) begins so. The second candidate is the object, and as
it is read as JSON nothing is tried behind it.
-/

namespace Colloquy.DictLiteral

open Fence (Frame)
open Text (isBlank)

variable {c : Char} {cs rest : List Char}

/-- Whether a value of a dict literal may begin with a character. -/
def beginsLiteral (c : Char) : Bool :=
  c ∈ ['[', '{', 'n', 't', 'f', '"', '\'', '-', '+', 'I', 'N', '.'] || Decimal.isDigit c

theorem scalar_eq_none (h : beginsLiteral c = false) (cs : List Char) :
    scalar (c :: cs) = none := by
  simp only [beginsLiteral, Bool.or_eq_false_iff, decide_eq_false_iff_not, List.mem_cons,
    List.not_mem_nil, or_false, not_or] at h
  obtain ⟨⟨-, -, hn, ht, hf, hdouble, hsingle, hminus, hplus, hI, hN, hpoint⟩, hdigit⟩ := h
  have hzero : c ≠ '0' := by
    rintro rfl
    exact absurd hdigit (by decide)
  rw [scalar, if_neg hn, if_neg ht, if_neg hf, if_neg (by simp [hdouble, hsingle]), if_neg hminus,
    if_neg hplus]
  unfold magnitude
  split
  · rfl
  · next heq => exact absurd (List.cons.inj heq).1 hzero
  · next heq =>
    obtain ⟨rfl, -⟩ := List.cons.inj heq
    rw [if_neg hI, if_neg hN, if_neg (by simp [hpoint, hdigit])]

/-- **A text that begins with none of these is no dict literal.** -/
theorem readChars_eq_none (hskip : cs.dropWhile isSpace = c :: rest) (hcomment : c ≠ '/')
    (h : beginsLiteral c = false) : readChars cs = none := by
  have htoken : token cs = some (c :: rest) := by
    unfold token
    rw [hskip]
    split
    · next heq => exact absurd (List.cons.inj heq).1 hcomment
    · rfl
  have hvalue : value (2 * cs.length + 2) cs = none := by
    have hlist : c ≠ '[' := by
      rintro rfl
      exact absurd h (by decide)
    have hdict : c ≠ '{' := by
      rintro rfl
      exact absurd h (by decide)
    rw [value, htoken]
    dsimp only [bind, Option.bind]
    split
    · next heq => exact absurd (List.cons.inj heq).1 hlist
    · next heq => exact absurd (List.cons.inj heq).1 hdict
    · exact scalar_eq_none h rest
  rw [readChars, hvalue]
  rfl

/-- Blanks are a part of no word and open no string. -/
theorem isSign_of_isBlank (h : isBlank c = true) : IsSign c :=
  Text.of_isBlank h (by decide +kernel)

/-- **Nothing is respelled in front of a fence.** -/
theorem respellWords_append {blanks : List Char} (h : ∀ c ∈ blanks, isBlank c = true)
    (cs : List Char) : respellWords (blanks ++ cs) = blanks ++ respellWords cs := by
  induction blanks with
  | nil => rfl
  | cons c blanks ih =>
    have hrest := ih fun d hd => h d (List.mem_cons_of_mem c hd)
    rw [respellWords] at hrest ⊢
    rw [List.cons_append, respellFrom_sign (isSign_of_isBlank (h c List.mem_cons_self)), hrest]
    rfl

/-- What is in a frame is no dict literal. -/
theorem readChars_around_eq_none (f : Frame) (text : List Char) :
    readChars (respellWords (f.around text)) = none := by
  obtain ⟨more, hmore⟩ := Fence.exists_around_eq f text
  have hrespell : respellWords ('\x60' :: more) = '\x60' :: respellWords more := rfl
  rw [hmore, respellWords_append f.blank_before, hrespell]
  obtain ⟨c, rest, hskip, hc⟩ := Fence.exists_dropWhile_append (p := isSpace) (by decide)
    f.blank_before (respellWords more)
  rcases hc with hblank | rfl
  · have hnone : c ≠ '/' ∧ beginsLiteral c = false :=
      Text.of_isBlank (P := fun c => c ≠ '/' ∧ beginsLiteral c = false) hblank (by decide)
    exact readChars_eq_none hskip hnone.1 hnone.2
  · exact readChars_eq_none hskip (by decide) (by decide)

end Colloquy.DictLiteral

namespace Colloquy.Fence

open Text (isBlank trimStart trimEnd trimChars)

variable {f : Frame} {text : List Char} {c d : Char}

/-- **The characters of a tag**: letters and digits of ASCII, and three signs. -/
theorem isTagChar_iff :
    isTagChar c = true ↔ c.isAlphanum = true ∨ c = '-' ∨ c = '_' ∨ c = '+' := by
  have hupper : c.isUpper = true ↔ 'A' ≤ c ∧ c ≤ 'Z' := decide_eq_true_iff
  have hlower : c.isLower = ('a' ≤ c && c ≤ 'z') := rfl
  have hdigit : c.isDigit = ('0' ≤ c && c ≤ '9') := rfl
  have hletter : c.isAlphanum = (c.isUpper || c.isLower || c.isDigit) := rfl
  simp only [isTagChar, hletter, hupper, hlower, hdigit, Bool.or_eq_true, Bool.and_eq_true,
    decide_eq_true_eq]
  tauto

/-- The blanks behind a tag, or the text, are no part of it. -/
theorem dropWhile_tag (h : Firm text) (htag : ∀ c ∈ f.tag, isTagChar c = true)
    (hfirst : ∀ c ∈ text.head?, isTagChar c = false) :
    (f.tag ++ (f.between ++ f.ending text)).dropWhile isTagChar = f.between ++ f.ending text := by
  rw [List.dropWhile_append_of_pos htag]
  cases hbetween : f.between with
  | nil =>
    obtain ⟨c, cs, rfl, -, -⟩ := h.begins
    have hc := hfirst c rfl
    unfold Frame.ending
    split_ifs <;> exact List.dropWhile_cons_of_neg (by simp [hc])
  | cons c cs =>
    have hblank := f.blank_between c (hbetween ▸ List.mem_cons_self)
    have hc : isTagChar c = false :=
      Text.of_isBlank (P := fun c => isTagChar c = false) hblank (by decide)
    exact List.dropWhile_cons_of_neg (by simp [hc])

/-- **The content of a frame is its text**, if it does not begin like a tag. -/
theorem content_around (h : Firm text) (htag : ∀ c ∈ f.tag, isTagChar c = true)
    (hfirst : ∀ c ∈ text.head?, isTagChar c = false) :
    content (trimChars (f.around text)) = text := by
  obtain ⟨cs, d, hcs, hd⟩ := exists_concat_ending (f := f) h
  have htrimmed : trimChars (fence ++ (f.tag ++ (f.between ++ f.ending text)))
      = fence ++ (f.tag ++ (f.between ++ f.ending text)) := by
    refine Text.trimChars_eq_self (c := '\x60') (by decide) hd ?_
    refine List.getLast?_eq_some_iff.mpr ⟨fence ++ (f.tag ++ (f.between ++ cs)), ?_⟩
    rw [hcs]
    simp [fence, List.replicate_succ]
  have hbody : trimChars (f.between ++ f.ending text) = f.ending text := by
    rw [trimChars, trimStart_between h, hcs, Text.trimEnd_concat_of_not_blank hd]
  have hclosing : trimChars ((before? fence (f.ending text)).getD (f.ending text)) = text := by
    rw [before?_ending h]
    cases hclosed : f.closed with
    | true =>
      have htext : trimChars ([] ++ text ++ f.after) = text :=
        h.trimChars_append (by simp) f.blank_after
      exact htext
    | false =>
      have htext : trimChars ([] ++ text ++ []) = text :=
        h.trimChars_append (by simp) (by simp)
      simpa [Frame.ending, hclosed] using htext
  rw [content, trimChars_around h, htrimmed, after?_append]
  dsimp only
  rw [dropWhile_tag h htag hfirst, hbody, hclosing]

end Colloquy.Fence

namespace Colloquy.Arguments

open Fence (Frame)
open Text (isBlank trimChars)

variable {f : Frame} {text : List Char} {m : Json.Fields}

/-- What is in a frame stands for nothing as it is. -/
theorem object?_around (f : Frame) (text : List Char) :
    object? (String.ofList (f.around text)) = none := by
  obtain ⟨fault, hfault⟩ := Fence.exists_readChars_around_eq_error f text
  rw [object?_of_unread hfault, DictLiteral.readChars_around_eq_none]
  rfl

/-- **An object in a frame of fences gives the arguments**, whatever is in its strings. -/
theorem read_around (hread : Json.readChars text = .ok (.obj m))
    (hopening : text.head? = some '{') (hclosing : text.getLast? = some '}')
    (htag : ∀ c ∈ f.tag, c.isAlphanum = true ∨ c = '-' ∨ c = '_' ∨ c = '+') :
    read (String.ofList (f.around text)) = .ok m := by
  obtain ⟨cs, htext⟩ := List.head?_eq_some_iff.mp hopening
  obtain ⟨ds, htext'⟩ := List.getLast?_eq_some_iff.mp hclosing
  have hfirm : Fence.Firm text :=
    ⟨⟨'{', cs, htext, by decide, by decide⟩, ds, '}', htext', by decide, by decide⟩
  have hfirst : ∀ c ∈ text.head?, Fence.isTagChar c = false := by
    intro c hc
    rw [hopening] at hc
    cases hc
    decide
  have hcontent : Fence.body (Text.trim (String.ofList (f.around text))) = String.ofList text := by
    rw [Fence.body, Text.trim, String.toList_ofList, String.toList_ofList,
      Fence.content_around hfirm (fun c hc => Fence.isTagChar_iff.mpr (htag c hc)) hfirst]
  have hblank : Text.isBlankText (String.ofList (f.around text)) = false := by
    obtain ⟨more, hmore⟩ := Fence.exists_around_eq f text
    rw [Text.isBlankText, String.toList_ofList, hmore, List.all_append, List.all_cons]
    have hfence : isBlank '\x60' = false := by decide
    rw [hfence, Bool.false_and, Bool.and_false]
  have hgiven : asGiven (String.ofList (f.around text))
      = [String.ofList (f.around text), String.ofList text] := by
    have hfence : (Fence.after? Fence.fence (trimChars (f.around text))).isSome = true := by
      rw [Fence.trimChars_around hfirm, Fence.after?_append]
      rfl
    have hnonempty : (String.ofList text).isEmpty = false := by
      simp [htext]
    rw [asGiven, String.toList_ofList, if_pos hfence, hcontent]
    dsimp only
    rw [hnonempty, if_neg Bool.false_ne_true]
  rw [read, hblank, if_neg Bool.false_ne_true, candidates, hgiven, List.cons_append,
    List.findSome?_cons, object?_around]
  dsimp only
  rw [List.cons_append, List.findSome?_cons, object?_of_readChars hread]

/-- Arguments with fences, braces and quotation marks in them. -/
def snippet : Json.Fields :=
  [("text", .str "\x60\x60\x60\x7d \" \x7b\x60\x60\x60")]

/-- The same frame as above, with another tag. -/
def taggedFrame : Frame :=
  { Fence.spacedFrame with tag := ['j', 's', 'o', 'n', '-', '5', '+'] }

theorem read_around_snippet :
    Json.readChars (Json.obj snippet).print = .ok (.obj snippet) ∧
    (Json.obj snippet).print.head? = some '{' ∧ (Json.obj snippet).print.getLast? = some '}' ∧
    (∀ c ∈ taggedFrame.tag, c.isAlphanum = true ∨ c = '-' ∨ c = '_' ∨ c = '+') ∧
    read (String.ofList (taggedFrame.around (Json.obj snippet).print)) = .ok snippet := by
  have hread : Json.readChars (Json.obj snippet).print = .ok (.obj snippet) :=
    Json.readChars_print (.obj (by simp [snippet, Json.Fits.str]))
      (.obj (List.pairwise_singleton _ _) (by simp [snippet, Json.InOrder.str]))
      (by simp [snippet])
  have hopening : (Json.obj snippet).print.head? = some '{' := rfl
  have hclosing : (Json.obj snippet).print.getLast? = some '}' := by decide
  have htag : ∀ c ∈ taggedFrame.tag,
      c.isAlphanum = true ∨ c = '-' ∨ c = '_' ∨ c = '+' := by
    simp [taggedFrame]
  exact ⟨hread, hopening, hclosing, htag, read_around hread hopening hclosing htag⟩

end Colloquy.Arguments
