import Colloquy.Proofs.Fence
import Colloquy.Proofs.Json.Ends

/-!
# A text in its frame

Around a fenced text there are two fences, the opening one with its tag right behind it, and
blanks on either side of all of these; the closing fence may be missing (`Frame`). Taking the
frame away leaves the text, whatever is in it, as long as it neither begins nor ends with a
blank or a back quote (`Firm`): then the blanks of the frame end where the text begins, and a
fence that the text is found to end with is the closing one.

All JSON text is such a text, and it does not begin like a tag either. So a JSON answer in a
frame is read as the answer without it, and an answer without a frame is read as it is, even
where it is a string with fences in it (`readFenced_around`).
-/

namespace Colloquy.Text

/-- The codes of the blanks. -/
def blankCodes : List Nat :=
  [0x09, 0x0A, 0x0B, 0x0C, 0x0D, 0x20, 0x85, 0xA0, 0x1680, 0x2000, 0x2001, 0x2002, 0x2003,
   0x2004, 0x2005, 0x2006, 0x2007, 0x2008, 0x2009, 0x200A, 0x2028, 0x2029, 0x202F, 0x205F,
   0x3000]

/-- **What is true of all twenty-five blanks** is true of a blank. -/
theorem of_isBlank {P : Char → Prop} {c : Char} (h : isBlank c = true)
    (hall : ∀ n ∈ blankCodes, P (Char.ofNat n)) : P c := by
  have hcode : c.toNat ∈ blankCodes := by
    simp only [isBlank, Bool.or_eq_true, Bool.and_eq_true, decide_eq_true_eq, beq_iff_eq] at h
    simp only [blankCodes, List.mem_cons, List.not_mem_nil, or_false]
    omega
  exact c.ofNat_toNat ▸ hall c.toNat hcode

end Colloquy.Text

namespace Colloquy.Fence

open Text (isBlank trimStart trimEnd trimChars)

/-- **What is around a fenced text.** -/
structure Frame where
  /-- Blanks in front of the opening fence. -/
  before : List Char
  /-- The tag of the opening fence. -/
  tag : List Char
  /-- Blanks between the tag and the text. -/
  between : List Char
  /-- Blanks behind the text. -/
  after : List Char
  /-- Whether there is a closing fence. -/
  closed : Bool
  /-- Blanks behind the closing fence. -/
  behind : List Char
  /-- These are blanks. -/
  blank_before : ∀ c ∈ before, isBlank c = true
  /-- So are these. -/
  blank_between : ∀ c ∈ between, isBlank c = true
  /-- So are these. -/
  blank_after : ∀ c ∈ after, isBlank c = true
  /-- So are these. -/
  blank_behind : ∀ c ∈ behind, isBlank c = true

namespace Frame

/-- **A text in its frame.** -/
def around (f : Frame) (text : List Char) : List Char :=
  f.before ++ (fence ++ (f.tag ++ (f.between ++ (text ++ (f.after
    ++ ((if f.closed then fence else []) ++ f.behind))))))

/-- The text, and the frame behind it without the last blanks. -/
def ending (f : Frame) (text : List Char) : List Char :=
  if f.closed then text ++ (f.after ++ fence) else text

end Frame

/-- **Both ends of a text are firm**: neither is a blank or a back quote. -/
structure Firm (text : List Char) : Prop where
  /-- The first character is neither. -/
  begins : ∃ c cs, text = c :: cs ∧ isBlank c = false ∧ c ≠ '\x60'
  /-- The last character is neither. -/
  ends : ∃ cs d, text = cs ++ [d] ∧ isBlank d = false ∧ d ≠ '\x60'

variable {f : Frame} {text : List Char}

/-! ## Taking the frame away -/

/-- Firm ends are not trimmed. -/
theorem Firm.trimChars_append (h : Firm text) {before after : List Char}
    (hbefore : ∀ c ∈ before, isBlank c = true) (hafter : ∀ c ∈ after, isBlank c = true) :
    trimChars (before ++ text ++ after) = text := by
  obtain ⟨c, cs, hcs, hc, -⟩ := h.begins
  obtain ⟨ds, d, hds, hd, -⟩ := h.ends
  have hstart : trimStart (text ++ after) = text ++ after := by
    rw [hcs, List.cons_append, Text.trimStart_cons_of_not_blank hc]
  rw [Text.trimChars_append hbefore hafter hstart, hds, Text.trimEnd_concat_of_not_blank hd]

/-- **A text that ends with no back quote has no fence at its end.** -/
theorem before?_fence_eq_none {cs : List Char} {d : Char} (hd : d ≠ '\x60') :
    before? fence (cs ++ [d]) = none := by
  rw [before?, List.reverse_append]
  show (if d = '\x60' then _ else none).map _ = none
  rw [if_neg hd]
  rfl

/-- The closing fence is found if there is one. -/
theorem before?_ending (h : Firm text) :
    before? fence (f.ending text) = if f.closed then some (text ++ f.after) else none := by
  unfold Frame.ending
  split_ifs
  · rw [← List.append_assoc, before?_append]
  · obtain ⟨cs, d, rfl, -, hd⟩ := h.ends
    exact before?_fence_eq_none hd

theorem dropClosingFence_ending (h : Firm text) : dropClosingFence (f.ending text) = text := by
  rw [dropClosingFence, before?_ending h]
  cases hclosed : f.closed with
  | true =>
    obtain ⟨cs, d, rfl, hd, -⟩ := h.ends
    simp only [if_true]
    rw [Text.trimEnd_append f.blank_after, Text.trimEnd_concat_of_not_blank hd]
  | false => simp [Frame.ending, hclosed]

/-- What is trimmed begins with the opening fence and ends with no blank. -/
theorem exists_concat_ending (h : Firm text) :
    ∃ cs d, f.ending text = cs ++ [d] ∧ isBlank d = false := by
  unfold Frame.ending
  split_ifs
  · refine ⟨text ++ (f.after ++ ['\x60', '\x60']), '\x60', ?_, by decide⟩
    simp [fence, List.replicate_succ]
  · obtain ⟨cs, d, hcs, hd, -⟩ := h.ends
    exact ⟨cs, d, hcs, hd⟩

/-- **Trimming takes the outermost blanks of the frame.** -/
theorem trimChars_around (h : Firm text) :
    trimChars (f.around text) = fence ++ (f.tag ++ (f.between ++ f.ending text)) := by
  -- what is behind the last thing that is no blank
  obtain ⟨blanks, haround, hblanks⟩ : ∃ blanks,
      f.around text = f.before ++ (fence ++ (f.tag ++ (f.between ++ f.ending text))) ++ blanks ∧
        ∀ c ∈ blanks, isBlank c = true := by
    unfold Frame.around Frame.ending
    cases f.closed with
    | true => exact ⟨f.behind, by simp, f.blank_behind⟩
    | false =>
      refine ⟨f.after ++ f.behind, by simp, fun c hc => ?_⟩
      exact (List.mem_append.mp hc).elim (f.blank_after c) (f.blank_behind c)
  obtain ⟨cs, d, hcs, hd⟩ := exists_concat_ending (f := f) h
  have hstart : trimStart (fence ++ (f.tag ++ (f.between ++ f.ending text)) ++ blanks)
      = fence ++ (f.tag ++ (f.between ++ f.ending text)) ++ blanks := rfl
  have hend : fence ++ (f.tag ++ (f.between ++ f.ending text))
      = (fence ++ (f.tag ++ (f.between ++ cs))) ++ [d] := by
    rw [hcs]
    simp
  rw [haround, Text.trimChars_append f.blank_before hblanks hstart, hend,
    Text.trimEnd_concat_of_not_blank hd]

/-- The blanks behind the tag end where the text begins. -/
theorem trimStart_between (h : Firm text) :
    trimStart (f.between ++ f.ending text) = f.ending text := by
  obtain ⟨c, cs, rfl, hc, -⟩ := h.begins
  rw [Text.trimStart_append f.blank_between]
  unfold Frame.ending
  split_ifs
  · rw [List.cons_append, Text.trimStart_cons_of_not_blank hc]
  · rw [Text.trimStart_cons_of_not_blank hc]

/-- The text is not taken for a fence. -/
theorem after?_ending (h : Firm text) : after? fence (f.ending text) = none := by
  obtain ⟨c, cs, rfl, -, hc⟩ := h.begins
  unfold Frame.ending
  split_ifs <;> exact if_neg hc

/-- **The word json**, in whatever case. -/
def IsJsonWord (tag : List Char) : Prop :=
  tag.map Char.toLower = ['j', 's', 'o', 'n']

theorem isTagLetter_of_toLower {letter c : Char} (h : c.toLower = letter) :
    isTagLetter letter c = true := by
  subst h
  simp only [isTagLetter, Bool.or_eq_true, decide_eq_true_eq]
  refine .inl ?_
  unfold Char.toLower
  split_ifs with hcapital
  · refine .inr ?_
    obtain ⟨-, hlast⟩ := hcapital
    have hsmall : c.val.toNat ≤ 90 := hlast
    show c.val.toNat + 32 = (c.val + 32).toNat
    rw [UInt32.toNat_add]
    exact (Nat.mod_eq_of_lt (by omega)).symm
  · exact .inl rfl

/-- It is the tag. -/
theorem IsJsonWord.afterJsonTag?_eq {tag : List Char} (h : IsJsonWord tag) :
    afterJsonTag? tag = some [] := by
  obtain ⟨j, tag, rfl, hj, h⟩ := List.map_eq_cons_iff.mp h
  obtain ⟨s, tag, rfl, hs, h⟩ := List.map_eq_cons_iff.mp h
  obtain ⟨o, tag, rfl, ho, h⟩ := List.map_eq_cons_iff.mp h
  obtain ⟨n, tag, rfl, hn, h⟩ := List.map_eq_cons_iff.mp h
  obtain rfl := List.map_eq_nil_iff.mp h
  have hletters : (isTagLetter 'j' j && isTagLetter 's' s && isTagLetter 'o' o
      && isTagLetter 'n' n) = true := by
    rw [isTagLetter_of_toLower hj, isTagLetter_of_toLower hs, isTagLetter_of_toLower ho,
      isTagLetter_of_toLower hn]
    rfl
  exact if_pos hletters

/-- Where there is no letter to begin with, there is no tag. -/
theorem afterJsonTag?_cons {c : Char} (hc : isTagLetter 'j' c = false) (cs : List Char) :
    afterJsonTag? (c :: cs) = none := by
  unfold afterJsonTag?
  split
  · next heq =>
    obtain ⟨rfl, -⟩ := List.cons.inj heq
    rw [hc]
    rfl
  · rfl

/-- **Without its frame there is nothing left but the text**, if it does not begin like the
tag. -/
theorem unfence_around (h : Firm text) (htag : f.tag = [] ∨ afterJsonTag? f.tag = some [])
    (hletter : ∀ c ∈ text.head?, isTagLetter 'j' c = false) :
    unfence (f.around text) = text := by
  have hopening : dropPlainFence (dropTaggedFence
      (fence ++ (f.tag ++ (f.between ++ f.ending text)))) = f.ending text := by
    rcases htag with htag | htag
    · have huntagged : afterJsonTag? (f.between ++ f.ending text) = none := by
        cases hbetween : f.between with
        | nil =>
          obtain ⟨c, cs, rfl, -, -⟩ := h.begins
          have hc := hletter c rfl
          unfold Frame.ending
          split_ifs <;> exact afterJsonTag?_cons hc _
        | cons c cs =>
          have hblank := f.blank_between c (hbetween ▸ List.mem_cons_self)
          have hc : isTagLetter 'j' c = false :=
            Text.of_isBlank (P := fun c => isTagLetter 'j' c = false) hblank (by decide)
          exact afterJsonTag?_cons hc _
      rw [htag, List.nil_append, dropTaggedFence, after?_append]
      dsimp only [Option.bind]
      rw [huntagged]
      dsimp only
      rw [dropPlainFence, after?_append]
      exact trimStart_between h
    · rw [dropTaggedFence, after?_append]
      dsimp only [Option.bind]
      rw [afterJsonTag?_append htag]
      dsimp only
      rw [trimStart_between h, dropPlainFence, after?_ending h]
  rw [unfence, trimChars_around h, hopening, dropClosingFence_ending h]

/-! ## JSON text in a frame -/

open Json.Reader (beginsValue endsValue isSpace)

theorem isBlank_of_isSpace {c : Char} (h : isSpace c = true) : isBlank c = true := by
  have hkind : c = ' ' ∨ c = '\n' ∨ c = '\t' ∨ c = '\r' := by
    simpa [isSpace, or_assoc] using h
  rcases hkind with rfl | rfl | rfl | rfl <;> decide

/-- No value begins with a blank, a fence or a tag. -/
theorem not_of_beginsValue {c : Char} (h : beginsValue c = true) :
    c ≠ '\x60' ∧ isTagLetter 'j' c = false := by
  constructor
  · rintro rfl
    exact absurd h (by decide)
  · by_contra hletter
    have hcode : c = 'j' ∨ c.toNat = 74 := by
      simpa [isTagLetter, or_iff_not_imp_left] using hletter
    rcases hcode with rfl | hcode
    · exact absurd h (by decide)
    · rw [← c.ofNat_toNat, hcode] at h
      exact absurd h (by decide)

/-- **JSON text without blanks around it has firm ends**, and does not begin like a tag. -/
theorem firm_of_readChars {v : Json} (hread : Json.readChars text = .ok v)
    (hfirst : ∀ c ∈ text.head?, isBlank c = false)
    (hlast : ∀ c ∈ text.getLast?, isBlank c = false) :
    Firm text ∧ ∀ c ∈ text.head?, isTagLetter 'j' c = false := by
  obtain ⟨c, rest, hskip, hc⟩ := Json.exists_beginsValue_of_readChars hread
  obtain ⟨used, d, spaces, htext, hd, hspaces⟩ := Json.exists_endsValue_of_readChars hread
  have hbegins : text = c :: rest := by
    cases text with
    | nil => cases hskip
    | cons a as =>
      have hspace : isSpace a = false := by
        by_contra hspace
        have ha := isBlank_of_isSpace (Bool.of_not_eq_false hspace)
        rw [hfirst a rfl] at ha
        cases ha
      rw [← hskip, Json.Reader.skipSpace_cons hspace]
  have hends : text = used ++ [d] := by
    rcases List.eq_nil_or_concat spaces with rfl | ⟨front, e, rfl⟩
    · exact htext
    · have he : isBlank e = true := isBlank_of_isSpace (hspaces e (by simp))
      have hlast' : text.getLast? = some e := by
        rw [htext, List.concat_eq_append, ← List.cons_append, ← List.append_assoc,
          List.getLast?_concat]
      rw [hlast e hlast'] at he
      cases he
  obtain ⟨hfence, hletter⟩ := not_of_beginsValue hc
  refine ⟨⟨⟨c, rest, hbegins, hfirst c (by rw [hbegins]; rfl), hfence⟩, used, d, hends,
    hlast d (by rw [hends, List.getLast?_concat]; rfl), ?_⟩, ?_⟩
  · rintro rfl
    exact absurd hd (by decide)
  · intro a ha
    rw [hbegins] at ha
    cases ha
    exact hletter

/-- **A fence behind blanks is seen** behind whichever blanks are passed over, or one of the
others is. -/
theorem exists_dropWhile_append {p : Char → Bool} (hp : p '\x60' = false) {blanks : List Char}
    (hblanks : ∀ c ∈ blanks, isBlank c = true) (cs : List Char) :
    ∃ c rest, (blanks ++ '\x60' :: cs).dropWhile p = c :: rest
      ∧ (isBlank c = true ∨ c = '\x60') := by
  induction blanks with
  | nil =>
    refine ⟨'\x60', cs, ?_, .inr rfl⟩
    rw [List.nil_append, List.dropWhile_cons_of_neg (by simp [hp])]
  | cons c blanks ih =>
    rw [List.cons_append, List.dropWhile_cons]
    split_ifs
    · exact ih fun d hd => hblanks d (List.mem_cons_of_mem c hd)
    · exact ⟨c, _, rfl, .inl (hblanks c List.mem_cons_self)⟩

/-- A frame begins with its opening fence. -/
theorem exists_around_eq (f : Frame) (text : List Char) :
    ∃ rest, f.around text = f.before ++ '\x60' :: rest :=
  ⟨_, rfl⟩

/-- What is in a frame is no JSON text. -/
theorem exists_readChars_around_eq_error (f : Frame) (text : List Char) :
    ∃ fault, Json.readChars (f.around text) = .error fault := by
  cases hread : Json.readChars (f.around text) with
  | error fault => exact ⟨fault, rfl⟩
  | ok v =>
    obtain ⟨c, rest, hskip, hc⟩ := Json.exists_beginsValue_of_readChars hread
    obtain ⟨more, hmore⟩ := exists_around_eq f text
    obtain ⟨d, rest', hskip', hd⟩ :=
      exists_dropWhile_append (p := isSpace) (by decide) f.blank_before more
    rw [hmore] at hskip
    obtain ⟨rfl, -⟩ := List.cons.inj (hskip.symm.trans hskip')
    rcases hd with hblank | rfl
    · rw [Text.of_isBlank (P := fun c => beginsValue c = false) hblank (by decide)] at hc
      cases hc
    · exact absurd hc (by decide)

/-- **A JSON answer is read without its frame**, and one that has no frame is read as it
is. -/
theorem readFenced_around {v : Json} (hread : Json.readChars text = .ok v) :
    readFenced (String.ofList text) = .ok v ∧
    ∀ f : Frame, (f.tag = [] ∨ IsJsonWord f.tag) →
      (∀ c ∈ text.head?, isBlank c = false) → (∀ c ∈ text.getLast?, isBlank c = false) →
      readFenced (String.ofList (f.around text)) = .ok v := by
  refine ⟨?_, fun f htag hfirst hlast => ?_⟩
  · rw [readFenced, String.toList_ofList, hread]
  · obtain ⟨hfirm, hletter⟩ := firm_of_readChars hread hfirst hlast
    obtain ⟨fault, hfault⟩ := exists_readChars_around_eq_error f text
    rw [readFenced, String.toList_ofList, hfault]
    dsimp only
    have htag' := htag.imp_right IsJsonWord.afterJsonTag?_eq
    rw [unfence_around hfirm htag' hletter, readWorded, hread]
    rfl

/-- Blanks of several kinds, and a tag in mixed case. -/
def spacedFrame : Frame where
  before := ['\u3000', '\n']
  tag := ['J', 's', 'O', 'n']
  between := ['\u0085']
  after := [' ', '\u2003']
  closed := true
  behind := ['\n']
  blank_before := List.all_eq_true.mp (by decide)
  blank_between := List.all_eq_true.mp (by decide)
  blank_after := List.all_eq_true.mp (by decide)
  blank_behind := List.all_eq_true.mp (by decide)

/-- A string that is a fenced text itself. -/
def fencedString : String :=
  "\x60\x60\x60json \x7b\x7d\x60\x60\x60"

theorem readFenced_around_fencedString :
    Json.readChars (Json.str fencedString).print = .ok (.str fencedString) ∧
    IsJsonWord spacedFrame.tag ∧
    readFenced (String.ofList (spacedFrame.around (Json.str fencedString).print))
      = .ok (.str fencedString) := by
  have hread : Json.readChars (Json.str fencedString).print = .ok (.str fencedString) :=
    Json.readChars_print (.str _) (.str _) (by simp)
  have htag : IsJsonWord spacedFrame.tag := rfl
  have hfirst : ∀ c ∈ (Json.str fencedString).print.head?, isBlank c = false := by
    rintro c ⟨⟩
    decide
  have hlast : ∀ c ∈ (Json.str fencedString).print.getLast?, isBlank c = false := by
    rintro c ⟨⟩
    decide
  exact ⟨hread, htag, (readFenced_around hread).2 spacedFrame (.inr htag) hfirst hlast⟩

end Colloquy.Fence
