import Colloquy.Log.Redaction
import Mathlib.Data.List.Infix
import Mathlib.Data.List.TakeWhile
import Mathlib.Data.String.Basic

/-!
# What is taken out of a log line

A text is split at its data URLs: at the one that begins first, as long as it can be,
then at the first one in the rest, and so on, until a rest holds none (`Split`). There is
one way to split a text and no other (`exists_split`, `Split.unique`). Redaction puts a
placeholder in the place of each URL and leaves what is between them alone
(`Split.redactFrom_eq`).

In what comes of it there is nothing more to redact. A placeholder stands in brackets,
and no data URL holds a bracket, so that one would have to lie in a single piece of what
was kept. Each of these was a part of the text, and the data URL would have been found
there (`Split.not_infix_rejoin`).

What is left of a URL may still be long. A content ends only before a character that no
base64 text holds, so that it takes the first letters of a URL that follows it at once,
and the rest of that one is no data URL any more.
-/

namespace Colloquy.Log

/-! ## Data URLs -/

/-- **A data URL**, and nothing else. -/
inductive IsDataUrl : List Char → Prop
  /-- It has a media type and a content, neither of which is empty. -/
  | of {media content : List Char} (mediaFilled : media ≠ [])
      (mediaChars : ∀ c ∈ media, isMediaChar c = true) (contentFilled : content ≠ [])
      (contentChars : ∀ c ∈ content, isBase64Char c = true) :
      IsDataUrl (scheme ++ media ++ marker ++ content)

/-- What can stand in a data URL. -/
def inDataUrl (c : Char) : Bool :=
  isMediaChar c || isBase64Char c || c = ':' || c = ';' || c = ','

/-- That is ASCII, and can be seen. -/
theorem toNat_of_inDataUrl {c : Char} (h : inDataUrl c = true) : 32 < c.toNat ∧ c.toNat < 128 := by
  have hle (d : Char) : c ≤ d ↔ c.toNat ≤ d.toNat := Iff.rfl
  have hge (d : Char) : d ≤ c ↔ d.toNat ≤ c.toNat := Iff.rfl
  simp only [inDataUrl, isMediaChar, isBase64Char, Text.isAsciiLetter, Decimal.isDigit,
    Bool.or_eq_true, Bool.and_eq_true, decide_eq_true_eq, ← Char.toNat_inj, hle, hge,
    Char.reduceToNat] at h
  omega

variable {cs text kept url rest last m : List Char} {pieces : List (List Char × List Char)}

namespace IsDataUrl

/-- **A data URL is found where it stands**, and with it whatever its content can be
continued by. -/
theorem dataUrl?_append (h : IsDataUrl url) (rest : List Char) :
    dataUrl? (url ++ rest) = some (url ++ rest.takeWhile isBase64Char) := by
  cases h with
  | @of media content mediaFilled mediaChars contentFilled contentChars =>
    have hscheme : scheme.isPrefixOf (scheme ++ media ++ marker ++ content ++ rest) = true := by
      simp only [List.append_assoc, List.isPrefixOf_iff_prefix, List.prefix_append]
    have hbehind : (scheme ++ media ++ marker ++ content ++ rest).drop scheme.length
        = media ++ (marker ++ (content ++ rest)) := by
      simp only [List.append_assoc, List.drop_left]
    -- a media type holds no semicolon, with which the marker begins
    have hmedia : (media ++ (marker ++ (content ++ rest))).takeWhile isMediaChar = media := by
      rw [List.takeWhile_append_of_pos mediaChars]
      exact List.append_right_eq_self.mpr rfl
    have hmarker : marker.isPrefixOf (marker ++ (content ++ rest)) = true := by
      simp only [List.isPrefixOf_iff_prefix, List.prefix_append]
    simp only [dataUrl?, hscheme, hbehind, hmedia, List.drop_left, hmarker, if_true,
      List.takeWhile_append_of_pos contentChars]
    simp [mediaFilled, contentFilled]

theorem inDataUrl_of_mem (h : IsDataUrl url) {c : Char} (hc : c ∈ url) : inDataUrl c = true := by
  cases h with
  | of mediaFilled mediaChars contentFilled contentChars =>
    have hscheme : ∀ c ∈ scheme, inDataUrl c = true := List.all_eq_true.mp (by decide)
    have hmarker : ∀ c ∈ marker, inDataUrl c = true := List.all_eq_true.mp (by decide)
    simp only [List.mem_append] at hc
    rcases hc with ((hc | hc) | hc) | hc
    · exact hscheme c hc
    · simp [inDataUrl, mediaChars c hc]
    · exact hmarker c hc
    · simp [inDataUrl, contentChars c hc]

theorem colon_mem (h : IsDataUrl url) : ':' ∈ url := by
  cases h
  simp [scheme]

theorem length_pos (h : IsDataUrl url) : 0 < url.length :=
  List.length_pos_of_mem h.colon_mem

/-- A data URL stands in no text without a colon. -/
theorem not_infix_of_colon_notMem (h : IsDataUrl url) (hcs : ':' ∉ cs) : ¬ url <:+: cs :=
  fun hinside => hcs (hinside.subset h.colon_mem)

/-- **A data URL has as many bytes as characters.** -/
theorem utf8ByteSize_eq (h : IsDataUrl url) : (String.ofList url).utf8ByteSize = url.length := by
  have hascii : ∀ c ∈ url, c.toNat < 128 := fun c hc =>
    (toNat_of_inDataUrl (h.inDataUrl_of_mem hc)).2
  clear h
  rw [String.utf8ByteSize_ofList]
  induction url with
  | nil => rfl
  | cons c cs ih =>
    have hsize : c.utf8Size = 1 :=
      Char.utf8Size_eq_one_iff.mpr (Nat.le_of_lt_succ (hascii c List.mem_cons_self))
    rw [String.utf8Len, ih fun d hd => hascii d (List.mem_cons_of_mem c hd), hsize]
    rfl

end IsDataUrl

/-- What is found is a data URL at the beginning of the text. -/
theorem isDataUrl_of_dataUrl? (h : dataUrl? cs = some url) : IsDataUrl url ∧ url <+: cs := by
  unfold dataUrl? at h
  split_ifs at h with hscheme
  obtain ⟨behind, rfl⟩ := List.isPrefixOf_iff_prefix.mp hscheme
  simp only [List.drop_left] at h
  split_ifs at h with hparts hcontent
  simp only [Bool.or_eq_true, not_or, Bool.not_eq_true, Bool.not_eq_false',
    List.isEmpty_eq_false_iff] at hparts hcontent
  obtain ⟨hmedia, hmarker⟩ := hparts
  have hbehind := List.prefix_iff_eq_append.mp (List.takeWhile_prefix isMediaChar (l := behind))
  obtain ⟨tail, hrest⟩ := List.isPrefixOf_iff_prefix.mp hmarker
  rw [← hrest, List.drop_left] at h hcontent
  rw [← hrest] at hbehind
  cases h
  refine ⟨.of hmedia (fun c hc => List.mem_takeWhile_imp hc) hcontent
    (fun c hc => List.mem_takeWhile_imp hc), tail.dropWhile isBase64Char, ?_⟩
  rw [List.append_assoc _ (tail.takeWhile isBase64Char), List.takeWhile_append_dropWhile]
  simp only [List.append_assoc, hbehind]

/-- **No data URL is found where none begins.** -/
theorem dataUrl?_eq_none_iff : dataUrl? cs = none ↔ ∀ m, IsDataUrl m → ¬ m <+: cs := by
  constructor
  · rintro h m hm ⟨rest, rfl⟩
    rw [hm.dataUrl?_append] at h
    cases h
  · intro h
    cases hfound : dataUrl? cs with
    | none => rfl
    | some url =>
      obtain ⟨hurl, hstart⟩ := isDataUrl_of_dataUrl? hfound
      exact absurd hstart (h url hurl)

/-- **The one that is found is the longest.** -/
theorem prefix_of_dataUrl? (h : dataUrl? cs = some url) (hm : IsDataUrl m) (hstart : m <+: cs) :
    m <+: url := by
  obtain ⟨rest, rfl⟩ := hstart
  rw [hm.dataUrl?_append] at h
  cases h
  exact List.prefix_append _ _

/-- And the longest is found. -/
theorem IsDataUrl.dataUrl?_eq (h : IsDataUrl url)
    (hlongest : ∀ m, IsDataUrl m → m <+: url ++ rest → m.length ≤ url.length) :
    dataUrl? (url ++ rest) = some url := by
  have hfound := h.dataUrl?_append rest
  obtain ⟨hurl, hstart⟩ := isDataUrl_of_dataUrl? hfound
  have hlength := hlongest _ hurl hstart
  rw [List.length_append] at hlength
  have hnil : rest.takeWhile isBase64Char = [] := List.eq_nil_of_length_eq_zero (by omega)
  rw [hfound, hnil, List.append_nil]

/-! ## A text split at its data URLs -/

/-- **The first data URL of a text**: none begins before it, and none that begins where it
does is longer. -/
structure IsFirst (text kept url rest : List Char) : Prop where
  /-- It stands between the beginning and the rest of the text. -/
  text_eq : text = kept ++ url ++ rest
  /-- It is a data URL. -/
  isDataUrl : IsDataUrl url
  /-- None begins before it. -/
  leftmost : ∀ before m after, IsDataUrl m → text = before ++ m ++ after →
    kept.length ≤ before.length
  /-- None at its place is longer. -/
  longest : ∀ m, IsDataUrl m → m <+: url ++ rest → m.length ≤ url.length

/-- **A text split at its data URLs**: pairs of what is kept and the URL behind it, and what
is behind the last one. -/
inductive Split : List Char → List (List Char × List Char) → List Char → Prop
  /-- There is no data URL in the text. -/
  | done {last : List Char} (plain : ∀ m, IsDataUrl m → ¬ m <:+: last) : Split last [] last
  /-- There is a first one, and the rest is split. -/
  | next {text kept url rest last : List Char} {pieces : List (List Char × List Char)}
      (first : IsFirst text kept url rest) (behind : Split rest pieces last) :
      Split text ((kept, url) :: pieces) last

/-- **The pieces of a text put together again**, with a placeholder for each URL that tells
how many bytes it had. -/
def rejoin (pieces : List (List Char × List Char)) (last : List Char) : List Char :=
  pieces.flatMap (fun p => p.1 ++ placeholder (String.ofList p.2).utf8ByteSize) ++ last

theorem rejoin_cons (kept url : List Char) (pieces : List (List Char × List Char))
    (last : List Char) :
    rejoin ((kept, url) :: pieces) last
      = kept ++ (placeholder (String.ofList url).utf8ByteSize ++ rejoin pieces last) := by
  simp only [rejoin, List.flatMap_cons, List.append_assoc]

namespace IsFirst

/-- There is one first data URL. -/
theorem unique {kept' url' rest' : List Char} (h : IsFirst text kept url rest)
    (h' : IsFirst text kept' url' rest') : kept = kept' ∧ url = url' ∧ rest = rest' := by
  have heq : kept ++ (url ++ rest) = kept' ++ (url' ++ rest') := by
    rw [← List.append_assoc, ← h.text_eq, h'.text_eq, List.append_assoc]
  have hlength : kept.length = kept'.length :=
    Nat.le_antisymm (h.leftmost _ _ _ h'.isDataUrl h'.text_eq)
      (h'.leftmost _ _ _ h.isDataUrl h.text_eq)
  obtain ⟨hkept, hbehind⟩ := List.append_inj heq hlength
  have hlength' : url.length = url'.length :=
    Nat.le_antisymm (h'.longest _ h.isDataUrl (hbehind ▸ List.prefix_append _ _))
      (h.longest _ h'.isDataUrl (hbehind ▸ List.prefix_append _ _))
  exact ⟨hkept, List.append_inj hbehind hlength'⟩

/-- No data URL stands before the first one. -/
theorem not_infix_kept (h : IsFirst text kept url rest) (hm : IsDataUrl m) : ¬ m <:+: kept := by
  rintro ⟨before, after, hkept⟩
  have hle := h.leftmost before m (after ++ url ++ rest) hm (by
    rw [h.text_eq, ← hkept]
    simp only [List.append_assoc])
  have hlength := congrArg List.length hkept
  simp only [List.length_append] at hlength
  have hpos := hm.length_pos
  omega

/-- The text behind the first data URL is shorter. -/
theorem length_rest_lt (h : IsFirst text kept url rest) : rest.length < text.length := by
  have hpos := h.isDataUrl.length_pos
  rw [h.text_eq, List.length_append, List.length_append]
  omega

end IsFirst

/-- **A text that holds a data URL has a first one.** -/
theorem exists_isFirst (hm : IsDataUrl m) (h : m <:+: text) :
    ∃ kept url rest, IsFirst text kept url rest := by
  induction text with
  | nil => exact absurd h (hm.not_infix_of_colon_notMem List.not_mem_nil)
  | cons c cs ih =>
    cases hfound : dataUrl? (c :: cs) with
    | some url =>
      obtain ⟨hurl, rest, hrest⟩ := isDataUrl_of_dataUrl? hfound
      refine ⟨[], url, rest, hrest.symm, hurl, fun _ _ _ _ _ => Nat.zero_le _, ?_⟩
      intro m' hm' hstart
      exact (prefix_of_dataUrl? hfound hm' (hrest ▸ hstart)).length_le
    | none =>
      have hnone := dataUrl?_eq_none_iff.mp hfound
      obtain ⟨kept, url, rest, hfirst⟩ :=
        ih ((List.infix_cons_iff.mp h).resolve_left (hnone m hm))
      refine ⟨c :: kept, url, rest, ?_, hfirst.isDataUrl, ?_, hfirst.longest⟩
      · rw [hfirst.text_eq]
        rfl
      · intro before m' after hm' heq
        cases before with
        | nil => exact absurd ⟨after, heq.symm⟩ (hnone m' hm')
        | cons d before =>
          exact Nat.succ_le_succ (hfirst.leftmost before m' after hm' (List.cons.inj heq).2)

/-- **Every text is split.** -/
theorem exists_split (text : List Char) : ∃ pieces last, Split text pieces last := by
  by_cases h : ∃ m, IsDataUrl m ∧ m <:+: text
  · obtain ⟨m, hm, hinside⟩ := h
    obtain ⟨kept, url, rest, hfirst⟩ := exists_isFirst hm hinside
    have hshorter := hfirst.length_rest_lt
    obtain ⟨pieces, last, hbehind⟩ := exists_split rest
    exact ⟨_, _, .next hfirst hbehind⟩
  · exact ⟨_, _, .done fun m hm hinside => h ⟨m, hm, hinside⟩⟩
termination_by text.length

namespace Split

/-- **There is one way to split a text.** -/
theorem unique {pieces' : List (List Char × List Char)} {last' : List Char}
    (h : Split text pieces last) (h' : Split text pieces' last') :
    pieces = pieces' ∧ last = last' := by
  induction h generalizing pieces' with
  | done plain =>
    cases h' with
    | done _ => exact ⟨rfl, rfl⟩
    | next first _ =>
      exact absurd ⟨_, _, first.text_eq.symm⟩ (plain _ first.isDataUrl)
  | next first _ ih =>
    cases h' with
    | done plain => exact absurd ⟨_, _, first.text_eq.symm⟩ (plain _ first.isDataUrl)
    | next first' behind' =>
      obtain ⟨rfl, rfl, rfl⟩ := first.unique first'
      obtain ⟨rfl, rfl⟩ := ih behind'
      exact ⟨rfl, rfl⟩

end Split

/-! ## Redaction -/

/-- What belongs to a URL that was replaced is passed over. -/
theorem redactFrom_eq_drop (n : Nat) (cs : List Char) :
    redactFrom n cs = redactFrom 0 (cs.drop n) := by
  induction cs generalizing n with
  | nil => simp [redactFrom]
  | cons c cs ih =>
    cases n with
    | zero => rfl
    | succ n => rw [redactFrom, ih, List.drop_succ_cons]

/-- **A data URL that is found is replaced.** -/
theorem redactFrom_of_found (h : dataUrl? (url ++ rest) = some url) :
    redactFrom 0 (url ++ rest) = placeholder url.length ++ redactFrom 0 rest := by
  obtain ⟨hurl, -⟩ := isDataUrl_of_dataUrl? h
  obtain ⟨c, cs, rfl⟩ := List.exists_cons_of_length_pos hurl.length_pos
  rw [List.cons_append] at h ⊢
  rw [redactFrom, h]
  refine congrArg (placeholder (c :: cs).length ++ ·) ?_
  rw [redactFrom_eq_drop, List.length_cons, Nat.add_sub_cancel, List.drop_left]

/-- **What no data URL begins in is kept.** -/
theorem redactFrom_append
    (h : ∀ before after, before ++ after = kept → after ≠ [] → dataUrl? (after ++ rest) = none) :
    redactFrom 0 (kept ++ rest) = kept ++ redactFrom 0 rest := by
  induction kept with
  | nil => rfl
  | cons c kept ih =>
    have hnone : dataUrl? (c :: (kept ++ rest)) = none := h [] (c :: kept) rfl (by simp)
    rw [List.cons_append, redactFrom, hnone]
    refine congrArg (c :: ·) (ih fun before after heq hne => ?_)
    exact h (c :: before) after (by rw [List.cons_append, heq]) hne

/-- A text without data URLs is kept. -/
theorem redactFrom_of_plain (h : ∀ m, IsDataUrl m → ¬ m <:+: text) : redactFrom 0 text = text := by
  have hkept : redactFrom 0 (text ++ []) = text ++ redactFrom 0 [] := by
    refine redactFrom_append fun before after heq _ => dataUrl?_eq_none_iff.mpr ?_
    intro m hm hstart
    rw [List.append_nil] at hstart
    exact h m hm (hstart.isInfix.trans (heq ▸ List.infix_append_right))
  simpa [redactFrom] using hkept

/-- What stands before the first data URL is kept, and the URL is replaced. -/
theorem IsFirst.redactFrom_eq (h : IsFirst text kept url rest) :
    redactFrom 0 text = kept ++ (placeholder url.length ++ redactFrom 0 rest) := by
  rw [h.text_eq, List.append_assoc, redactFrom_append,
    redactFrom_of_found (h.isDataUrl.dataUrl?_eq h.longest)]
  refine fun before after heq hne => dataUrl?_eq_none_iff.mpr ?_
  rintro m hm ⟨behind, hbehind⟩
  have hle := h.leftmost before m behind hm (by
    rw [h.text_eq, ← heq, List.append_assoc, List.append_assoc, List.append_assoc, hbehind])
  rw [← heq, List.length_append] at hle
  exact hne (List.eq_nil_of_length_eq_zero (by omega))

/-- **Redaction puts a placeholder in the place of each URL** and keeps all else. -/
theorem Split.redactFrom_eq (h : Split text pieces last) :
    redactFrom 0 text = rejoin pieces last := by
  induction h with
  | done plain => exact redactFrom_of_plain plain
  | next first behind ih =>
    rw [first.redactFrom_eq, ih, rejoin_cons, first.isDataUrl.utf8ByteSize_eq]

/-! ## What is left -/

/-- What a text begins with does not reach behind a character that it does not hold. -/
theorem prefix_of_prefix_append_cons {c : Char} (before : List Char) {after : List Char}
    (hc : c ∉ m) (h : m <+: before ++ c :: after) : m <+: before := by
  rcases List.prefix_or_prefix_of_prefix h (List.prefix_append before _) with hm | ⟨more, rfl⟩
  · exact hm
  · rw [List.prefix_append_right_inj, List.prefix_cons_iff] at h
    rcases h with rfl | ⟨more, rfl, -⟩
    · rw [List.append_nil]
    · exact absurd (List.mem_append_right before List.mem_cons_self) hc

/-- What is found in a text with a character that it does not hold is found on one side of
that character. -/
theorem infix_or_of_infix_append_cons {c : Char} {before after : List Char} (hc : c ∉ m)
    (h : m <:+: before ++ c :: after) : m <:+: before ∨ m <:+: after := by
  induction before with
  | nil =>
    rcases List.infix_cons_iff.mp h with hstart | hinside
    · exact .inl (prefix_of_prefix_append_cons [] hc hstart).isInfix
    · exact .inr hinside
  | cons d before ih =>
    rcases List.infix_cons_iff.mp h with hstart | hinside
    · exact .inl (prefix_of_prefix_append_cons (d :: before) hc hstart).isInfix
    · exact (ih hinside).imp_left List.infix_cons

/-- A placeholder stands in brackets, and has no colon in it. -/
theorem exists_placeholder_eq (bytes : Nat) :
    ∃ inside, ':' ∉ inside ∧ placeholder bytes = '[' :: (inside ++ [']']) := by
  have hopening : "[base64 data removed, ".toList = '[' :: "base64 data removed, ".toList := by
    simp
  have hclosing : " bytes]".toList = " bytes".toList ++ [']'] := by simp
  have hbrackets (digits : List Char) : "[base64 data removed, ".toList ++ digits
      ++ " bytes]".toList
        = '[' :: ("base64 data removed, ".toList ++ digits ++ " bytes".toList ++ [']']) := by
    rw [hopening, hclosing]
    simp only [List.append_assoc, List.cons_append]
  have hdigits : ':' ∉ Decimal.digits bytes := fun h =>
    absurd (Decimal.isDigit_of_mem_digits bytes _ h) (by decide)
  exact ⟨_, by simp [hdigits], hbrackets (Decimal.digits bytes)⟩

/-- **Nothing more is to be redacted**: a data URL holds no brackets, so that it would have
to stand in one piece of what was kept. -/
theorem Split.not_infix_rejoin (h : Split text pieces last) (hm : IsDataUrl m) :
    ¬ m <:+: rejoin pieces last := by
  induction h with
  | done plain => exact plain m hm
  | @next text kept url rest last pieces first behind ih =>
    have hopening : '[' ∉ m := fun hc => absurd (hm.inDataUrl_of_mem hc) (by decide)
    have hclosing : ']' ∉ m := fun hc => absurd (hm.inDataUrl_of_mem hc) (by decide)
    obtain ⟨inside, hcolon, hplaceholder⟩ :=
      exists_placeholder_eq (String.ofList url).utf8ByteSize
    rw [rejoin_cons, hplaceholder, List.cons_append, List.append_assoc]
    intro hinside
    rcases infix_or_of_infix_append_cons hopening hinside with hkept | hbehind
    · exact first.not_infix_kept hm hkept
    · rcases infix_or_of_infix_append_cons hclosing hbehind with hinside | hrest
      · exact hm.not_infix_of_colon_notMem hcolon hinside
      · exact ih hrest

/-- **Redaction leaves nothing to redact.** What it makes of a text holds no data URL, and
is not changed when it is redacted again. It consists of the text outside the data URLs,
unchanged and in order, with one placeholder for each of them, where the data URLs are the
first one in the text, as long as it can be, the first one in the rest, and so on. -/
theorem redact_leaves_no_dataUrl (s : String) :
    (∀ m, IsDataUrl m → ¬ m <:+: (redact s).toList)
      ∧ redact (redact s) = redact s
      ∧ ∃ pieces last, Split s.toList pieces last
        ∧ (redact s).toList = rejoin pieces last
        ∧ ∀ pieces' last', Split s.toList pieces' last' → pieces' = pieces ∧ last' = last := by
  obtain ⟨pieces, last, hsplit⟩ := exists_split s.toList
  have hredact : (redact s).toList = rejoin pieces last := by
    rw [redact, String.toList_ofList, hsplit.redactFrom_eq]
  have hplain : ∀ m, IsDataUrl m → ¬ m <:+: (redact s).toList := fun m hm =>
    hredact ▸ hsplit.not_infix_rejoin hm
  refine ⟨hplain, ?_, pieces, last, hsplit, hredact, fun _ _ h => h.unique hsplit⟩
  rw [redact, redactFrom_of_plain hplain, String.ofList_toList]

/-- A URL that follows another one at once loses its first letters to it. -/
example : redact "see data:a/b;base64,QQ==data:a/b;base64,Qg==."
    = "see [base64 data removed, 24 bytes]:a/b;base64,Qg==." := by
  decide +kernel

end Colloquy.Log
