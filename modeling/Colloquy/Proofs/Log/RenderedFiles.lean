import Colloquy.Proofs.Log.DataUrls
import Colloquy.Proofs.ManagedFiles

/-!
# Rendered files in a log line

A file is sent inside of a data URL, and a log line should not show it. What is rendered and
what is redacted do not quite meet. The content always does: a base64 text has only the
characters that redaction takes for a content (`isBase64Char_of_mem_base64`). The media type
need not. It is put into the URL as it is given, and redaction knows letters, digits and four
other characters.

So the URL of a file that is not empty is redacted as a whole exactly if its media type has
only those characters, or is blank, when another one stands for it (`redact_rendered_iff`). A
parameter behind a semicolon, an underscore or a blank is enough for the URL not to be seen.
-/

namespace Colloquy

open Provider (ContentPart Mode)

/-- The file that a part is about, and its media type. -/
def Part.file? : Part → Option (FileSource × String)
  | .image source mime => some (source, mime)
  | .file source mime _ => some (source, mime)
  | _ => none

/-- The URL that a part in a provider's form has in it. -/
def Provider.ContentPart.url? : ContentPart → Option String
  | .imageUrl url => some url
  | .inputImage url => some url
  | .file _ url => some url
  | .inputFile _ url => some url
  | _ => none

/-- **A file that is to be had is sent in its data URL**, whatever the provider. -/
theorem Renderer.exists_part?_eq (r : Renderer) {p : Part} {source : FileSource}
    {mime name : String} {bytes : List UInt8} (hpart : p.file? = some (source, mime))
    (hfile : r.fileOf? source = some (name, bytes)) :
    ∃ sent, r.part? p = some sent ∧ sent.url? = some (dataUrl mime bytes) := by
  cases p with
  | text s | json v => cases hpart
  | image source mime | file source mime filename =>
    cases hpart
    refine ⟨_, by rw [part?, hfile]; rfl, ?_⟩
    cases hmode : r.mode <;> rfl

namespace Log

/-- **A media type that redaction knows**: it is blank, and another one is sent for it, or it
has only the characters of a media type. -/
def KnownMime (mime : String) : Prop :=
  Text.isBlankText mime = true ∨ ∀ c ∈ mime.toList, isMediaChar c = true

instance : DecidablePred KnownMime := fun mime =>
  decidable_of_iff (Text.isBlankText mime = true ∨ mime.toList.all isMediaChar = true)
    (or_congr_right List.all_eq_true)

variable {mime : String} {bytes : List UInt8} {url media content rest : List Char}

/-! ## Base64 texts and media types -/

/-- **A base64 text is a content.** -/
theorem isBase64Char_of_mem_base64 (bytes : List UInt8) :
    ∀ c ∈ Files.base64 bytes, isBase64Char c = true := by
  have hchar : ∀ n < 64, isBase64Char (Files.base64Char n) = true := by decide
  have hpad : isBase64Char '=' = true := by decide
  induction bytes using Files.base64.induct with
  | case1 => simp [Files.base64]
  | case2 a =>
    have ha := a.toNat_lt
    simp only [Files.base64, List.forall_mem_cons, hpad, List.not_mem_nil, false_imp_iff,
      implies_true, and_true]
    exact ⟨hchar _ (by omega), hchar _ (by omega)⟩
  | case3 a b =>
    have ha := a.toNat_lt
    have hb := b.toNat_lt
    simp only [Files.base64, List.forall_mem_cons, hpad, List.not_mem_nil, false_imp_iff,
      implies_true, and_true]
    exact ⟨hchar _ (by omega), hchar _ (by omega), hchar _ (by omega)⟩
  | case4 a b c rest ih =>
    have ha := a.toNat_lt
    have hb := b.toNat_lt
    have hc := c.toNat_lt
    simp only [Files.base64, List.forall_mem_cons]
    exact ⟨hchar _ (by omega), hchar _ (by omega), hchar _ (by omega), hchar _ (by omega), ih⟩

theorem base64_ne_nil (h : bytes ≠ []) : Files.base64 bytes ≠ [] := by
  induction bytes using Files.base64.induct with
  | case1 => exact absurd rfl h
  | case2 a => simp [Files.base64]
  | case3 a b => simp [Files.base64]
  | case4 a b c rest ih => simp [Files.base64]

/-- The media type that is sent. -/
def sentMime (mime : String) : String :=
  if Text.isBlankText mime then Renderer.plainMime else mime

/-- **The form of what is rendered.** -/
theorem toList_dataUrl (mime : String) (bytes : List UInt8) :
    (Renderer.dataUrl mime bytes).toList
      = scheme ++ (sentMime mime).toList ++ marker ++ Files.base64 bytes := by
  have hscheme : "data:".toList = scheme := by simp [scheme]
  have hmarker : ";base64,".toList = marker := by simp [marker]
  simp only [Renderer.dataUrl, String.toList_append, String.toList_ofList, hscheme, hmarker,
    sentMime]

theorem scheme_prefix_dataUrl (mime : String) (bytes : List UInt8) :
    scheme <+: (Renderer.dataUrl mime bytes).toList := by
  simp only [toList_dataUrl, List.append_assoc, List.prefix_append]

/-- The media type that is sent has the characters of one exactly if the given one is known. -/
theorem forall_mem_sentMime_iff :
    (∀ c ∈ (sentMime mime).toList, isMediaChar c = true) ↔ KnownMime mime := by
  unfold sentMime KnownMime
  split
  · rename_i hblank
    exact iff_of_true (List.all_eq_true.mp (by decide +kernel)) (.inl hblank)
  · rename_i hfilled
    exact (or_iff_right hfilled).symm

theorem toList_sentMime_ne_nil (mime : String) : (sentMime mime).toList ≠ [] := by
  unfold sentMime
  split
  · decide +kernel
  · rename_i hfilled
    intro hnil
    exact hfilled (by rw [Text.isBlankText, hnil]; rfl)

/-- **What is a data URL has a media type between scheme and marker**, even where the text
between them could be longer. -/
theorem isMediaChar_of_isDataUrl (h : IsDataUrl (scheme ++ media ++ marker ++ content)) :
    ∀ c ∈ media, isMediaChar c = true := by
  generalize htext : scheme ++ media ++ marker ++ content = text at h
  cases h with
  | @of media' content' _ mediaChars _ contentChars =>
    simp only [List.append_assoc, List.append_cancel_left_eq] at htext
    rcases List.append_eq_append_iff.mp htext with ⟨more, rfl, -⟩ | ⟨more, rfl, hmarker⟩
    · exact fun c hc => mediaChars c (List.mem_append_left more hc)
    · cases more with
      | nil => simpa using mediaChars
      | cons c more =>
        -- the marker would stand in the media type, and its semicolon in what is behind it
        exfalso
        have hbehind : ['b', 'a', 's', 'e', '6', '4', ','] ++ content'
            = more ++ (marker ++ content) := (List.cons.inj hmarker).2
        have hsemicolon : ';' ∈ ['b', 'a', 's', 'e', '6', '4', ','] ++ content' :=
          hbehind ▸ List.mem_append_right more (List.mem_append_left content List.mem_cons_self)
        rcases List.mem_append.mp hsemicolon with hmem | hmem
        · exact absurd hmem (by decide)
        · exact absurd (contentChars _ hmem) (by decide)

/-- **What is rendered is a data URL** exactly if its media type is known. -/
theorem isDataUrl_dataUrl_iff (hbytes : bytes ≠ []) :
    IsDataUrl (Renderer.dataUrl mime bytes).toList ↔ KnownMime mime := by
  rw [toList_dataUrl, ← forall_mem_sentMime_iff]
  refine ⟨isMediaChar_of_isDataUrl, fun hmedia => ?_⟩
  exact .of (toList_sentMime_ne_nil mime) hmedia (base64_ne_nil hbytes)
    (isBase64Char_of_mem_base64 bytes)

/-! ## The placeholder of a URL -/

/-- A placeholder tells how many bytes it stands for. -/
theorem eq_of_placeholder_append {m n : Nat} (h : placeholder m ++ rest = placeholder n) :
    m = n := by
  have hdigits (n : Nat) (cs : List Char) :
      (Decimal.digits n ++ " bytes]".toList ++ cs).takeWhile Decimal.isDigit
        = Decimal.digits n := by
    rw [List.append_assoc, List.takeWhile_append_of_pos (Decimal.isDigit_of_mem_digits n)]
    simp [Decimal.isDigit]
  unfold placeholder at h
  rw [List.append_assoc, List.append_assoc, List.append_assoc, List.append_cancel_left_eq,
    ← List.append_assoc] at h
  have hm := hdigits m rest
  rw [h, ← List.append_nil (Decimal.digits n ++ _), hdigits] at hm
  rw [← Decimal.valueOf_digits m, ← hm, Decimal.valueOf_digits]

/-- A data URL at the beginning of a text is all of it if it has as many bytes. -/
theorem eq_of_prefix_of_length_eq (h : IsDataUrl url) {text : String}
    (hstart : url <+: text.toList) (hlength : url.length = text.utf8ByteSize) :
    text.toList = url := by
  obtain ⟨rest, hrest⟩ := hstart
  have htext : text = String.ofList url ++ String.ofList rest := by
    rw [← String.ofList_append, hrest, String.ofList_toList]
  have hsize : (String.ofList rest).utf8ByteSize = 0 := by
    have hsum := congrArg String.utf8ByteSize htext
    rw [String.utf8ByteSize_append, h.utf8ByteSize_eq] at hsum
    omega
  have hempty := String.ofList_eq_empty_iff.mp (String.utf8ByteSize_eq_zero_iff.mp hsize)
  rw [← hrest, hempty, List.append_nil]

/-- **A text that begins like a data URL is redacted as a whole** exactly if it is one. -/
theorem redact_eq_placeholder_iff {text : String} (hscheme : scheme <+: text.toList) :
    redact text = String.ofList (placeholder text.utf8ByteSize) ↔ IsDataUrl text.toList := by
  rw [redact, String.ofList_inj]
  constructor
  · intro h
    cases hfound : dataUrl? text.toList with
    | none =>
      -- the first letter is kept, and no placeholder begins with it
      obtain ⟨behind, hbehind⟩ := hscheme
      obtain ⟨inside, -, hplaceholder⟩ := exists_placeholder_eq text.utf8ByteSize
      rw [← hbehind] at h hfound
      rw [show scheme ++ behind = 'd' :: (['a', 't', 'a', ':'] ++ behind) from rfl] at h hfound
      rw [redactFrom, hfound, hplaceholder] at h
      exact absurd (List.cons.inj h).1 (by decide)
    | some url =>
      obtain ⟨hurl, hstart⟩ := isDataUrl_of_dataUrl? hfound
      obtain ⟨rest, hrest⟩ := hstart
      rw [← hrest] at h hfound
      rw [redactFrom_of_found hfound] at h
      have hlength := eq_of_placeholder_append h
      rwa [eq_of_prefix_of_length_eq hurl ⟨rest, hrest⟩ hlength]
  · intro h
    have hfound : dataUrl? (text.toList ++ []) = some text.toList := by
      simpa using h.dataUrl?_append []
    have hsize := h.utf8ByteSize_eq
    rw [String.ofList_toList] at hsize
    rw [← List.append_nil text.toList, redactFrom_of_found hfound, redactFrom, List.append_nil,
      hsize]

/-- **A data URL is shown in a log line as its placeholder**: there is nothing to trim at it,
and it is on one line. -/
theorem preview_of_isDataUrl {text : String} (h : IsDataUrl text.toList) (n : Nat) :
    preview n text = Text.preview n (redact text) := by
  have hvisible : ∀ c ∈ text.toList, Text.isBlank c = false := by
    intro c hc
    obtain ⟨hlow, hhigh⟩ := toNat_of_inDataUrl (h.inDataUrl_of_mem hc)
    simp only [Text.isBlank, Bool.or_eq_false_iff, Bool.and_eq_false_iff, decide_eq_false_iff_not,
      beq_eq_false_iff_ne]
    omega
  have htrim : Text.trim text = text := by
    obtain ⟨c, cs, hcs⟩ := List.exists_cons_of_length_pos h.length_pos
    have hlast := List.getLast?_eq_some_getLast (List.cons_ne_nil c cs)
    have hmem : (c :: cs).getLast (List.cons_ne_nil c cs) ∈ text.toList := by
      rw [hcs]
      exact List.mem_of_getLast? hlast
    rw [Text.trim, hcs, Text.trimChars_eq_self (hvisible c (hcs ▸ List.mem_cons_self))
      (hvisible _ hmem) hlast, ← hcs, String.ofList_toList]
  have hline : Text.onOneLine text = text := by
    have hsame : ∀ c ∈ text.toList, (if c = '\n' then ' ' else c) = c := by
      intro c hc
      refine if_neg fun hbreak => ?_
      exact absurd (hvisible c hc) (hbreak ▸ by decide)
    rw [Text.onOneLine, List.map_congr_left hsame, List.map_id', String.ofList_toList]
  rw [preview, htrim, hline]

/-- **What a log shows of a rendered file.** A file that is to be had and is not empty is sent
in a data URL, and that URL is redacted as a whole, with a placeholder that tells how many
bytes it had, exactly if the media type of the part is one that redaction knows. A preview of
it is then a preview of the placeholder, at whatever length. -/
theorem redact_rendered_iff (r : Renderer) {p : Part} {source : FileSource} {mime name : String}
    {bytes : List UInt8} (hpart : p.file? = some (source, mime))
    (hfile : r.fileOf? source = some (name, bytes)) (hbytes : bytes ≠ []) :
    ∃ sent url, r.part? p = some sent ∧ sent.url? = some url
      ∧ (redact url = String.ofList (placeholder url.utf8ByteSize) ↔ KnownMime mime)
      ∧ (KnownMime mime → ∀ n,
        preview n url = Text.preview n (String.ofList (placeholder url.utf8ByteSize))) := by
  obtain ⟨sent, hsent, hurl⟩ := r.exists_part?_eq hpart hfile
  have hredact := redact_eq_placeholder_iff (scheme_prefix_dataUrl mime bytes)
  refine ⟨sent, _, hsent, hurl, hredact.trans (isDataUrl_dataUrl_iff hbytes), fun hmime n => ?_⟩
  have hdataUrl := (isDataUrl_dataUrl_iff hbytes).mpr hmime
  rw [preview_of_isDataUrl hdataUrl, hredact.mpr hdataUrl]

/-- An image of a known type, behind a link, is shown as a placeholder of thirty bytes, of
which a short preview has the beginning. -/
theorem redact_rendered_iff_linked :
    let r := Renderer.make .responses Renderer.linkedFiles (some "/srv/files")
    let url := "data:image/svg+xml;base64,AQID"
    Part.file? (.image (.managed "here") "image/svg+xml") = some (.managed "here", "image/svg+xml")
      ∧ r.fileOf? (.managed "here") = some ("cat.png", [1, 2, 3]) ∧ [1, 2, 3] ≠ ([] : List UInt8)
      ∧ r.part? (.image (.managed "here") "image/svg+xml") = some (.inputImage url)
      ∧ redact url = "[base64 data removed, 30 bytes]" ∧ preview 12 url = "[base64 data..." := by
  have hfile : (Renderer.make .responses Renderer.linkedFiles (some "/srv/files")).fileOf?
      (.managed "here") = some ("cat.png", [1, 2, 3]) := by decide +kernel
  have hbytes : [1, 2, 3] ≠ ([] : List UInt8) := by decide
  have hmime : KnownMime "image/svg+xml" := by decide +kernel
  have hdataUrl : Renderer.dataUrl "image/svg+xml" [1, 2, 3]
      = "data:image/svg+xml;base64,AQID" := by decide +kernel
  have hsent : (Renderer.make .responses Renderer.linkedFiles (some "/srv/files")).part?
      (.image (.managed "here") "image/svg+xml")
        = some (.inputImage "data:image/svg+xml;base64,AQID") := by
    rw [Renderer.part?, hfile, ← hdataUrl]
    rfl
  obtain ⟨sent, url, hpart, hurl, hredact, hpreview⟩ := redact_rendered_iff _
    (p := .image (.managed "here") "image/svg+xml") rfl hfile hbytes
  rw [hsent] at hpart
  cases hpart
  cases hurl
  refine ⟨rfl, hfile, hbytes, hsent, ?_, ?_⟩
  · exact (hredact.mpr hmime).trans (by decide +kernel)
  · exact (hpreview hmime 12).trans (by decide +kernel)

/-- **The URL of a file with a parameter in its media type is not seen.** -/
theorem not_redact_rendered :
    ¬ ∀ (r : Renderer) (p : Part) (source : FileSource) (mime name : String)
      (bytes : List UInt8), p.file? = some (source, mime) →
        r.fileOf? source = some (name, bytes) → bytes ≠ [] →
          ∃ sent url, r.part? p = some sent ∧ sent.url? = some url
            ∧ redact url = String.ofList (placeholder url.utf8ByteSize) := by
  intro h
  have hfile : (Renderer.make .responses Renderer.linkedFiles (some "/srv/files")).fileOf?
      (.managed "here") = some ("cat.png", [1, 2, 3]) := by decide +kernel
  have hpart : Part.file? (.image (.managed "here") "text/plain;charset=utf-8")
      = some (.managed "here", "text/plain;charset=utf-8") := rfl
  obtain ⟨sent, hsent, hurl⟩ := Renderer.exists_part?_eq _ hpart hfile
  obtain ⟨sent', url, hsent', hurl', hredact⟩ := h _ _ _ _ _ _ hpart hfile (by decide)
  obtain rfl := Option.some.inj (hsent.symm.trans hsent')
  obtain rfl := Option.some.inj (hurl.symm.trans hurl')
  have hdataUrl := (redact_eq_placeholder_iff (scheme_prefix_dataUrl _ _)).mp hredact
  have hmime := (isDataUrl_dataUrl_iff (by decide)).mp hdataUrl
  exact absurd hmime (by decide +kernel)

end Log

end Colloquy
