import Colloquy.Fence
import Colloquy.Proofs.Json.RoundTrip

/-!
# Objects between fences

An object that stands between fences, the opening one tagged `json` in whatever case, is
read as the object, whatever blanks are around it (`readFenced_fenced`). The fences are
never taken for a part of it: no JSON text begins with a fence, and the text of an object
begins and ends with a brace.
-/

namespace Colloquy.Json

/-- The further fields of an object end with its brace. -/
theorem exists_printFields_eq_concat (es : Fields) :
    ∃ cs, printFields es = cs ++ ['}'] := by
  induction es with
  | nil => exact ⟨[], rfl⟩
  | cons e es ih =>
    obtain ⟨cs, hcs⟩ := ih
    refine ⟨',' :: (printString e.1 ++ ':' :: (e.2.print ++ cs)), ?_⟩
    simp [printFields, hcs]

/-- The text of an object begins and ends with a brace. -/
theorem exists_print_obj_eq (fields : Fields) :
    ∃ cs, (Json.obj fields).print = '{' :: (cs ++ ['}']) := by
  cases fields with
  | nil => exact ⟨[], rfl⟩
  | cons e es =>
    obtain ⟨cs, hcs⟩ := exists_printFields_eq_concat es
    refine ⟨printString e.1 ++ ':' :: (e.2.print ++ cs), ?_⟩
    simp [print, hcs]

end Colloquy.Json

namespace Colloquy.Fence

open Text (isBlank trimStart trimEnd trimChars)

/-- **A text between fences**: the opening one with its tag, blanks, the text, blanks and
the closing one. -/
def fenced (tag before text after : List Char) : List Char :=
  fence ++ (tag ++ (before ++ (text ++ (after ++ fence))))

/-! ## Beginnings and endings -/

theorem after?_append (ds cs : List Char) : after? ds (ds ++ cs) = some cs := by
  induction ds with
  | nil => rfl
  | cons d ds ih => rw [List.cons_append, after?, if_pos rfl, ih]

theorem before?_append (cs ds : List Char) : before? ds (cs ++ ds) = some cs := by
  rw [before?, List.reverse_append, after?_append, Option.map_some, List.reverse_reverse]

variable {tag before after text cs : List Char}

/-- What is a tag on its own is the tag of whatever follows it. -/
theorem afterJsonTag?_append (h : afterJsonTag? tag = some []) (cs : List Char) :
    afterJsonTag? (tag ++ cs) = some cs := by
  unfold afterJsonTag? at h
  split at h
  · split_ifs at h with hletters
    cases h
    exact if_pos hletters
  · cases h

/-! ## What is left without the fences -/

/-- Fences are not trimmed. -/
theorem trimChars_fenced :
    trimChars (fenced tag before text after) = fenced tag before text after := by
  refine Text.trimChars_eq_self (d := '\x60') (by decide) (by decide) ?_
  refine List.getLast?_eq_some_iff.mpr
    ⟨fence ++ (tag ++ (before ++ (text ++ (after ++ ['\x60', '\x60'])))), ?_⟩
  simp [fence, List.replicate_succ]

/-- **Nothing is left but the text**, if it begins with no blank and no fence and ends with
no blank. -/
theorem unfence_fenced {c d : Char} (htag : afterJsonTag? tag = some [])
    (hbefore : ∀ c ∈ before, isBlank c = true) (hafter : ∀ c ∈ after, isBlank c = true)
    (hc : isBlank c = false) (hfence : c ≠ '\x60') (hd : isBlank d = false)
    (htext : text = c :: (cs ++ [d])) :
    unfence (fenced tag before text after) = text := by
  subst htext
  have htagged : dropTaggedFence (fenced tag before (c :: (cs ++ [d])) after)
      = c :: (cs ++ [d] ++ (after ++ fence)) := by
    rw [dropTaggedFence, fenced, after?_append]
    dsimp only [Option.bind]
    rw [afterJsonTag?_append htag]
    dsimp only
    rw [Text.trimStart_append hbefore, List.cons_append, Text.trimStart_cons_of_not_blank hc]
  have hplain : dropPlainFence (c :: (cs ++ [d] ++ (after ++ fence)))
      = c :: (cs ++ [d] ++ (after ++ fence)) := by
    rw [dropPlainFence, fence, List.replicate_succ, after?, if_neg hfence]
  have hclosing : dropClosingFence (c :: (cs ++ [d] ++ (after ++ fence))) = c :: (cs ++ [d]) := by
    rw [← List.append_assoc, ← List.cons_append, dropClosingFence, before?_append]
    dsimp only
    rw [← List.cons_append, Text.trimEnd_append hafter, ← List.cons_append,
      Text.trimEnd_concat_of_not_blank hd]
  rw [unfence, trimChars_fenced, htagged, hplain, hclosing]

/-! ## Reading an object -/

/-- No JSON text begins with a fence. -/
theorem readChars_fence_append (cs : List Char) :
    Json.readChars (fence ++ cs) = .error (.at .expectedValue (fence ++ cs)) := by
  rw [Json.readChars, fence, List.replicate_succ, List.cons_append,
    Json.Reader.readValue_of_scalar (by decide) (by decide) (by decide), Json.Reader.readScalar,
    if_neg (by decide), if_neg (by decide), if_neg (by decide), if_neg (by decide),
    if_neg (by decide)]
  rfl

variable {fields : Json.Fields}

/-- **The text of an object is read as it is**, if it is read at all. -/
theorem readFenced_print (h : Json.readChars (Json.obj fields).print = .ok (.obj fields)) :
    readFenced (Text.trim (Json.obj fields).compact) = .ok (.obj fields) := by
  obtain ⟨cs, hcs⟩ := Json.exists_print_obj_eq fields
  have htrim : trimChars (Json.obj fields).print = (Json.obj fields).print := by
    rw [hcs]
    exact Text.trimChars_eq_self (d := '}') (by decide) (by decide)
      (List.getLast?_eq_some_iff.mpr ⟨'{' :: cs, rfl⟩)
  rw [Text.trim, Json.compact, String.toList_ofList, htrim, readFenced, String.toList_ofList, h]

/-- **So is an object between fences.** -/
theorem readFenced_fenced (h : Json.readChars (Json.obj fields).print = .ok (.obj fields))
    (htag : afterJsonTag? tag = some [])
    (hbefore : ∀ c ∈ before, isBlank c = true) (hafter : ∀ c ∈ after, isBlank c = true) :
    readFenced (Text.trim (String.ofList (fenced tag before (Json.obj fields).print after)))
      = .ok (.obj fields) := by
  obtain ⟨cs, hcs⟩ := Json.exists_print_obj_eq fields
  have hunfence : unfence (fenced tag before (Json.obj fields).print after)
      = (Json.obj fields).print :=
    unfence_fenced htag hbefore hafter (by decide) (by decide) (by decide) hcs
  have hfault := readChars_fence_append
    (tag ++ (before ++ ((Json.obj fields).print ++ (after ++ fence))))
  rw [Text.trim, String.toList_ofList, trimChars_fenced, readFenced, String.toList_ofList]
  rw [fenced] at hunfence ⊢
  rw [hfault]
  dsimp only
  rw [hunfence, readWorded, h]
  rfl

end Colloquy.Fence
