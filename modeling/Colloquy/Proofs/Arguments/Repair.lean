import Colloquy.Proofs.Arguments.Candidates
import Colloquy.Proofs.Json.Braces

/-!
# Objects cut short

The text of an object without some of its last braces cannot be read as it is, neither as
JSON nor as a dict literal, so that it is the repair that decides. The repair adds as many
braces as the text has too few of, wherever they are. That is what the text lacks if the keys
and strings of the object hold as many opening as closing braces. Otherwise it adds too many
or too few, or none, and what comes of it cannot be read either (`read_cut`).
-/

namespace Colloquy.DictLiteral

open Json (Unclosed printString)

variable {cs : List Char} {depth fuel : Nat}

/-! ## What cannot be read as a dict literal -/

/-- A field of JSON text, as the reader sees it. -/
theorem fields_printString (k : String) (rest : List Char) :
    fields (fuel + 1) (printString k ++ ':' :: rest)
      = (value fuel rest).bind (fieldsBehind fuel k) := by
  have hfields : fields (fuel + 1) (printString k ++ ':' :: ([] ++ rest))
      = (value fuel rest).bind (fieldsBehind fuel k) :=
    quotes_printChar.fields_append k (by simp) rest
  exact hfields

/-- **There is no end to be found of a dict that is not closed.** -/
theorem fields_eq_none_of_unclosed (h : Unclosed depth cs) (hfuel : cs.length < fuel) :
    fields fuel cs = none := by
  obtain ⟨fuel, rfl⟩ : ∃ n, fuel = n + 1 := Nat.exists_eq_add_of_le' (by omega)
  induction h generalizing fuel with
  | nothing =>
    rw [fields]
    rfl
  | @last depth v k hv =>
    obtain ⟨x, hx⟩ := exists_reads_print hv.fits
    simp only [List.length_cons, List.length_append] at hfuel
    have hvalue : value fuel (v.print ++ []) = x.map (·, []) := hx.value (by omega) ends_nil
    rw [List.append_nil] at hvalue
    rw [fields_printString, hvalue]
    cases x <;> rfl
  | @within depth cs k inner ih =>
    simp only [List.length_cons, List.length_append] at hfuel
    obtain ⟨fuel, rfl⟩ : ∃ n, fuel = n + 2 := Nat.exists_eq_add_of_le' (by omega)
    have hlength : cs.length < fuel + 1 := by omega
    rw [fields_printString, value, token_cons (by decide) (by decide)]
    show ((fields (fuel + 1) cs).bind _).bind _ = _
    rw [ih fuel hlength]
    rfl
  | @more depth v cs k hv further ih =>
    obtain ⟨x, hx⟩ := exists_reads_print hv.fits
    simp only [List.length_cons, List.length_append] at hfuel
    obtain ⟨fuel, rfl⟩ : ∃ n, fuel = n + 1 := Nat.exists_eq_add_of_le' (by omega)
    have hlength : cs.length < fuel + 1 := by omega
    rw [fields_printString, hx.value (by omega) (ends_cons (by simp) cs)]
    cases x with
    | none => rfl
    | some x =>
      rw [Option.map_some, Option.bind_some, fieldsBehind, token_cons (by decide) (by decide)]
      show (fields (fuel + 1) cs).bind _ = _
      rw [ih fuel hlength]
      rfl

theorem readChars_eq_none_of_unclosed (h : Unclosed depth cs) : readChars ('{' :: cs) = none := by
  have hfuel : cs.length < 2 * ('{' :: cs).length + 1 := by
    rw [List.length_cons]
    omega
  rw [readChars, value, token_cons (by decide) (by decide)]
  show ((fields (2 * ('{' :: cs).length + 1) cs).bind _).bind _ = _
  rw [fields_eq_none_of_unclosed h hfuel]
  rfl

/-- Nothing is respelled behind a brace that is not closed. -/
theorem respelledAs_of_unclosed (h : Unclosed depth cs) : RespelledAs cs cs := by
  induction h with
  | nothing => exact respelledAs_nil
  | last k hv => exact respelledAs_field k (respelledAs_print hv.fits)
  | within k inner ih => exact respelledAs_field k (ih.cons (by decide))
  | more k hv further ih =>
    exact respelledAs_field k ((respelledAs_print hv.fits).append_cons (by decide) ih)

theorem respelledAs_closing (n : Nat) :
    RespelledAs (List.replicate n '}') (List.replicate n '}') := by
  induction n with
  | zero => exact respelledAs_nil
  | succ n ih => exact ih.cons (by decide)

end Colloquy.DictLiteral

namespace Colloquy.Arguments

open Json (Unclosed Readable excess excess_print)
open Json.Reader (greatestDepth)
open Text (trimChars)

variable {cs cut : List Char} {m : Json.Fields} {depth k n : Nat}

/-! ## Candidates -/

/-- **An object that is not closed stands for nothing.** -/
theorem object?_of_unclosed (h : Unclosed depth cs) (hdepth : greatestDepth = depth + 1) :
    object? (String.ofList ('{' :: cs)) = none := by
  obtain ⟨fault, hfault⟩ := h.exists_readChars_eq_error hdepth
  have hrespell := (DictLiteral.respelledAs_of_unclosed h).cons (c := '{') (by decide)
  rw [object?_of_unread hfault, hrespell.respellWords_eq,
    DictLiteral.readChars_eq_none_of_unclosed h]
  rfl

/-- **An object that lacks its last braces stands for nothing.** -/
theorem object?_of_cut (h : (Json.obj m).Readable greatestDepth)
    (hcut : (Json.obj m).print = cut ++ List.replicate (n + 1) '}') :
    object? (String.ofList cut) = none := by
  obtain ⟨depth, cs, hdepth, rfl, hcs⟩ := h.unclosed hcut
  exact object?_of_unclosed hcs hdepth

/-- **Neither does one with braces too many.** -/
theorem object?_print_append (h : (Json.obj m).Readable greatestDepth) (n : Nat) :
    object? (String.ofList ((Json.obj m).print ++ List.replicate (n + 1) '}')) = none := by
  obtain ⟨fault, hfault⟩ := h.exists_readChars_eq_error n
  obtain ⟨x, hx⟩ := DictLiteral.exists_reads_print h.fits
  have hrespell := (DictLiteral.respelledAs_print h.fits).append
    (DictLiteral.respelledAs_closing (n + 1)) fun rest _ => DictLiteral.apart_cons (by decide) _
  have hends : DictLiteral.Ends (List.replicate (n + 1) '}') := DictLiteral.ends_cons (by simp) _
  rw [object?_of_unread hfault, hrespell.respellWords_eq,
    hx.readChars_append hends (by simp)]
  rfl

/-- An object stands for itself. -/
theorem object?_print (h : (Json.obj m).Readable greatestDepth) :
    object? (String.ofList (Json.obj m).print) = some m :=
  object?_of_readChars h.readChars_print

/-- **The repair of an object that is not closed** adds as many braces as there are too few
of. -/
theorem repair?_of_unclosed (h : Unclosed depth cs) :
    repair? (String.ofList ('{' :: cs))
      = if 0 < excess ('{' :: cs) then
          some (String.ofList ('{' :: cs ++ List.replicate (excess ('{' :: cs)).toNat '}'))
        else none := by
  obtain ⟨d, hlast, hblank⟩ := h.exists_getLast? (c := '{') (by decide)
  have htrim : trimChars ('{' :: cs) = '{' :: cs :=
    Text.trimChars_eq_self (by decide) hblank hlast
  have hopens : opensBrace ('{' :: cs) = true := rfl
  have hlacks : ('{' :: cs).count '}' < ('{' :: cs).count '{' ↔ 0 < excess ('{' :: cs) := by
    unfold excess
    omega
  have hcount : ('{' :: cs).count '{' - ('{' :: cs).count '}' = (excess ('{' :: cs)).toNat := by
    unfold excess
    omega
  rw [repair?, String.toList_ofList, htrim, hopens, Bool.true_and, hcount]
  simp only [decide_eq_true_eq, hlacks]

/-- **What the repair of an object cut short stands for**: the object if as many braces open
as close in its keys and strings, and nothing if not. -/
theorem repair?_bind_object?_of_cut (h : (Json.obj m).Readable greatestDepth)
    (hcut : (Json.obj m).print = cut ++ List.replicate (n + 1) '}') :
    (repair? (String.ofList cut)).bind object?
      = if excess (Json.obj m).wording = 0 then some m else none := by
  obtain ⟨depth, cs, -, rfl, hcs⟩ := h.unclosed hcut
  have hexcess : excess ('{' :: cs) = excess (Json.obj m).wording + (n + 1 : Nat) := by
    rw [← excess_print, hcut, Json.excess_append, Json.excess_replicate]
    omega
  rw [repair?_of_unclosed hcs]
  rcases lt_trichotomy (excess (Json.obj m).wording) 0 with hneg | hzero | hpos
  · -- Too few braces are added, or none.
    rw [if_neg hneg.ne]
    split_ifs with hlacks
    · obtain ⟨added, hadded⟩ : ∃ b, (excess ('{' :: cs)).toNat + (b + 1) = n + 1 :=
        ⟨n - (excess ('{' :: cs)).toNat, by omega⟩
      rw [← hadded, List.replicate_add, ← List.append_assoc] at hcut
      exact object?_of_cut h hcut
    · rfl
  · have hadded : (excess ('{' :: cs)).toNat = n + 1 := by omega
    rw [if_pos hzero, if_pos (by omega), hadded, ← hcut]
    exact object?_print h
  · -- Too many are added.
    obtain ⟨more, hmore⟩ : ∃ b, (excess ('{' :: cs)).toNat = n + 1 + (b + 1) :=
      ⟨(excess (Json.obj m).wording).toNat - 1, by omega⟩
    rw [if_neg hpos.ne', if_pos (by omega), hmore, List.replicate_add, ← List.append_assoc, ← hcut]
    exact object?_print_append h more

/-- **What an object cut short stands for.** The text of an object without some of its last
braces is repaired exactly if as many braces open as close in its keys and strings. If not,
there is only a complaint. -/
theorem read_cut (h : (Json.obj m).Readable greatestDepth)
    (hcut : (Json.obj m).print = cut ++ List.replicate k '}') :
    read (String.ofList cut)
      = if k = 0 ∨ (Json.obj m).wording.count '{' = (Json.obj m).wording.count '}' then .ok m
        else .error (complaint (String.ofList cut)) := by
  cases k with
  | zero =>
    rw [List.replicate_zero, List.append_nil] at hcut
    subst hcut
    obtain ⟨cs, hcs⟩ := Json.exists_print_obj_eq m
    have hbrace : (String.ofList (Json.obj m).print).toList = '{' :: (cs ++ ['}']) := by
      rw [String.toList_ofList, hcs]
    rw [read_of_brace hbrace, object?_print h, if_pos (.inl rfl)]
    rfl
  | succ n =>
    obtain ⟨depth, cs, hdepth, rfl, hcs⟩ := h.unclosed hcut
    have hbalance : (n + 1 = 0
        ∨ (Json.obj m).wording.count '{' = (Json.obj m).wording.count '}')
        ↔ excess (Json.obj m).wording = 0 := by
      unfold excess
      omega
    rw [read_of_brace String.toList_ofList, object?_of_unclosed hcs hdepth, Option.none_or,
      repair?_bind_object?_of_cut h hcut]
    by_cases hzero : excess (Json.obj m).wording = 0
    · rw [if_pos hzero, if_pos (hbalance.mpr hzero)]
    · rw [if_neg hzero, if_neg (mt hbalance.mp hzero)]

/-- Arguments with an object in them, and with braces in a string. -/
def search : Json.Fields :=
  [("exact", .bool true), ("filter", .obj [("kind", .str "\x7bpdf\x7d")])]

/-- The text of these arguments without its last braces. -/
def searchCut : List Char :=
  "\x7b\"exact\":true,\"filter\":\x7b\"kind\":\"\x7bpdf\x7d\"".toList

theorem read_cut_search :
    (Json.obj search).Readable greatestDepth ∧
    (Json.obj search).print = searchCut ++ List.replicate 2 '}' ∧
    (Json.obj search).wording.count '{' = 1 ∧ (Json.obj search).wording.count '}' = 1 ∧
    read (String.ofList searchCut) = .ok search := by
  have hsorted : Json.Fields.Sorted search := by
    simpa [search, Json.Fields.Sorted] using (by decide +kernel : "exact" < "filter")
  have hinner : (Json.obj [("kind", .str "\x7bpdf\x7d")]).InOrder :=
    .obj (List.pairwise_singleton _ _) (by simp [Json.InOrder.str])
  have hreadable : (Json.obj search).Readable greatestDepth :=
    { fits := .obj (by simp [search, Json.Fits.bool, Json.Fits.obj, Json.Fits.str])
      inOrder := .obj hsorted (by simp [search, Json.InOrder.bool, hinner])
      readsBack := by simp [search] }
  have hcut : (Json.obj search).print = searchCut ++ List.replicate 2 '}' := by decide
  have hopening : (Json.obj search).wording.count '{' = 1 := by decide
  have hclosing : (Json.obj search).wording.count '}' = 1 := by decide
  refine ⟨hreadable, hcut, hopening, hclosing, ?_⟩
  rw [read_cut hreadable hcut, if_pos (.inr (hopening.trans hclosing.symm))]

/-- Arguments with nothing but a closing brace in them. -/
def closingBrace : Json.Fields :=
  [("a", .str "\x7d")]

/-- **A brace in a string keeps an object from being repaired.** -/
theorem not_read_cut_closing :
    ¬∀ (m : Json.Fields) (cut : List Char) (k : Nat), (Json.obj m).Readable greatestDepth →
      (Json.obj m).print = cut ++ List.replicate k '}' → read (String.ofList cut) = .ok m := by
  intro hrepairs
  have hreadable : (Json.obj closingBrace).Readable greatestDepth :=
    { fits := .obj (by simp [closingBrace, Json.Fits.str])
      inOrder := .obj (List.pairwise_singleton _ _) (by simp [closingBrace, Json.InOrder.str])
      readsBack := by simp [closingBrace] }
  have hcut : (Json.obj closingBrace).print
      = ['{', '"', 'a', '"', ':', '"', '}', '"'] ++ List.replicate 1 '}' := rfl
  have hread := hrepairs closingBrace _ 1 hreadable hcut
  have hrefused : (read (String.ofList ['{', '"', 'a', '"', ':', '"', '}', '"'])).isOk = false := by
    decide +kernel
  rw [hread] at hrefused
  cases hrefused

end Colloquy.Arguments
