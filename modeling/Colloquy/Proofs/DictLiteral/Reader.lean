import Colloquy.Proofs.DictLiteral.Words
import Mathlib.Data.List.TakeWhile

/-!
# What the reader of dict literals takes

A text is **read as a value** if that is what the reader makes of it, wherever in a larger
text it stands, and if it leaves just what follows (`Reads`). It may also be that it cannot
be read at all, which is then so wherever it stands. What may follow is a comma or the end of
a list or dict.

Nothing is assumed about where texts come from. There is one lemma for each way of making one
of others: lists from items and dicts from fields, one at a time from behind, with or without
blanks behind the signs between them. A step takes at least one character, so that the length
of a text is fuel enough.

Numbers are taken whole because a run of digits, points, signs and exponent marks goes on as
far as it can. The one exception is a zero in front, behind which the reader looks for a
point or an exponent before it goes on; so no sign may stand there (`IsMagnitude`).
-/

namespace Colloquy.DictLiteral

open Decimal (isDigit digits)

/-- **A value ends** at the start of a text. -/
def Ends (rest : List Char) : Prop :=
  ∀ c ∈ rest.head?, c = ',' ∨ c = ']' ∨ c = '}'

/-- **A text is read as a value**, if there is one, in front of whatever follows it. Its first
character is seen twice: once by the list it may be the first item of. -/
structure Reads (cs : List Char) (v : Option Json) : Prop where
  /-- It begins with no blank, no comment and no end of a list. -/
  begins : ∃ c ds, cs = c :: ds ∧ isSpace c = false ∧ c ≠ '/' ∧ c ≠ ']'
  /-- That is what is read. -/
  value : ∀ {fuel rest}, cs.length ≤ fuel → Ends rest →
    value fuel (cs ++ rest) = v.map (·, rest)

/-- **A text is read as the items of a list** up to its closing bracket. -/
def ReadsItems (cs : List Char) (vs : Option (List Json)) : Prop :=
  ∀ fuel rest, cs.length ≤ fuel → items fuel (cs ++ rest) = vs.map (·, rest)

/-- **A text is read as the fields of a dict** up to its closing brace. -/
def ReadsFields (cs : List Char) (es : Option (List (String × Json))) : Prop :=
  ∀ fuel rest, cs.length ≤ fuel → fields fuel (cs ++ rest) = es.map (·, rest)

/-- **A text is a number without its sign**, as far as the reader can tell: it begins with a
digit, behind which there is no sign, or with something that is no number. -/
structure IsMagnitude (cs : List Char) : Prop where
  /-- It begins with a digit or with the mark of an exponent. -/
  begins : ∃ c ds, cs = c :: ds ∧ (isDigit c = true ∨ c = 'e')
    ∧ (isDigit c = true → ∀ d ∈ ds.head?, d ≠ '+' ∧ d ≠ '-')
  /-- It is one run. -/
  oneRun : ∀ c ∈ cs, inRun c = true

variable {c mark : Char} {write : Char → List Char} {cs ds gap rest : List Char} {fuel : Nat}
variable {v : Option Json} {vs : Option (List Json)} {es : Option (List (String × Json))}

/-! ## Tokens -/

theorem ends_nil : Ends [] := by
  intro c hc
  cases hc

theorem ends_cons (h : c = ',' ∨ c = ']' ∨ c = '}') (cs : List Char) : Ends (c :: cs) := by
  intro d hd
  cases hd
  exact h

/-- What is neither blank nor comment is a token. -/
theorem token_cons (hspace : isSpace c = false) (hcomment : c ≠ '/') (cs : List Char) :
    token (c :: cs) = some (c :: cs) := by
  unfold token
  rw [List.dropWhile_cons_of_neg (by simp [hspace])]
  split
  · next heq => exact absurd (List.cons.inj heq).1 hcomment
  · rfl

theorem token_of_ends (h : Ends rest) : token rest = some rest := by
  cases rest with
  | nil => rfl
  | cons c rest =>
    have hc := h c rfl
    refine token_cons ?_ ?_ rest
    · rcases hc with rfl | rfl | rfl <;> decide
    · rcases hc with rfl | rfl | rfl <;> decide

/-- Blanks in front are passed over. -/
theorem token_append (h : ∀ c ∈ gap, isSpace c = true) (cs : List Char) :
    token (gap ++ cs) = token cs := by
  unfold token
  rw [List.dropWhile_append_of_pos h]

theorem value_append (h : ∀ c ∈ gap, isSpace c = true) (fuel : Nat) (cs : List Char) :
    value fuel (gap ++ cs) = value fuel cs := by
  cases fuel with
  | zero => rfl
  | succ fuel => rw [value, value, token_append h]

/-! ## Scalars -/

/-- A value that is neither list nor dict is a scalar. -/
theorem value_of_scalar (hspace : isSpace c = false) (hcomment : c ≠ '/') (hlist : c ≠ '[')
    (hdict : c ≠ '{') (cs : List Char) : value (fuel + 1) (c :: cs) = scalar (c :: cs) := by
  rw [value, token_cons hspace hcomment]
  dsimp only [bind, Option.bind]
  split
  · next heq => exact absurd (List.cons.inj heq).1 hlist
  · next heq => exact absurd (List.cons.inj heq).1 hdict
  · rfl

/-- A scalar is read as a value if it is read as one. -/
theorem Reads.of_scalar (hspace : isSpace c = false) (hcomment : c ≠ '/') (hlist : c ≠ '[')
    (hend : c ≠ ']') (hdict : c ≠ '{')
    (h : ∀ rest, Ends rest → scalar (c :: cs ++ rest) = v.map (·, rest)) :
    Reads (c :: cs) v where
  begins := ⟨c, cs, rfl, hspace, hcomment, hend⟩
  value {fuel rest} hfuel hrest := by
    obtain ⟨fuel, rfl⟩ := Nat.exists_eq_add_of_le' (Nat.le_of_add_left_le hfuel)
    rw [← h rest hrest]
    exact value_of_scalar hspace hcomment hlist hdict _

theorem reads_null : Reads ['n', 'u', 'l', 'l'] (some .null) :=
  .of_scalar (by decide) (by decide) (by decide) (by decide) (by decide) fun _ _ => rfl

theorem reads_true : Reads ['t', 'r', 'u', 'e'] (some (.bool true)) :=
  .of_scalar (by decide) (by decide) (by decide) (by decide) (by decide) fun _ _ => rfl

theorem reads_false : Reads ['f', 'a', 'l', 's', 'e'] (some (.bool false)) :=
  .of_scalar (by decide) (by decide) (by decide) (by decide) (by decide) fun _ _ => rfl

/-- **A string is read.** -/
theorem Quotes.reads (h : Quotes mark write) (s : String) :
    Reads (quoted mark write s) (some (.str s)) := by
  have hmark := isQuotationMark_iff.mp h.isMark
  have hscalar (rest : List Char) :
      scalar (quoted mark write s ++ rest) = some (.str s, rest) := by
    have hstring : scalar (mark :: (s.toList.flatMap write ++ mark :: rest))
        = (string mark (s.toList.flatMap write ++ mark :: rest)).map fun r => (.str r.1, r.2) := by
      rcases hmark with rfl | rfl <;> rfl
    rw [quoted_append, hstring, h.string_flatMap]
    rfl
  refine .of_scalar ?_ ?_ ?_ ?_ ?_ fun rest _ => hscalar rest
  all_goals rcases hmark with rfl | rfl <;> decide

/-! ## Numbers -/

theorem inRun_of_isDigit (h : isDigit c = true) : inRun c = true := by
  simp [inRun, h]

theorem takeWhile_inRun (h : ∀ c ∈ cs, inRun c = true) (hrest : Ends rest) :
    (cs ++ rest).takeWhile inRun = cs ∧ (cs ++ rest).dropWhile inRun = rest := by
  have hstops : rest.takeWhile inRun = [] ∧ rest.dropWhile inRun = rest := by
    cases rest with
    | nil => exact ⟨rfl, rfl⟩
    | cons c rest =>
      have hc : ¬ inRun c = true := by
        rcases hrest c rfl with rfl | rfl | rfl <;> decide
      exact ⟨List.takeWhile_cons_of_neg hc, List.dropWhile_cons_of_neg hc⟩
  rw [List.takeWhile_append_of_pos h, List.dropWhile_append_of_pos h, hstops.1, hstops.2,
    List.append_nil]
  exact ⟨rfl, rfl⟩

/-- A run is taken whole. -/
theorem run_append (h : ∀ c ∈ cs, inRun c = true) (hrest : Ends rest) (negative : Bool) :
    run negative (cs ++ rest) = (runValue? negative cs).map (·, rest) := by
  obtain ⟨htake, hdrop⟩ := takeWhile_inRun h hrest
  rw [run, htake, hdrop]

/-- What a reader of numbers does at a digit other than zero. -/
theorem magnitude_of_isDigit (hdigit : isDigit c = true) (hzero : c ≠ '0') (negative : Bool)
    (cs : List Char) : magnitude negative (c :: cs) = run negative (c :: cs) := by
  have hI : c ≠ 'I' := by rintro rfl; exact absurd hdigit (by decide)
  have hN : c ≠ 'N' := by rintro rfl; exact absurd hdigit (by decide)
  unfold magnitude
  split
  · next heq => cases heq
  · next heq => exact absurd (List.cons.inj heq).1 hzero
  · next heq =>
    cases heq
    rw [if_neg hI, if_neg hN, if_pos (by simp [hdigit])]

/-- **A number without its sign is taken whole.** -/
theorem IsMagnitude.exists_magnitude (h : IsMagnitude cs) (negative : Bool) :
    ∃ v : Option Json, ∀ rest, Ends rest → magnitude negative (cs ++ rest) = v.map (·, rest) := by
  obtain ⟨c, ds, rfl, hc, hsign⟩ := h.begins
  by_cases hdigit : isDigit c = true
  · by_cases hzero : c = '0'
    · subst hzero
      cases ds with
      | nil =>
        refine ⟨some (integer negative 0), fun rest hrest => ?_⟩
        cases rest with
        | nil => rfl
        | cons d rest => rcases hrest d rfl with rfl | rfl | rfl <;> rfl
      | cons d ds =>
        have hd : inRun d = true := h.oneRun d (by simp)
        obtain ⟨hplus, hminus⟩ := hsign hdigit d rfl
        have hx : ¬ (decide (d = 'x') || decide (d = 'X')) = true := by
          simp only [Bool.or_eq_true, decide_eq_true_eq]
          rintro (rfl | rfl) <;> exact absurd hd (by decide)
        by_cases hgoesOn : (decide (d = '.') || decide (d = 'e') || decide (d = 'E')) = true
        · refine ⟨runValue? negative ('0' :: d :: ds), fun rest hrest => ?_⟩
          rw [← run_append h.oneRun hrest]
          show (if _ then _ else if _ then _ else _) = _
          rw [if_neg hx, if_pos hgoesOn]
        · have hd' : isDigit d = true := by
            simp only [Bool.or_eq_true, decide_eq_true_eq, not_or] at hgoesOn
            simpa [inRun, hplus, hminus, hgoesOn] using hd
          refine ⟨none, fun rest hrest => ?_⟩
          show (if _ then _ else if _ then _ else if _ then _ else _) = _
          rw [if_neg hx, if_neg hgoesOn, if_pos hd']
          rfl
    · refine ⟨runValue? negative (c :: ds), fun rest hrest => ?_⟩
      rw [← run_append h.oneRun hrest]
      exact magnitude_of_isDigit hdigit hzero negative _
  · obtain rfl := hc.resolve_left hdigit
    exact ⟨none, fun _ _ => rfl⟩

/-- What a number does not begin with. -/
theorem ne_of_number (h : c = '-' ∨ isDigit c = true ∨ c = 'e') :
    isSpace c = false ∧ c ≠ '/' ∧ c ≠ '[' ∧ c ≠ ']' ∧ c ≠ '{' ∧ c ≠ 'n' ∧ c ≠ 't' ∧ c ≠ 'f'
      ∧ c ≠ '"' ∧ c ≠ '\'' ∧ c ≠ '+' := by
  have hother {d : Char} (hd : ¬ (d = '-' ∨ isDigit d = true ∨ d = 'e')) : c ≠ d := by
    rintro rfl
    exact hd h
  refine ⟨?_, hother (by decide), hother (by decide), hother (by decide), hother (by decide),
    hother (by decide), hother (by decide), hother (by decide), hother (by decide),
    hother (by decide), hother (by decide)⟩
  rcases h with rfl | hdigit | rfl
  · decide
  · have hrange : 48 ≤ c.toNat ∧ c.toNat ≤ 57 := by simpa [isDigit] using hdigit
    simp [isSpace]
    omega
  · decide

/-- A number with or without its sign is a scalar. -/
theorem scalar_of_number (h : c = '-' ∨ isDigit c = true ∨ c = 'e') (cs : List Char) :
    scalar (c :: cs) = if c = '-' then magnitude true cs else magnitude false (c :: cs) := by
  obtain ⟨-, -, -, -, -, hn, ht, hf, hdouble, hsingle, hplus⟩ := ne_of_number h
  have hquote : ¬ (decide (c = '"') || decide (c = '\'')) = true := by simp [hdouble, hsingle]
  rw [scalar, if_neg hn, if_neg ht, if_neg hf, if_neg hquote]
  split_ifs
  · rfl
  · rfl

/-- **A number is read**, if it can be. -/
theorem IsMagnitude.exists_reads (h : IsMagnitude cs) (negative : Bool) :
    ∃ v, Reads ((if negative then ['-'] else []) ++ cs) v := by
  obtain ⟨v, hv⟩ := h.exists_magnitude negative
  obtain ⟨c, ds, rfl, hc, -⟩ := h.begins
  refine ⟨v, ?_⟩
  cases negative with
  | true => exact .of_scalar (by decide) (by decide) (by decide) (by decide) (by decide) hv
  | false =>
    obtain ⟨hspace, hcomment, hlist, hend, hdict, -⟩ := ne_of_number (.inr hc)
    refine .of_scalar hspace hcomment hlist hend hdict fun rest hrest => ?_
    have hminus : c ≠ '-' := by
      rintro rfl
      exact absurd hc (by decide)
    rw [← hv rest hrest, List.cons_append, scalar_of_number (.inr hc), if_neg hminus]

theorem isMagnitude_digits (n : Nat) : IsMagnitude (digits n) := by
  have hdigits := Decimal.isDigit_of_mem_digits n
  obtain ⟨c, ds, hcs⟩ := List.exists_cons_of_ne_nil (Decimal.digits_ne_nil n)
  refine ⟨⟨c, ds, hcs, .inl (hdigits c (hcs ▸ List.mem_cons_self)), fun _ d hd => ?_⟩,
    fun c hc => inRun_of_isDigit (hdigits c hc)⟩
  have hdigit := hdigits d (hcs ▸ List.mem_cons_of_mem c (List.mem_of_mem_head? hd))
  constructor <;> rintro rfl <;> exact absurd hdigit (by decide)

/-! ## Lists -/

theorem readsItems_nil : ReadsItems [']'] (some []) := by
  intro fuel rest hfuel
  obtain ⟨fuel, rfl⟩ : ∃ k, fuel = k + 1 := Nat.exists_eq_add_of_le' hfuel
  rw [List.singleton_append, items, token_cons (by decide) (by decide)]
  rfl

/-- Items may have blanks in front of them. -/
theorem ReadsItems.append (h : ReadsItems cs vs) (hgap : ∀ c ∈ gap, isSpace c = true) :
    ReadsItems (gap ++ cs) vs := by
  intro fuel rest hfuel
  rw [List.length_append] at hfuel
  have hitems : items fuel (gap ++ (cs ++ rest)) = items fuel (cs ++ rest) := by
    cases fuel with
    | zero => rfl
    | succ fuel => rw [items, items, token_append hgap]
  rw [List.append_assoc, hitems, h fuel rest (by omega)]

/-- **The items of a list** from behind the first of them. -/
def itemsBehind (fuel : Nat) (r : Json × List Char) : Option (List Json × List Char) :=
  (token r.2).bind fun
    | ',' :: rest => (items fuel rest).bind fun s => some (r.1 :: s.1, s.2)
    | ']' :: rest => some ([r.1], rest)
    | _ => none

/-- What becomes of the items of a list when the first one has been found. -/
theorem Reads.items_append (h : Reads cs v) (hfuel : cs.length ≤ fuel) (hrest : Ends rest) :
    items (fuel + 1) (cs ++ rest) = (v.map (·, rest)).bind (itemsBehind fuel) := by
  have hvalue := h.value hfuel hrest
  obtain ⟨c, ds, rfl, hspace, hcomment, hend⟩ := h.begins
  rw [List.cons_append] at hvalue ⊢
  rw [items, token_cons hspace hcomment]
  dsimp only [bind, Option.bind]
  split
  · next heq => exact absurd (List.cons.inj heq).1 hend
  · rw [hvalue]
    cases v <;> rfl

theorem Reads.readsItems_last (h : Reads cs v) :
    ReadsItems (cs ++ [']']) (v.map fun x => [x]) := by
  intro fuel rest hfuel
  rw [List.length_append, List.length_singleton] at hfuel
  obtain ⟨fuel, rfl⟩ := Nat.exists_eq_add_of_le' (Nat.le_of_add_left_le hfuel)
  have hends : Ends (']' :: rest) := ends_cons (by simp) rest
  rw [List.append_assoc, List.singleton_append, h.items_append (by omega) hends]
  cases v with
  | none => rfl
  | some x =>
    rw [Option.map_some, Option.bind_some, itemsBehind, token_of_ends hends]
    rfl

/-- **One item more is read in front of the others.** -/
theorem Reads.readsItems_cons (h : Reads cs v) (hds : ReadsItems ds vs) :
    ReadsItems (cs ++ ',' :: ds) (v.bind fun x => vs.map (x :: ·)) := by
  intro fuel rest hfuel
  rw [List.length_append, List.length_cons] at hfuel
  obtain ⟨fuel, rfl⟩ : ∃ k, fuel = k + 1 := Nat.exists_eq_add_of_le' (by omega)
  have hends : Ends (',' :: (ds ++ rest)) := ends_cons (by simp) _
  rw [List.append_assoc, List.cons_append, h.items_append (by omega) hends]
  cases v with
  | none => rfl
  | some x =>
    rw [Option.map_some, Option.bind_some, itemsBehind, token_of_ends hends]
    show (items fuel (ds ++ rest)).bind _ = _
    rw [hds fuel rest (by omega)]
    cases vs <;> rfl

/-- **A list is read** if its items are. -/
theorem ReadsItems.reads (h : ReadsItems cs vs) : Reads ('[' :: cs) (vs.map .arr) where
  begins := ⟨'[', cs, rfl, by decide, by decide, by decide⟩
  value {fuel rest} hfuel _ := by
    rw [List.length_cons] at hfuel
    obtain ⟨fuel, rfl⟩ := Nat.exists_eq_add_of_le' (Nat.le_of_add_left_le hfuel)
    rw [List.cons_append, value, token_cons (by decide) (by decide)]
    show (items fuel (cs ++ rest)).bind _ = _
    rw [h fuel rest (by omega)]
    cases vs <;> rfl

/-! ## Dicts -/

theorem readsFields_nil : ReadsFields ['}'] (some []) := by
  intro fuel rest hfuel
  obtain ⟨fuel, rfl⟩ : ∃ k, fuel = k + 1 := Nat.exists_eq_add_of_le' hfuel
  rw [List.singleton_append, fields, token_cons (by decide) (by decide)]
  rfl

/-- Fields may have blanks in front of them. -/
theorem ReadsFields.append (h : ReadsFields cs es) (hgap : ∀ c ∈ gap, isSpace c = true) :
    ReadsFields (gap ++ cs) es := by
  intro fuel rest hfuel
  rw [List.length_append] at hfuel
  have hfields : fields fuel (gap ++ (cs ++ rest)) = fields fuel (cs ++ rest) := by
    cases fuel with
    | zero => rfl
    | succ fuel => rw [fields, fields, token_append hgap]
  rw [List.append_assoc, hfields, h fuel rest (by omega)]

/-- **The fields of a dict** from behind the value of one of them. -/
def fieldsBehind (fuel : Nat) (k : String) (r : Json × List Char) :
    Option (List (String × Json) × List Char) :=
  (token r.2).bind fun
    | ',' :: rest => (fields fuel rest).bind fun s => some ((k, r.1) :: s.1, s.2)
    | '}' :: rest => some ([(k, r.1)], rest)
    | _ => none

/-- What becomes of the fields of a dict when a name has been found. -/
theorem Quotes.fields_append (h : Quotes mark write) (k : String)
    (hgap : ∀ c ∈ gap, isSpace c = true) (rest : List Char) :
    fields (fuel + 1) (quoted mark write k ++ ':' :: (gap ++ rest))
      = (value fuel rest).bind (fieldsBehind fuel k) := by
  have hmark := isQuotationMark_iff.mp h.isMark
  have hname := h.name_quoted k (':' :: (gap ++ rest))
  have hspace : isSpace mark = false := by rcases hmark with rfl | rfl <;> decide
  have hcomment : mark ≠ '/' := by rcases hmark with rfl | rfl <;> decide
  rw [quoted, List.cons_append] at hname ⊢
  rw [fields, token_cons hspace hcomment]
  dsimp only [bind, Option.bind]
  split
  · next heq =>
    rw [(List.cons.inj heq).1] at hmark
    exact absurd hmark (by decide)
  · rw [hname]
    dsimp only
    rw [token_cons (by decide) (by decide)]
    show (value fuel (gap ++ rest)).bind _ = _
    rw [value_append hgap]
    rfl

theorem Quotes.readsFields_last (h : Quotes mark write) (k : String)
    (hgap : ∀ c ∈ gap, isSpace c = true) (hcs : Reads cs v) :
    ReadsFields (quoted mark write k ++ ':' :: (gap ++ (cs ++ ['}'])))
      (v.map fun x => [(k, x)]) := by
  intro fuel rest hfuel
  simp only [List.length_append, List.length_cons, List.length_nil] at hfuel
  obtain ⟨fuel, rfl⟩ : ∃ k, fuel = k + 1 := Nat.exists_eq_add_of_le' (by omega)
  have hends : Ends ('}' :: rest) := ends_cons (by simp) rest
  rw [List.append_assoc, List.cons_append, List.append_assoc, List.append_assoc,
    List.singleton_append, h.fields_append k hgap, hcs.value (by omega) hends]
  cases v with
  | none => rfl
  | some x =>
    rw [Option.map_some, Option.bind_some, fieldsBehind, token_of_ends hends]
    rfl

/-- **One field more is read in front of the others.** -/
theorem Quotes.readsFields_cons (h : Quotes mark write) (k : String)
    (hgap : ∀ c ∈ gap, isSpace c = true) (hcs : Reads cs v) (hds : ReadsFields ds es) :
    ReadsFields (quoted mark write k ++ ':' :: (gap ++ (cs ++ ',' :: ds)))
      (v.bind fun x => es.map ((k, x) :: ·)) := by
  intro fuel rest hfuel
  simp only [List.length_append, List.length_cons] at hfuel
  obtain ⟨fuel, rfl⟩ : ∃ k, fuel = k + 1 := Nat.exists_eq_add_of_le' (by omega)
  have hends : Ends (',' :: (ds ++ rest)) := ends_cons (by simp) _
  rw [List.append_assoc, List.cons_append, List.append_assoc, List.append_assoc,
    List.cons_append, h.fields_append k hgap, hcs.value (by omega) hends]
  cases v with
  | none => rfl
  | some x =>
    rw [Option.map_some, Option.bind_some, fieldsBehind, token_of_ends hends]
    show (fields fuel (ds ++ rest)).bind _ = _
    rw [hds fuel rest (by omega)]
    cases es <;> rfl

/-- **A dict is read** if its fields are. -/
theorem ReadsFields.reads (h : ReadsFields cs es) : Reads ('{' :: cs) (es.map .ofFields) where
  begins := ⟨'{', cs, rfl, by decide, by decide, by decide⟩
  value {fuel rest} hfuel _ := by
    rw [List.length_cons] at hfuel
    obtain ⟨fuel, rfl⟩ := Nat.exists_eq_add_of_le' (Nat.le_of_add_left_le hfuel)
    rw [List.cons_append, value, token_cons (by decide) (by decide)]
    show (fields fuel (cs ++ rest)).bind _ = _
    rw [h fuel rest (by omega)]
    cases es <;> rfl

/-! ## Whole texts -/

/-- **A text is read as its value**, if nothing follows. -/
theorem Reads.readChars (h : Reads cs v) : readChars cs = v := by
  have hvalue : DictLiteral.value (2 * cs.length + 2) (cs ++ []) = v.map (·, []) :=
    h.value (by omega) ends_nil
  rw [List.append_nil] at hvalue
  rw [DictLiteral.readChars, hvalue]
  cases v <;> rfl

/-- **Something else behind a value** makes a text unreadable. -/
theorem Reads.readChars_append (h : Reads cs v) (hrest : Ends rest) (hne : rest ≠ []) :
    DictLiteral.readChars (cs ++ rest) = none := by
  have hlength : cs.length ≤ 2 * (cs ++ rest).length + 2 := by
    rw [List.length_append]
    omega
  rw [DictLiteral.readChars, h.value hlength hrest]
  cases v with
  | none => rfl
  | some x =>
    obtain ⟨c, rest, rfl⟩ := List.exists_cons_of_ne_nil hne
    show (token (c :: rest)).bind _ = _
    rw [token_of_ends hrest]
    rfl

end Colloquy.DictLiteral
