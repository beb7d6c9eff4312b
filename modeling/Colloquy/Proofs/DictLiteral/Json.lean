import Colloquy.Proofs.DictLiteral.Reader
import Colloquy.Proofs.Json.RoundTrip

/-!
# JSON text as a dict literal

Compact JSON text is a dict literal as it is: there is nothing in it to respell
(`respelledAs_print`), and the reader of dict literals takes just as much of it as was
written for a value (`exists_reads_print`). What value that is does not matter here. It need
not be the one that was written, since doubles are rounded in another way and what is too
large becomes null.

Doubles are the reason why something has to be said about numbers. However their digits are
found, they are laid out around a point or in front of an exponent
(`isMagnitude_magnitudeText`).
-/

namespace Colloquy.DictLiteral

open Decimal (isDigit digits)
open Json (Number printChar printString printItems printFields hexDigit)

variable {cs ds : List Char} {depth : Nat} {v : Json}

/-! ## Numbers -/

/-- **Digits with something behind them that is no sign** are a number. -/
theorem isMagnitude_append (hne : cs ≠ []) (hcs : ∀ c ∈ cs, isDigit c = true)
    (hds : ∀ c ∈ ds, inRun c = true) (hsign : ∀ c ∈ ds.head?, c ≠ '+' ∧ c ≠ '-') :
    IsMagnitude (cs ++ ds) := by
  obtain ⟨c, cs, rfl⟩ := List.exists_cons_of_ne_nil hne
  refine ⟨⟨c, cs ++ ds, rfl, .inl (hcs c List.mem_cons_self), fun _ d hd => ?_⟩, fun d hd => ?_⟩
  · cases cs with
    | nil => exact hsign d hd
    | cons c' cs =>
      cases hd
      have hdigit := hcs d (by simp)
      constructor <;> rintro rfl <;> exact absurd hdigit (by decide)
  · rcases List.mem_append.mp hd with hd | hd
    · exact inRun_of_isDigit (hcs d hd)
    · exact hds d hd

/-- Significant digits are digits. -/
theorem isDigit_of_mem_significant (d : Nat) (e : Int) :
    ∀ c ∈ (Decimal.Scaled.significant d e).digits, isDigit c = true := by
  intro c hc
  rw [Decimal.Scaled.significant, List.mem_reverse] at hc
  exact Decimal.isDigit_of_mem_digits d c (List.mem_reverse.mp (List.dropWhile_sublist _ |>.mem hc))

/-- So are the fewest that read back. -/
theorem isDigit_of_mem_shortest (x : Decimal.Scaled) (halves : Decimal.Halves) :
    ∀ c ∈ (x.shortest halves).digits, isDigit c = true := by
  unfold Decimal.Scaled.shortest
  dsimp only
  generalize hfound : (List.range 17).findSome? _ = found
  cases found with
  | none => exact isDigit_of_mem_significant _ _
  | some s =>
    obtain ⟨n, -, hn⟩ := List.exists_of_findSome?_eq_some hfound
    obtain ⟨d, -, rfl⟩ := Option.map_eq_some_iff.mp hn
    exact isDigit_of_mem_significant _ _

section Layout

variable {s : Decimal.Significant}

theorem inRun_of_digits (h : ∀ c ∈ cs, isDigit c = true) : ∀ c ∈ cs, inRun c = true :=
  fun c hc => inRun_of_isDigit (h c hc)

theorem isDigit_of_mem_zeros (n : Nat) : ∀ c ∈ List.replicate n '0', isDigit c = true :=
  fun _ hc => (List.mem_replicate.mp hc).2 ▸ rfl

/-- Digits around a point are a number. -/
theorem isMagnitude_positionalText (layout : Decimal.Layout)
    (hs : ∀ c ∈ s.digits, isDigit c = true) : IsMagnitude (layout.positionalText s) := by
  unfold Decimal.Layout.positionalText
  split
  · have hfraction : ∀ c ∈ '.' :: (List.replicate (-s.point).toNat '0' ++ s.digits),
        inRun c = true :=
      List.forall_mem_cons.mpr ⟨by decide, List.forall_mem_append.mpr
        ⟨inRun_of_digits (isDigit_of_mem_zeros _), inRun_of_digits hs⟩⟩
    show IsMagnitude (['0'] ++ '.' :: (List.replicate (-s.point).toNat '0' ++ s.digits))
    exact isMagnitude_append (List.cons_ne_nil '0' []) (isDigit_of_mem_zeros 1) hfraction (by simp)
  · next hsmall =>
    split
    · have hne : s.digits ++ List.replicate (s.point.toNat - s.digits.length) '0' ≠ [] := by
        rw [← List.length_pos_iff, List.length_append, List.length_replicate]
        omega
      refine isMagnitude_append hne
        (List.forall_mem_append.mpr ⟨hs, isDigit_of_mem_zeros _⟩) ?_ ?_
      · split <;> exact List.all_eq_true.mp (by decide)
      · split <;> simp
    · have hne : s.digits.take s.point.toNat ≠ [] := by
        rw [← List.length_pos_iff, List.length_take]
        omega
      refine isMagnitude_append hne (fun c hc => hs c (List.mem_of_mem_take hc)) ?_ (by simp)
      exact List.forall_mem_cons.mpr
        ⟨by decide, inRun_of_digits fun c hc => hs c (List.mem_of_mem_drop hc)⟩

/-- So are digits with an exponent, if they are any at all; and if there are none, what is
left is none that the reader could take for a number. -/
theorem isMagnitude_scientificText (hs : ∀ c ∈ s.digits, isDigit c = true) :
    IsMagnitude (Decimal.Layout.scientificText s) := by
  have hexponent :
      ∀ c ∈ 'e' :: (if s.point - 1 < 0 then '-' else '+') :: digits (s.point - 1).natAbs,
        inRun c = true := by
    refine List.forall_mem_cons.mpr ⟨by decide, List.forall_mem_cons.mpr ⟨?_, ?_⟩⟩
    · split_ifs <;> decide
    · exact inRun_of_digits (Decimal.isDigit_of_mem_digits _)
  unfold Decimal.Layout.scientificText
  dsimp only
  cases hdigits : s.digits with
  | nil => exact ⟨⟨'e', _, rfl, .inr rfl, fun h => absurd h (by decide)⟩, hexponent⟩
  | cons c cs =>
    rw [hdigits] at hs
    rw [List.append_assoc]
    refine isMagnitude_append (List.cons_ne_nil c []) ?_ ?_ ?_
    · exact List.forall_mem_singleton.mpr (hs c List.mem_cons_self)
    · refine List.forall_mem_append.mpr ⟨?_, hexponent⟩
      split_ifs
      · exact nofun
      · exact List.forall_mem_cons.mpr
          ⟨by decide, inRun_of_digits fun d hd => hs d (List.mem_cons_of_mem c hd)⟩
    · split_ifs <;> simp

/-- **However a number is laid out**, its text is a number without its sign. -/
theorem isMagnitude_magnitudeText (layout : Decimal.Layout) (x : Decimal.Scaled) :
    IsMagnitude (layout.magnitudeText x) := by
  have hs := isDigit_of_mem_shortest x layout.halves
  unfold Decimal.Layout.magnitudeText
  split_ifs with hzero hpoint
  · exact isMagnitude_append (List.cons_ne_nil '0' []) (isDigit_of_mem_zeros 1)
      (List.all_eq_true.mp (by decide)) (by simp)
  · exact isMagnitude_append (List.cons_ne_nil '0' []) (isDigit_of_mem_zeros 1) (by simp) (by simp)
  · dsimp only
    split
    · exact isMagnitude_positionalText layout hs
    · split_ifs
      · exact isMagnitude_positionalText layout hs
      · exact isMagnitude_scientificText hs

end Layout

/-- **The text of a JSON number** is one with or without its sign. -/
theorem exists_print_eq_isMagnitude (n : Number) :
    ∃ (negative : Bool) (cs : List Char),
      n.print = (if negative then ['-'] else []) ++ cs ∧ IsMagnitude cs := by
  cases n with
  | integer i fits =>
    refine ⟨decide (i < 0), digits i.natAbs, ?_, isMagnitude_digits i.natAbs⟩
    show Decimal.integer i = _
    unfold Decimal.integer
    by_cases hneg : i < 0
    · rw [if_pos hneg, decide_eq_true hneg]
      rfl
    · rw [if_neg hneg, decide_eq_false hneg]
      rfl
  | real x => exact ⟨x.negative, _, rfl, isMagnitude_magnitudeText _ _⟩

theorem inRun_of_mem_print (n : Number) : ∀ c ∈ n.print, inRun c = true := by
  obtain ⟨negative, cs, hprint, hcs⟩ := exists_print_eq_isMagnitude n
  rw [hprint]
  refine List.forall_mem_append.mpr ⟨?_, hcs.oneRun⟩
  split_ifs <;> exact List.all_eq_true.mp (by decide)

/-! ## Strings -/

theorem hexValue?_hexDigit : ∀ {d : Nat}, d < 16 → hexValue? (hexDigit d) = some d := by
  decide

/-- A control character is read from its code. -/
theorem escape_control {c : Char} (h : c.toNat < 0x20) (rest : List Char) :
    escape ('u' :: (['0', '0', hexDigit (c.toNat / 16), hexDigit (c.toNat % 16)] ++ rest))
      = some ([c], rest) := by
  have hzero : hexValue? '0' = some 0 := by decide
  have hvalue : 16 * (c.toNat / 16) + c.toNat % 16 = c.toNat := Nat.div_add_mod _ _
  have hhex : hex 4 0 (['0', '0', hexDigit (c.toNat / 16), hexDigit (c.toNat % 16)] ++ rest)
      = some (c.toNat, rest) := by
    simp [hex, hzero, hexValue?_hexDigit (show c.toNat / 16 < 16 by omega),
      hexValue?_hexDigit (show c.toNat % 16 < 16 by omega), hvalue]
  have htrailing : ¬ (decide (0xDC00 ≤ c.toNat) && decide (c.toNat ≤ 0xDFFF)) = true := by
    simp only [Bool.and_eq_true, decide_eq_true_eq]
    omega
  have hleading : ¬ (decide (0xD800 ≤ c.toNat) && decide (c.toNat ≤ 0xDBFF)) = true := by
    simp only [Bool.and_eq_true, decide_eq_true_eq]
    omega
  have hcode : code (['0', '0', hexDigit (c.toNat / 16), hexDigit (c.toNat % 16)] ++ rest)
      = some (c, rest) := by
    rw [code, hhex]
    dsimp only [bind, Option.bind]
    rw [if_neg htrailing, if_neg hleading, Char.ofNat_toNat]
  show (code _).map _ = _
  rw [hcode]
  rfl

/-- **JSON strings are written in a way that strings may be.** -/
theorem quotes_printChar : Quotes '"' printChar where
  isMark := by decide
  writes c := by
    unfold printChar
    split_ifs with hquote hback hb hf hn hr ht hcontrol
    · subst hquote
      exact .escape nofun fun _ => rfl
    · subst hback
      exact .escape nofun fun _ => rfl
    · subst hb
      exact .escape nofun fun _ => rfl
    · subst hf
      exact .escape nofun fun _ => rfl
    · subst hn
      exact .escape nofun fun _ => rfl
    · subst hr
      exact .escape nofun fun _ => rfl
    · subst ht
      exact .escape nofun fun _ => rfl
    · refine .escape ?_ (escape_control hcontrol)
      have hdigit : ∀ {d : Nat}, d < 16 → hexDigit d ≠ '"' ∧ hexDigit d ≠ '\\' := by decide
      exact List.forall_mem_cons.mpr ⟨by decide, List.forall_mem_cons.mpr ⟨by decide,
        List.forall_mem_cons.mpr ⟨hdigit (by omega),
          List.forall_mem_singleton.mpr (hdigit (by omega))⟩⟩⟩
    · exact .itself hquote hback ⟨hn, hr⟩

/-! ## Values -/

/-- Some value or none is read from each text of some. -/
theorem exists_readsItems_printItems {vs : List Json} (h : ∀ v ∈ vs, ∃ x, Reads v.print x)
    {cs : List Char} {x : Option Json} (hcs : Reads cs x) :
    ∃ xs, ReadsItems (cs ++ printItems vs) xs := by
  induction vs generalizing cs x with
  | nil => exact ⟨_, hcs.readsItems_last⟩
  | cons v vs ih =>
    obtain ⟨⟨y, hy⟩, hvs⟩ := List.forall_mem_cons.mp h
    obtain ⟨xs, hxs⟩ := ih hvs hy
    exact ⟨_, hcs.readsItems_cons hxs⟩

theorem exists_readsFields_printFields {es : Json.Fields} (h : ∀ e ∈ es, ∃ x, Reads e.2.print x)
    (k : String) {cs : List Char} {x : Option Json} (hcs : Reads cs x) :
    ∃ fs, ReadsFields (printString k ++ ':' :: (cs ++ printFields es)) fs := by
  induction es generalizing k cs x with
  | nil =>
    have hlast : ReadsFields (printString k ++ ':' :: ([] ++ (cs ++ ['}']))) _ :=
      quotes_printChar.readsFields_last k nofun hcs
    exact ⟨_, hlast⟩
  | cons e es ih =>
    obtain ⟨⟨y, hy⟩, hes⟩ := List.forall_mem_cons.mp h
    obtain ⟨fs, hfs⟩ := ih hes e.1 hy
    have hfields : ReadsFields (printString k ++ ':' :: ([] ++ (cs ++ printFields (e :: es)))) _ :=
      quotes_printChar.readsFields_cons k nofun hcs hfs
    exact ⟨_, hfields⟩

/-- **As much is read of JSON text as was written for a value**, or nothing at all. -/
theorem exists_reads_print (h : v.Fits depth) : ∃ x, Reads v.print x := by
  induction h with
  | null => exact ⟨_, reads_null⟩
  | bool b =>
    cases b with
    | true => exact ⟨_, reads_true⟩
    | false => exact ⟨_, reads_false⟩
  | num n =>
    obtain ⟨negative, cs, hprint, hcs⟩ := exists_print_eq_isMagnitude n
    obtain ⟨x, hx⟩ := hcs.exists_reads negative
    rw [← hprint] at hx
    exact ⟨x, hx⟩
  | str s => exact ⟨_, quotes_printChar.reads s⟩
  | @arr depth items inner ih =>
    cases items with
    | nil => exact ⟨_, readsItems_nil.reads⟩
    | cons v vs =>
      obtain ⟨⟨x, hx⟩, hvs⟩ := List.forall_mem_cons.mp ih
      obtain ⟨xs, hxs⟩ := exists_readsItems_printItems hvs hx
      exact ⟨_, hxs.reads⟩
  | @obj depth fields inner ih =>
    cases fields with
    | nil => exact ⟨_, readsFields_nil.reads⟩
    | cons e es =>
      obtain ⟨⟨x, hx⟩, hes⟩ := List.forall_mem_cons.mp ih
      obtain ⟨fs, hfs⟩ := exists_readsFields_printFields hes e.1 hx
      exact ⟨_, hfs.reads⟩

theorem apart_printItems (vs : List Json) (rest : List Char) : Apart (printItems vs ++ rest) := by
  cases vs <;> exact apart_cons (by decide) _

theorem apart_printFields (es : Json.Fields) (rest : List Char) :
    Apart (printFields es ++ rest) := by
  cases es <;> exact apart_cons (by decide) _

theorem respelledAs_printItems {vs : List Json} (h : ∀ v ∈ vs, RespelledAs v.print v.print) :
    RespelledAs (printItems vs) (printItems vs) := by
  induction vs with
  | nil => exact respelledAs_nil.cons (by decide)
  | cons v vs ih =>
    obtain ⟨hv, hvs⟩ := List.forall_mem_cons.mp h
    exact (hv.append (ih hvs) fun rest _ => apart_printItems vs rest).cons (by decide)

/-- A field is not respelled if its value is not. -/
theorem respelledAs_field (k : String) (h : RespelledAs cs cs) :
    RespelledAs (printString k ++ ':' :: cs) (printString k ++ ':' :: cs) :=
  (quotes_printChar.respelledAs k).append_cons (by decide) h

theorem respelledAs_printFields {es : Json.Fields}
    (h : ∀ e ∈ es, RespelledAs e.2.print e.2.print) :
    RespelledAs (printFields es) (printFields es) := by
  induction es with
  | nil => exact respelledAs_nil.cons (by decide)
  | cons e es ih =>
    obtain ⟨he, hes⟩ := List.forall_mem_cons.mp h
    have hfield := respelledAs_field e.1
      (he.append (ih hes) fun rest _ => apart_printFields es rest)
    exact hfield.cons (by decide)

/-- **Nothing in JSON text is respelled.** -/
theorem respelledAs_print (h : v.Fits depth) : RespelledAs v.print v.print := by
  induction h with
  | null => exact respelledAs_self (List.all_eq_true.mp (by decide)) (by decide)
  | bool b => cases b <;> exact respelledAs_self (List.all_eq_true.mp (by decide)) (by decide)
  | num n => exact respelledAs_of_inRun (inRun_of_mem_print n)
  | str s => exact quotes_printChar.respelledAs s
  | @arr depth items inner ih =>
    cases items with
    | nil => exact (respelledAs_nil.cons (by decide)).cons (by decide)
    | cons v vs =>
      obtain ⟨hv, hvs⟩ := List.forall_mem_cons.mp ih
      have hitems := hv.append (respelledAs_printItems hvs) fun rest _ => apart_printItems vs rest
      exact hitems.cons (by decide)
  | @obj depth fields inner ih =>
    cases fields with
    | nil => exact (respelledAs_nil.cons (by decide)).cons (by decide)
    | cons e es =>
      obtain ⟨he, hes⟩ := List.forall_mem_cons.mp ih
      have hfield := respelledAs_field e.1
        (he.append (respelledAs_printFields hes) fun rest _ => apart_printFields es rest)
      exact hfield.cons (by decide)

end Colloquy.DictLiteral
