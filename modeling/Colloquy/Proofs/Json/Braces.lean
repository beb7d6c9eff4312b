import Colloquy.Proofs.DictLiteral.Json
import Colloquy.Proofs.Fence

/-!
# Braces in JSON text

How many more opening than closing braces there are in the text of a value is decided by its
keys and strings alone, since all other braces come in pairs (`excess_print`).

The text of an object may lack some of the braces that it ends with. What is left is then an
object that is nowhere closed: behind its opening brace there is nothing, or there are
fields, the last of them perhaps with such an object for its value
(`Readable.unclosed`). The reader goes through all that is complete, since it reads that back,
and then finds the text at its end (`Unclosed.exists_readChars_eq_error`).
-/

namespace Colloquy.Json

open Decimal (isDigit)
open DictLiteral (inRun inRun_of_mem_print exists_print_eq_isMagnitude)
open Reader (readValue readField readFields readEnd greatestDepth)
open Text (isBlank)

/-! ## Counting -/

/-- **How many more braces of a text open than close.** -/
def excess (cs : List Char) : Int :=
  cs.count '{' - cs.count '}'

mutual

/-- **All that is said in a value**: the characters of its keys and strings, in order. -/
def wording : Json → List Char
  | .null => []
  | .bool _ => []
  | .num _ => []
  | .str s => s.toList
  | .arr vs => wordingOfItems vs
  | .obj es => wordingOfFields es

/-- What is said in the items of a list. -/
def wordingOfItems : List Json → List Char
  | [] => []
  | v :: vs => wording v ++ wordingOfItems vs

/-- What is said in the fields of an object. -/
def wordingOfFields : List (String × Json) → List Char
  | [] => []
  | (k, v) :: es => k.toList ++ (wording v ++ wordingOfFields es)

end

variable {cs ds : List Char} {depth fuel : Nat} {v : Json}

theorem excess_append (cs ds : List Char) : excess (cs ++ ds) = excess cs + excess ds := by
  unfold excess
  rw [List.count_append, List.count_append]
  omega

theorem excess_opening (cs : List Char) : excess ('{' :: cs) = excess cs + 1 := by
  unfold excess
  rw [List.count_cons_self, List.count_cons_of_ne (by decide)]
  omega

theorem excess_cons {c : Char} (h : c ≠ '{' ∧ c ≠ '}') (cs : List Char) :
    excess (c :: cs) = excess cs := by
  unfold excess
  rw [List.count_cons_of_ne h.1, List.count_cons_of_ne h.2]

theorem excess_replicate (n : Nat) : excess (List.replicate n '}') = -n := by
  simp [excess, List.count_replicate]

/-- A text without braces has none too many. -/
theorem excess_of_forall (h : ∀ c ∈ cs, c ≠ '{' ∧ c ≠ '}') : excess cs = 0 := by
  induction cs with
  | nil => rfl
  | cons c cs ih =>
    rw [excess_cons (h c List.mem_cons_self), ih fun d hd => h d (List.mem_cons_of_mem c hd)]

/-- **What is written for a character has its braces.** -/
theorem excess_printChar (c : Char) : excess (printChar c) = excess [c] := by
  unfold printChar
  split_ifs with hquote hback hb hf hn hr ht hcontrol
  · subst hquote
    rfl
  · subst hback
    rfl
  · subst hb
    rfl
  · subst hf
    rfl
  · subst hn
    rfl
  · subst hr
    rfl
  · subst ht
    rfl
  · have hdigit : ∀ {d : Nat}, d < 16 → hexDigit d ≠ '{' ∧ hexDigit d ≠ '}' := by decide
    have hc : c ≠ '{' ∧ c ≠ '}' := by
      constructor <;> rintro rfl <;> exact absurd hcontrol (by decide)
    rw [excess_cons (by decide), excess_cons (by decide), excess_cons (by decide),
      excess_cons (by decide), excess_cons (hdigit (by omega)), excess_cons (hdigit (by omega)),
      excess_cons hc]
  · rfl

theorem excess_printString (s : String) : excess (printString s) = excess s.toList := by
  have hflatMap (cs : List Char) : excess (cs.flatMap printChar) = excess cs := by
    induction cs with
    | nil => rfl
    | cons c cs ih =>
      rw [List.flatMap_cons, excess_append, excess_printChar, ih, ← excess_append]
      rfl
  rw [printString, excess_cons (by decide), excess_append, hflatMap]
  exact Int.add_zero _

theorem excess_number (n : Number) : excess n.print = 0 := by
  refine excess_of_forall fun c hc => ?_
  have hrun := inRun_of_mem_print n c hc
  constructor <;> rintro rfl <;> exact absurd hrun (by decide)

mutual

/-- **All braces of a text that are not said in its value come in pairs.** -/
theorem excess_print (v : Json) : excess v.print = excess v.wording := by
  cases v with
  | null => rfl
  | bool b => cases b <;> rfl
  | num n => exact excess_number n
  | str s => exact excess_printString s
  | arr vs =>
    cases vs with
    | nil => rfl
    | cons v vs =>
      rw [print, excess_cons (by decide), excess_append, excess_print v, excess_printItems vs,
        wording, wordingOfItems, excess_append]
  | obj es =>
    cases es with
    | nil => rfl
    | cons e es =>
      obtain ⟨k, v⟩ := e
      rw [print, excess_opening, excess_append, excess_printString, excess_cons (by decide),
        excess_append, excess_print v, excess_printFields es, wording, wordingOfFields,
        excess_append, excess_append]
      omega

theorem excess_printItems (vs : List Json) :
    excess (printItems vs) = excess (wordingOfItems vs) := by
  cases vs with
  | nil => rfl
  | cons v vs =>
    rw [printItems, excess_cons (by decide), excess_append, excess_print v, excess_printItems vs,
      wordingOfItems, excess_append]

/-- Behind the first of the fields there is the brace that closes the object. -/
theorem excess_printFields (es : List (String × Json)) :
    excess (printFields es) = excess (wordingOfFields es) - 1 := by
  cases es with
  | nil => rfl
  | cons e es =>
    obtain ⟨k, v⟩ := e
    rw [printFields, excess_cons (by decide), excess_append, excess_printString,
      excess_cons (by decide), excess_append, excess_print v, excess_printFields es,
      wordingOfFields, excess_append, excess_append]
    omega

end

/-! ## Objects without their last braces -/

/-- **What is behind an opening brace** of the text of an object that lacks it closing one. -/
inductive Unclosed : Nat → List Char → Prop
  /-- Nothing. -/
  | nothing {depth : Nat} : Unclosed depth []
  /-- The last field. -/
  | last {depth : Nat} {v : Json} (k : String) (hv : v.Readable depth) :
      Unclosed depth (printString k ++ ':' :: v.print)
  /-- The last field up to somewhere in its value. -/
  | within {depth : Nat} {cs : List Char} (k : String) (inner : Unclosed depth cs) :
      Unclosed (depth + 1) (printString k ++ ':' :: '{' :: cs)
  /-- A field, and more of them. -/
  | more {depth : Nat} {v : Json} {cs : List Char} (k : String) (hv : v.Readable depth)
      (further : Unclosed depth cs) :
      Unclosed depth (printString k ++ ':' :: (v.print ++ ',' :: cs))

/-- **Something else in front of the last characters** is left over when they are. -/
theorem append_cons_eq_append_replicate {as bs cut : List Char} {c d : Char} {n : Nat} (hne : c ≠ d)
    (h : as ++ c :: bs = cut ++ List.replicate n d) :
    ∃ cut', cut = as ++ c :: cut' ∧ bs = cut' ++ List.replicate n d := by
  have hmem : c ∉ List.replicate n d := fun hc => hne (List.mem_replicate.mp hc).2
  rcases List.append_eq_append_iff.mp h with ⟨xs, hcut, hxs⟩ | ⟨xs, -, hxs⟩
  · cases xs with
    | nil =>
      rw [List.nil_append] at hxs
      exact absurd (hxs ▸ List.mem_cons_self) hmem
    | cons x xs =>
      obtain ⟨rfl, hbs⟩ := List.cons.inj hxs
      exact ⟨xs, hcut, hbs⟩
  · exact absurd (hxs ▸ List.mem_append_right xs List.mem_cons_self) hmem

/-- The further items of a list end with its bracket. -/
theorem exists_printItems_eq_concat (vs : List Json) : ∃ cs, printItems vs = cs ++ [']'] := by
  induction vs with
  | nil => exact ⟨[], rfl⟩
  | cons v vs ih =>
    obtain ⟨cs, hcs⟩ := ih
    exact ⟨',' :: (v.print ++ cs), by simp [printItems, hcs]⟩

/-- Nothing that numbers are made of is blank. -/
theorem isBlank_of_inRun {c : Char} (h : inRun c = true) : isBlank c = false := by
  have hkind : isDigit c = true ∨ c = '.' ∨ c = 'e' ∨ c = 'E' ∨ c = '+' ∨ c = '-' := by
    simpa [inRun, or_assoc] using h
  rcases hkind with hdigit | rfl | rfl | rfl | rfl | rfl
  · have hrange : 48 ≤ c.toNat ∧ c.toNat ≤ 57 := by simpa [isDigit] using hdigit
    simp [isBlank]
    omega
  all_goals decide

/-- **No text of a value ends with a blank**, and only that of an object with a brace. -/
theorem exists_getLast?_print (v : Json) :
    ∃ d, v.print.getLast? = some d ∧ isBlank d = false ∧ (d = '}' → ∃ es, v = .obj es) := by
  cases v with
  | null => exact ⟨'l', rfl, by decide, fun h => absurd h (by decide)⟩
  | bool b => cases b <;> exact ⟨'e', rfl, by decide, fun h => absurd h (by decide)⟩
  | num n =>
    have hne : n.print ≠ [] := by
      obtain ⟨negative, cs, hprint, hcs⟩ := exists_print_eq_isMagnitude n
      obtain ⟨c, ds, rfl, -⟩ := hcs.begins
      simp [hprint]
    have hrun := inRun_of_mem_print n _ (List.getLast_mem hne)
    refine ⟨_, List.getLast?_eq_some_getLast hne, isBlank_of_inRun hrun, fun hbrace => ?_⟩
    rw [hbrace] at hrun
    exact absurd hrun (by decide)
  | str s =>
    refine ⟨'"', ?_, by decide, fun h => absurd h (by decide)⟩
    rw [print, printString, ← List.cons_append, List.getLast?_concat]
  | arr vs =>
    refine ⟨']', ?_, by decide, fun h => absurd h (by decide)⟩
    cases vs with
    | nil => rfl
    | cons v vs =>
      obtain ⟨cs, hcs⟩ := exists_printItems_eq_concat vs
      rw [print, hcs, ← List.append_assoc, ← List.cons_append, List.getLast?_concat]
  | obj es =>
    obtain ⟨cs, hcs⟩ := exists_print_obj_eq es
    refine ⟨'}', ?_, by decide, fun _ => ⟨es, rfl⟩⟩
    rw [hcs, ← List.cons_append, List.getLast?_concat]

/-- **Only an object can lack braces at its end.** -/
theorem exists_obj_of_print {cut : List Char} {n : Nat}
    (h : v.print = cut ++ List.replicate (n + 1) '}') : ∃ es, v = .obj es := by
  obtain ⟨d, hlast, -, hobj⟩ := exists_getLast?_print v
  rw [h, List.replicate_succ', ← List.append_assoc, List.getLast?_concat] at hlast
  exact hobj (Option.some.inj hlast).symm

/-- Fields that lack their last braces, if values that do are unclosed. -/
theorem unclosed_of_fields {e : String × Json} {es : Fields} {cut : List Char} {n : Nat}
    (hreadable : ∀ e' ∈ e :: es, e'.2.Readable depth)
    (hinner : ∀ e' ∈ e :: es, ∀ {cut n}, e'.2.print = cut ++ List.replicate (n + 1) '}' →
      ∃ depth' cs, depth = depth' + 1 ∧ cut = '{' :: cs ∧ Unclosed depth' cs)
    (h : printString e.1 ++ ':' :: (e.2.print ++ printFields es)
      = cut ++ List.replicate (n + 1) '}') : Unclosed depth cut := by
  induction es generalizing e cut with
  | nil =>
    have hlast : printString e.1 ++ ':' :: e.2.print = cut ++ List.replicate n '}' := by
      rw [List.replicate_succ', ← List.append_assoc, printFields, ← List.cons_append,
        ← List.append_assoc] at h
      exact List.append_cancel_right h
    cases n with
    | zero =>
      rw [List.replicate_zero, List.append_nil] at hlast
      exact hlast ▸ .last e.1 (hreadable e List.mem_cons_self)
    | succ n =>
      obtain ⟨cut', rfl, hvalue⟩ := append_cons_eq_append_replicate (by decide) hlast
      obtain ⟨depth', cs, rfl, rfl, hcs⟩ := hinner e List.mem_cons_self hvalue
      exact .within e.1 hcs
  | cons e' es ih =>
    have hcomma : (printString e.1 ++ ':' :: e.2.print)
        ++ ',' :: (printString e'.1 ++ ':' :: (e'.2.print ++ printFields es))
        = cut ++ List.replicate (n + 1) '}' := by
      rw [← h]
      simp [printFields]
    obtain ⟨cut', rfl, hfields⟩ := append_cons_eq_append_replicate (by decide) hcomma
    have hfurther := ih (fun f hf => hreadable f (List.mem_cons_of_mem e hf))
      (fun f hf => hinner f (List.mem_cons_of_mem e hf)) hfields
    rw [List.append_assoc, List.cons_append]
    exact .more e.1 (hreadable e List.mem_cons_self) hfurther

/-- **A value that lacks its last braces is an object that is nowhere closed.** -/
theorem Readable.unclosed (h : v.Readable depth) {cut : List Char} {n : Nat}
    (hcut : v.print = cut ++ List.replicate (n + 1) '}') :
    ∃ depth' cs, depth = depth' + 1 ∧ cut = '{' :: cs ∧ Unclosed depth' cs := by
  induction depth generalizing v cut n with
  | zero =>
    obtain ⟨es, rfl⟩ := exists_obj_of_print hcut
    cases h.fits
  | succ depth ih =>
    obtain ⟨es, rfl⟩ := exists_obj_of_print hcut
    refine ⟨depth, ?_⟩
    have hreadable := h.of_mem
    have hbrace : ∃ cs, (Json.obj es).print = '{' :: cs := by
      cases es <;> exact ⟨_, rfl⟩
    obtain ⟨text, htext⟩ := hbrace
    have hopening : [] ++ '{' :: text = cut ++ List.replicate (n + 1) '}' :=
      htext.symm.trans hcut
    obtain ⟨cs, rfl, hcs⟩ := append_cons_eq_append_replicate (by decide) hopening
    refine ⟨cs, rfl, rfl, ?_⟩
    cases es with
    | nil =>
      cases htext
      have hlength := congrArg List.length hcs
      rw [List.length_append, List.length_replicate, List.length_singleton] at hlength
      exact (List.eq_nil_of_length_eq_zero (by omega : cs.length = 0)) ▸ .nothing
    | cons e es =>
      cases htext
      exact unclosed_of_fields hreadable (fun e' he' _ _ hcut' => ih (hreadable e' he') hcut') hcs

/-- The text of an object without its last braces does not end with a blank. -/
theorem Unclosed.exists_getLast? (h : Unclosed depth cs) {c : Char} (hc : isBlank c = false) :
    ∃ d, (c :: cs).getLast? = some d ∧ isBlank d = false := by
  have hbehind {as bs : List Char} {d : Char} (hd : bs.getLast? = some d) :
      (as ++ bs).getLast? = some d := by
    rw [List.getLast?_append, hd]
    rfl
  induction h generalizing c with
  | nothing => exact ⟨c, rfl, hc⟩
  | @last depth v k hv =>
    obtain ⟨d, hd, hblank, -⟩ := exists_getLast?_print v
    refine ⟨d, ?_, hblank⟩
    rw [List.append_cons, ← List.cons_append]
    exact hbehind hd
  | @within depth cs k inner ih =>
    obtain ⟨d, hd, hblank⟩ := ih (c := '{') (by decide)
    refine ⟨d, ?_, hblank⟩
    rw [List.append_cons, ← List.cons_append]
    exact hbehind hd
  | @more depth v cs k hv further ih =>
    obtain ⟨d, hd, hblank⟩ := ih (c := ',') (by decide)
    refine ⟨d, ?_, hblank⟩
    rw [← List.cons_append, List.append_cons, ← List.append_assoc]
    exact hbehind hd

/-! ## Reading them -/

/-- **Fields are unfinished**: there are none, or behind the first of them, if it is one,
there is no closing brace to be found. -/
def Unfinished (fuel depth : Nat) (cs : List Char) : Prop :=
  cs = [] ∨ ∃ after, cs = '"' :: after ∧ ∀ e rest, readField fuel depth after = .ok (e, rest) →
    ∃ fault, readFields fuel depth rest = .error fault

/-- Nothing is made of a field and the fields behind it if either cannot be read. -/
theorem exists_bind_eq_error {α : Type} {after : List Char}
    (h : ∀ e rest, readField fuel depth after = .ok (e, rest) →
      ∃ fault, readFields fuel depth rest = .error fault)
    (made : (String × Json) × List Char → List (String × Json) × List Char → Except Fault α) :
    ∃ fault, (readField fuel depth after >>= fun r => readFields fuel depth r.2 >>= made r)
      = .error fault := by
  cases hfield : readField fuel depth after with
  | error fault => exact ⟨fault, rfl⟩
  | ok r =>
    obtain ⟨fault, hfault⟩ := h r.1 r.2 hfield
    refine ⟨fault, ?_⟩
    show (readFields fuel depth r.2 >>= made r) = _
    rw [hfault]
    rfl

/-- An object with unfinished fields is not read. -/
theorem Unfinished.exists_readValue_eq_error (h : Unfinished fuel depth cs) :
    ∃ fault, readValue (fuel + 1) (depth + 1) ('{' :: cs) = .error fault := by
  rw [readValue, Reader.skipSpace_cons (by decide)]
  dsimp only
  rw [if_neg (by decide), if_pos rfl]
  rcases h with rfl | ⟨after, rfl, hfields⟩
  · exact ⟨_, rfl⟩
  · rw [Reader.skipSpace_cons (by decide)]
    dsimp only
    rw [if_neg (by decide), if_pos rfl]
    exact exists_bind_eq_error hfields _

/-- Neither are further fields. -/
theorem Unfinished.exists_readFields_eq_error (h : Unfinished fuel depth cs) :
    ∃ fault, readFields (fuel + 1) depth (',' :: cs) = .error fault := by
  rw [readFields, Reader.skipSpace_cons (by decide)]
  dsimp only
  rw [if_neg (by decide), if_pos rfl]
  rcases h with rfl | ⟨after, rfl, hfields⟩
  · exact ⟨_, rfl⟩
  · rw [Reader.skipSpace_cons (by decide)]
    dsimp only
    rw [if_neg (by decide), if_pos rfl]
    exact exists_bind_eq_error hfields _

/-- **What is behind a brace that is not closed is unfinished.** -/
theorem Unclosed.unfinished (h : Unclosed depth cs) (hfuel : cs.length < fuel) :
    Unfinished fuel depth cs := by
  induction h generalizing fuel with
  | nothing => exact .inl rfl
  | @last depth v k hv =>
    rw [Reader.printString_append] at hfuel ⊢
    refine .inr ⟨_, rfl, fun e rest hfield => ?_⟩
    simp only [List.length_cons, List.length_append] at hfuel
    have hlength : v.print.length < fuel := by omega
    have hread := Reader.readField_of_readsAt k hv.readsAt hlength Numeral.stops_nil
    rw [List.append_nil, hfield] at hread
    cases hread
    obtain ⟨fuel, rfl⟩ : ∃ n, fuel = n + 1 := Nat.exists_eq_add_of_le' (by omega)
    refine ⟨.before .unfinishedObject [], ?_⟩
    rw [readFields]
    rfl
  | @within depth cs k inner ih =>
    rw [Reader.printString_append] at hfuel ⊢
    refine .inr ⟨_, rfl, fun e rest hfield => ?_⟩
    simp only [List.length_cons, List.length_append] at hfuel
    obtain ⟨fuel, rfl⟩ : ∃ n, fuel = n + 2 := Nat.exists_eq_add_of_le' (by omega)
    have hlength : cs.length < fuel := by omega
    obtain ⟨fault, hfault⟩ := (ih hlength).exists_readValue_eq_error
    -- the field is not read, because its value is not
    rw [readField, Reader.readString_flatMap_printChar] at hfield
    dsimp only [bind, Except.bind] at hfield
    rw [Reader.readColon_cons] at hfield
    dsimp only at hfield
    rw [hfault] at hfield
    cases hfield
  | @more depth v cs k hv further ih =>
    rw [Reader.printString_append] at hfuel ⊢
    refine .inr ⟨_, rfl, fun e rest hfield => ?_⟩
    simp only [List.length_cons, List.length_append] at hfuel
    have hlength : v.print.length < fuel := by omega
    have hstops : Numeral.Stops (',' :: cs) := by
      rintro c ⟨⟩
      decide
    have hread := Reader.readField_of_readsAt k hv.readsAt hlength hstops
    rw [hfield] at hread
    cases hread
    obtain ⟨fuel, rfl⟩ : ∃ n, fuel = n + 1 := Nat.exists_eq_add_of_le' (by omega)
    exact (ih (by omega)).exists_readFields_eq_error

/-- **An object that is not closed is not read.** -/
theorem Unclosed.exists_readChars_eq_error (h : Unclosed depth cs)
    (hdepth : greatestDepth = depth + 1) : ∃ fault, readChars ('{' :: cs) = .error fault := by
  have hunfinished := h.unfinished (Nat.lt_succ_self cs.length)
  obtain ⟨fault, hfault⟩ := hunfinished.exists_readValue_eq_error
  refine ⟨fault, ?_⟩
  rw [readChars, hdepth, List.length_cons, hfault]
  rfl

/-- **A value with braces behind it is not read.** -/
theorem Readable.exists_readChars_eq_error (h : v.Readable greatestDepth) (n : Nat) :
    ∃ fault, readChars (v.print ++ List.replicate (n + 1) '}') = .error fault := by
  have hstops : Numeral.Stops (List.replicate (n + 1) '}') := by
    rintro c ⟨⟩
    decide
  have hlength : v.print.length ≤ (v.print ++ List.replicate (n + 1) '}').length + 1 := by
    rw [List.length_append]
    omega
  refine ⟨.at .trailingCharacters ('}' :: List.replicate n '}'), ?_⟩
  rw [readChars, h.readsAt.value hlength hstops, List.replicate_succ]
  dsimp only [bind, Except.bind]
  rw [readEnd, Reader.skipSpace_cons (by decide)]

end Colloquy.Json
