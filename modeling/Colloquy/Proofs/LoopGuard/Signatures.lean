import Colloquy.Proofs.LoopGuard
import Mathlib.Data.List.Basic

/-!
# What a signature tells

A guard does not keep the rounds it has seen but their signatures, and in a signature the
names of the tools and the beginnings of their outputs are put into one text, with a colon
and a bar between them. Nothing marks the colons and bars that come from a name or an output.
So two rounds may have one signature and yet be different: one call whose output looks like
the end of one call and the beginning of another, or those two calls (`Mistaken`).

That takes an output in which a bar, the name of a tool and a colon are found, or a name with
a colon or a bar in it. Where there is neither, a signature tells what was called and how the
outputs began (`Plain.told_eq`). A guard therefore trips at every round that is seen three
times in a row, and beyond that only at rounds that are taken for one another
(`tripped_after_iff_repeated_or_mistaken`).
-/

namespace Colloquy

open Tool (Record)

namespace LoopGuard

/-- **What is told of a round**: the tools that were called, and how their outputs begin. -/
def told (round : List Record) : List (String × String) :=
  round.map fun r => (r.toolName, Text.firstChars signatureLength (output r))

/-- **Three rounds are taken for one**: they have one signature, and are not the same. -/
structure Mistaken (a b c : List Record) : Prop where
  /-- There is one signature. -/
  oneSignature : signature a = signature b ∧ signature b = signature c
  /-- Something else is told of one of them than of the others. -/
  different : ¬(told a = told b ∧ told b = told c)

/-- **Calls that cannot be misread**: none of their outputs looks as if another call to one of
the tools began there. -/
structure Plain (calls : List (String × String)) : Prop where
  /-- No name has a colon in it. -/
  colon : ∀ call ∈ calls, ':' ∉ call.1.toList
  /-- No name has a bar in it. -/
  bar : ∀ call ∈ calls, '|' ∉ call.1.toList
  /-- No output has a bar in it, and behind the bar a name and a colon. -/
  output : ∀ call ∈ calls, ∀ other ∈ calls,
    ¬ '|' :: (call.1.toList ++ [':']) <:+: other.2.toList

/-- How a call is written. -/
def callText (call : String × String) : List Char :=
  call.1.toList ++ ':' :: call.2.toList

/-- How the calls behind a first one are written. -/
def furtherText (calls : List (String × String)) : List Char :=
  calls.flatMap fun call => '|' :: callText call

variable {calls others : List (String × String)} {cs ds : List Char}

/-! ## Signatures as they are written -/

theorem intercalate_callText (call : String × String) (calls : List (String × String)) :
    ['|'].intercalate ((call :: calls).map callText) = callText call ++ furtherText calls := by
  induction calls generalizing call with
  | nil => simp [furtherText]
  | cons next calls ih =>
    rw [List.map_cons, List.map_cons, List.intercalate_cons_cons, ← List.map_cons, ih]
    simp [furtherText]

/-- **A signature is what is told of the round**, written down. -/
theorem toList_signature (round : List Record) :
    (signature round).toList = ['|'].intercalate ((told round).map callText) := by
  have hrecord : round.map (fun r => (recordSignature r).toList) = (told round).map callText := by
    rw [told, List.map_map]
    refine List.map_congr_left fun r _ => ?_
    simp [recordSignature, callText]
  rw [signature, String.toList_intercalate, List.map_map]
  exact congrArg _ hrecord

theorem signature_eq_iff {a b : List Record} :
    signature a = signature b
      ↔ ['|'].intercalate ((told a).map callText) = ['|'].intercalate ((told b).map callText) := by
  rw [← toList_signature, ← toList_signature, String.toList_inj]

/-! ## Reading a signature -/

theorem Plain.mono (h : Plain calls) (hsub : others ⊆ calls) : Plain others where
  colon call hcall := h.colon call (hsub hcall)
  bar call hcall := h.bar call (hsub hcall)
  output call hcall other hother := h.output call (hsub hcall) other (hsub hother)

/-- **An output ends where it ends**: what is added to it does not begin a further call. -/
theorem Plain.eq_nil_of_append (h : Plain calls) {call : String × String} (hcall : call ∈ calls)
    (hmention : ¬ '|' :: (call.1.toList ++ [':']) <:+: cs ++ ds) {rest : List Char}
    (hfurther : '|' :: (callText call ++ rest) = ds ++ furtherText others) : ds = [] := by
  cases ds with
  | nil => rfl
  | cons d ds =>
    exfalso
    obtain ⟨rfl, htail⟩ := List.cons.inj hfurther
    rw [callText, List.append_assoc, List.cons_append, List.append_cons] at htail
    rcases List.append_eq_append_iff.mp htail with ⟨more, rfl, -⟩ | ⟨more, hname, hrest⟩
    · -- the whole beginning of the call is added
      refine hmention ⟨cs, more, ?_⟩
      simp
    · cases more with
      | nil =>
        rw [List.append_nil] at hname
        exact hmention ⟨cs, [], by simp [hname]⟩
      | cons c more =>
        -- a part of it is left over, and no further call begins in the middle of a name
        have hmem : c ∈ call.1.toList ++ [':'] := hname ▸ by simp
        cases others with
        | nil => simp [furtherText] at hrest
        | cons other others =>
          have hc : c = '|' := by
            simp only [furtherText, List.flatMap_cons, List.cons_append, List.cons.injEq] at hrest
            exact hrest.1.symm
          rcases List.mem_append.mp hmem with hname | hcolon
          · exact h.bar call hcall (hc ▸ hname)
          · rw [hc] at hcolon
            exact absurd hcolon (by decide)

/-- Of two outputs in front of further calls neither goes on behind the other. -/
theorem Plain.output_eq (h : Plain calls) {x y : String × String} (hx : x ∈ calls)
    (hy : y ∈ calls) {xs ys : List (String × String)} (hxs : xs ⊆ calls) (hys : ys ⊆ calls)
    (heq : x.2.toList ++ furtherText xs = y.2.toList ++ furtherText ys) :
    x.2 = y.2 ∧ furtherText xs = furtherText ys := by
  have hends {x y : String × String} {xs ys : List (String × String)} {more : List Char}
      (hy : y ∈ calls) (hxs : xs ⊆ calls) (houtput : y.2.toList = x.2.toList ++ more)
      (hfurther : furtherText xs = more ++ furtherText ys) : more = [] := by
    cases xs with
    | nil => exact (List.append_eq_nil_iff.mp hfurther.symm).1
    | cons call xs =>
      have hcall : call ∈ calls := hxs List.mem_cons_self
      exact h.eq_nil_of_append hcall (houtput ▸ h.output call hcall y hy) hfurther
  rcases List.append_eq_append_iff.mp heq with ⟨more, houtput, hfurther⟩ | ⟨more, houtput, hfurther⟩
  · have hnil := hends hy hxs houtput hfurther
    subst hnil
    rw [List.append_nil] at houtput
    exact ⟨String.toList_inj.mp houtput.symm, hfurther⟩
  · have hnil := hends hx hys houtput hfurther
    subst hnil
    rw [List.append_nil] at houtput
    exact ⟨String.toList_inj.mp houtput, hfurther.symm⟩

/-- A name ends at the first colon. -/
theorem name_eq_of_append_colon {xs ys as bs : List Char} (hxs : ':' ∉ xs) (hys : ':' ∉ ys)
    (heq : xs ++ ':' :: as = ys ++ ':' :: bs) : xs = ys ∧ as = bs := by
  have hname (cs ds : List Char) (hcs : ':' ∉ cs) :
      (cs ++ ':' :: ds).takeWhile (· ≠ ':') = cs := by
    rw [List.takeWhile_append_of_pos fun c hc => by simpa using fun h : c = ':' => hcs (h ▸ hc)]
    simp
  have hxy : xs = ys := by rw [← hname xs as hxs, heq, hname ys bs hys]
  subst hxy
  exact ⟨rfl, (List.cons.inj (List.append_cancel_left heq)).2⟩

/-- **Calls are told apart by how they are written**, if they cannot be misread. -/
theorem Plain.eq_of_furtherText (h : Plain calls) {xs ys : List (String × String)}
    (hxs : xs ⊆ calls) (hys : ys ⊆ calls) (heq : furtherText xs = furtherText ys) : xs = ys := by
  induction xs generalizing ys with
  | nil =>
    cases ys with
    | nil => rfl
    | cons y ys => simp [furtherText] at heq
  | cons x xs ih =>
    cases ys with
    | nil => simp [furtherText] at heq
    | cons y ys =>
      obtain ⟨hx, hxs⟩ := List.cons_subset.mp hxs
      obtain ⟨hy, hys⟩ := List.cons_subset.mp hys
      have hcalls : x.1.toList ++ ':' :: (x.2.toList ++ furtherText xs)
          = y.1.toList ++ ':' :: (y.2.toList ++ furtherText ys) := by
        simpa [furtherText, callText] using heq
      obtain ⟨hname, hbehind⟩ := name_eq_of_append_colon (h.colon x hx) (h.colon y hy) hcalls
      obtain ⟨houtput, hfurther⟩ := h.output_eq hx hy hxs hys hbehind
      rw [Prod.ext (String.toList_inj.mp hname) houtput, ih hxs hys hfurther]

/-- **A signature tells what was called and how the outputs begin**, if the calls cannot be
misread. -/
theorem Plain.told_eq {a b : List Record} (h : Plain (told a ++ told b))
    (heq : signature a = signature b) : told a = told b := by
  have hwritten := signature_eq_iff.mp heq
  generalize told a = xs at h hwritten
  generalize told b = ys at h hwritten
  cases xs with
  | nil =>
    cases ys with
    | nil => rfl
    | cons y ys =>
      rw [intercalate_callText] at hwritten
      simp [callText] at hwritten
  | cons x xs =>
    cases ys with
    | nil =>
      rw [intercalate_callText] at hwritten
      simp [callText] at hwritten
    | cons y ys =>
      rw [intercalate_callText, intercalate_callText] at hwritten
      refine h.eq_of_furtherText (List.subset_append_left _ _) (List.subset_append_right _ _) ?_
      simpa [furtherText] using hwritten

/-! ## What trips a guard -/

variable {rounds : List (List Record)} {a b c : List Record}

theorem signature_eq_of_told_eq (h : told a = told b) : signature a = signature b := by
  rw [signature_eq_iff, h]

/-- Rounds that are taken for one are rounds of calls that can be misread. -/
theorem Mistaken.not_plain (h : Mistaken a b c) : ¬Plain (told a ++ told b ++ told c) := by
  intro hplain
  refine h.different ⟨?_, ?_⟩
  · exact (hplain.mono (List.subset_append_left _ _)).told_eq h.oneSignature.1
  · refine (hplain.mono ?_).told_eq h.oneSignature.2
    rw [List.append_assoc]
    exact List.subset_append_right _ _

/-- What is three times the last of what is made of a list is made of its last three. -/
theorem triple_suffix_map_iff {α β : Type} {f : α → β} {xs : List α} {y : β} :
    [y, y, y] <:+ xs.map f ↔ ∃ a b c, [a, b, c] <:+ xs ∧ f a = y ∧ f b = y ∧ f c = y := by
  rw [List.suffix_map_iff]
  constructor
  · rintro ⟨last, hlast, hmap⟩
    obtain ⟨a, last, rfl, ha, hmap⟩ := List.map_eq_cons_iff.mp hmap.symm
    obtain ⟨b, last, rfl, hb, hmap⟩ := List.map_eq_cons_iff.mp hmap
    obtain ⟨c, last, rfl, hc, hmap⟩ := List.map_eq_cons_iff.mp hmap
    obtain rfl := List.map_eq_nil_iff.mp hmap
    exact ⟨a, b, c, hlast, ha, hb, hc⟩
  · rintro ⟨a, b, c, hlast, ha, hb, hc⟩
    exact ⟨[a, b, c], hlast, by simp [ha, hb, hc]⟩

/-- **When a guard trips**: at a round that is seen for the third time in a row, whatever is
in its names and outputs, and at no other one unless the last three rounds are taken for one,
which they are only if their calls can be misread. -/
theorem tripped_after_iff_repeated_or_mistaken :
    (after rounds).tripped = true
      ↔ (∃ calls, [calls, calls, calls] <:+ rounds.map told)
        ∨ ∃ a b c, [a, b, c] <:+ rounds ∧ Mistaken a b c
          ∧ ¬Plain (told a ++ told b ++ told c) := by
  rw [tripped_after_iff]
  simp only [triple_suffix_map_iff]
  constructor
  · rintro ⟨s, a, b, c, hlast, ha, hb, hc⟩
    by_cases hsame : told a = told b ∧ told b = told c
    · exact .inl ⟨told c, a, b, c, hlast, hsame.1.trans hsame.2, hsame.2, rfl⟩
    · have hmistaken : Mistaken a b c := ⟨⟨ha.trans hb.symm, hb.trans hc.symm⟩, hsame⟩
      exact .inr ⟨a, b, c, hlast, hmistaken, hmistaken.not_plain⟩
  · rintro (⟨calls, a, b, c, hlast, ha, hb, hc⟩ | ⟨a, b, c, hlast, hmistaken, -⟩)
    · exact ⟨signature c, a, b, c, hlast, signature_eq_of_told_eq (ha.trans hc.symm),
        signature_eq_of_told_eq (hb.trans hc.symm), rfl⟩
    · obtain ⟨hab, hbc⟩ := hmistaken.oneSignature
      exact ⟨signature c, a, b, c, hlast, hab.trans hbc, hbc, rfl⟩

/-- A call with its output, as a chat provider is told. -/
def answered (tool text : String) : Record where
  toolName := tool
  callId := "call_1"
  payload := .toolResult tool "call_1" text
  result := ⟨.str text, []⟩

/-- A search in which there is nothing but a line from a table. -/
def oneCall : List Record :=
  [answered "search" "none|fetch:none"]

/-- A search and another call, in which there is nothing. -/
def twoCalls : List Record :=
  [answered "search" "none", answered "fetch" "none"]

/-- **A guard trips at rounds that nobody has seen three times.** -/
theorem not_tripped_iff_repeated :
    ¬∀ rounds : List (List Record), (∀ round ∈ rounds, round ≠ []) →
      ((after rounds).tripped = true ↔ ∃ calls, [calls, calls, calls] <:+ rounds.map told) := by
  intro honly
  have hcalls : ∀ round ∈ [oneCall, twoCalls, oneCall], round ≠ [] := by
    simp [oneCall, twoCalls]
  have htripped : (after [oneCall, twoCalls, oneCall]).tripped = true := by decide +kernel
  obtain ⟨calls, hrepeated⟩ := (honly _ hcalls).mp htripped
  have hlast : [calls, calls, calls] = [told oneCall, told twoCalls, told oneCall] :=
    hrepeated.eq_of_length rfl
  have hlengths : (told oneCall).length = (told twoCalls).length := by
    simp only [List.cons.injEq] at hlast
    rw [← hlast.1, ← hlast.2.1]
  cases hlengths

end LoopGuard

end Colloquy
