import Colloquy.Usage
import Mathlib.Algebra.GroupWithZero.Nat
import Mathlib.Data.Option.NAry
import Mathlib.Tactic.ByContra
import Mathlib.Tactic.SplitIfs

/-!
# The counts in a response

A usage block counts the tokens of the prompt and of the answer under names that differ
between the families of providers: `input_tokens` and `output_tokens`, or `prompt_tokens` and
`completion_tokens`. What stands under a name is a count if it is an unsigned integer, and
otherwise it is as if nothing stood there (`Usage.countAt?_eq_some_iff`). The names of one
family are to stand in for those of the other, each for its own, and a total that is not
given is the sum of the two counts, whatever they are called.

Mostly that is what is read (`Usage.counts_ofPayload_iff`). But the second names are looked at
together, and only where no total is known without them. So where a total is given, a count
under a second name is not seen (`Usage.Overlooks`), and where one count has its first name
and the other one its second, a total is the sum of what stands under second names, or there
is none (`Usage.Mixes`).
-/

namespace Colloquy

namespace Usage

/-- What is counted under one name, or else under another. -/
def countUnder? (block : Json) (name other : String) : Option Nat :=
  (countAt? block name).or (countAt? block other)

/-- **The tokens of the prompt**, whatever they are called. -/
def promptTokens (block : Json) : Option Nat :=
  countUnder? block "input_tokens" "prompt_tokens"

/-- **The tokens of the answer**, whatever they are called. -/
def answerTokens (block : Json) : Option Nat :=
  countUnder? block "output_tokens" "completion_tokens"

/-- **All tokens**: the total that is given, or else the sum of the tokens of the prompt and
of the answer, as far as sixty-four bits reach. -/
def allTokens (block : Json) : Option Nat :=
  (countAt? block "total_tokens").or
    (Option.map₂ (fun m n => min (2 ^ 64 - 1) (m + n)) (promptTokens block) (answerTokens block))

/-- **A count is overlooked**: it stands under its second name only, and a total is given. -/
structure Overlooks (block : Json) (name other : String) : Prop where
  /-- There is a total. -/
  given : countAt? block "total_tokens" ≠ none
  /-- There is no count under the first name. -/
  unnamed : countAt? block name = none
  /-- There is one under the second name. -/
  counted : countAt? block other ≠ none

/-- **The names of two families are mixed**: one of the two counts has its first name and the
other one has not, and what stands under the second names has another sum than the counts. -/
structure Mixes (block : Json) : Prop where
  /-- There is no total. -/
  underived : countAt? block "total_tokens" = none
  /-- One of the counts has its first name. -/
  single : ¬(countAt? block "input_tokens" = none ↔ countAt? block "output_tokens" = none)
  /-- The second names stand for another sum. -/
  differs : plus? (countAt? block "prompt_tokens") (countAt? block "completion_tokens")
    ≠ plus? (promptTokens block) (answerTokens block)

variable {block payload : Json} {fields : Json.Fields} {name other : String} {n : Nat}

/-- **What counts is an unsigned integer**, and nothing else: no null, no string, nothing
negative and no real. -/
theorem countAt?_eq_some_iff :
    countAt? block name = some n ↔ ∃ fits, block.field? name = some (.num (.integer n fits)) := by
  unfold countAt?
  rw [Option.bind_eq_some_iff]
  constructor
  · rintro ⟨v, hv, hn⟩
    cases v with
    | num number =>
      cases number with
      | integer i fits =>
        simp only [Json.nat?, Json.Number.toNat?] at hn
        split_ifs at hn with hi
        obtain rfl : (n : Int) = i := by
          rw [← Option.some.inj hn]
          exact Int.toNat_of_nonneg hi
        exact ⟨fits, hv⟩
      | real _ => cases hn
    | _ => cases hn
  · rintro ⟨fits, hv⟩
    refine ⟨_, hv, ?_⟩
    simp [Json.nat?, Json.Number.toNat?]

/-- Sums of counts are those of the program. -/
theorem map₂_min_add (count other : Option Nat) :
    Option.map₂ (fun m n => min (2 ^ 64 - 1) (m + n)) count other = plus? count other := by
  cases count with
  | none => cases other <;> rfl
  | some m =>
    cases other with
    | none => rfl
    | some n => exact congrArg some (Nat.min_comm _ _)

/-! ## Where the counts come from -/

/-- **A count as it is seen**: under both its names if no total is given, otherwise under the
first one alone. -/
def seen? (block : Json) (name other : String) : Option Nat :=
  if countAt? block "total_tokens" = none then countUnder? block name other
  else countAt? block name

/-- **The total as it is made up**: what is given, or the sum of what stands under first
names, or that of what stands under second names. -/
def summed? (block : Json) : Option Nat :=
  ((countAt? block "total_tokens").or
    (plus? (countAt? block "input_tokens") (countAt? block "output_tokens"))).or
      (plus? (countAt? block "prompt_tokens") (countAt? block "completion_tokens"))

/-- **The main counts, one by one.** That second names are not looked at where both counts
have their first names makes no difference to the counts. -/
theorem mainCounts_eq (block : Json) :
    mainCounts block
      = (summed? block, seen? block "input_tokens" "prompt_tokens",
          seen? block "output_tokens" "completion_tokens") := by
  unfold mainCounts summed? seen? countUnder?
  cases countAt? block "total_tokens" with
  | some t => rfl
  | none =>
    cases countAt? block "input_tokens" with
    | none => rfl
    | some p => cases countAt? block "output_tokens" <;> rfl

/-- The main counts are those of the usage block. -/
theorem mainCounts_ofPayload (h : payload.field? "usage" = some (.obj fields)) :
    ((ofPayload payload).total, (ofPayload payload).input, (ofPayload payload).output)
      = mainCounts (.obj fields) := by
  simp [ofPayload, h]

/-! ## What is lost on the way -/

/-- **A count is seen** exactly if it is not overlooked. -/
theorem seen?_eq_countUnder?_iff :
    seen? block name other = countUnder? block name other ↔ ¬Overlooks block name other := by
  unfold seen?
  split_ifs with htotal
  · exact iff_of_true rfl fun hover => hover.given htotal
  · unfold countUnder?
    cases hname : countAt? block name with
    | some n => exact iff_of_true rfl fun hover => by simpa [hname] using hover.unnamed
    | none =>
      rw [Option.none_or]
      constructor
      · exact fun hother hover => hover.counted hother.symm
      · intro hover
        by_contra hother
        exact hover ⟨htotal, hname, fun hnone => hother hnone.symm⟩

/-- What is not seen is unknown. -/
theorem seen?_of_ne (h : seen? block name other ≠ countUnder? block name other) :
    seen? block name other = none := by
  unfold seen? countUnder? at h ⊢
  split_ifs at h ⊢ with htotal
  · exact absurd rfl h
  · cases hname : countAt? block name with
    | none => rfl
    | some n => simp [hname] at h

/-- **A total is right** exactly if names are not mixed. -/
theorem summed?_eq_allTokens_iff : summed? block = allTokens block ↔ ¬Mixes block := by
  rw [allTokens, map₂_min_add]
  unfold summed?
  cases htotal : countAt? block "total_tokens" with
  | some t => exact iff_of_true rfl fun hmixes => by simpa [htotal] using hmixes.underived
  | none =>
    rw [Option.none_or, Option.none_or]
    by_cases hsingle : countAt? block "input_tokens" = none ↔ countAt? block "output_tokens" = none
    · refine iff_of_true ?_ fun hmixes => hmixes.single hsingle
      unfold promptTokens answerTokens countUnder?
      cases hinput : countAt? block "input_tokens" with
      | none => simp [hsingle.mp hinput, plus?]
      | some p =>
        obtain ⟨a, ha⟩ := Option.ne_none_iff_exists'.mp
          (mt hsingle.mpr (Option.ne_none_iff_exists'.mpr ⟨p, hinput⟩))
        simp [ha, plus?]
    · -- there is no sum of what stands under first names
      have hfirst : plus? (countAt? block "input_tokens") (countAt? block "output_tokens")
          = none := by
        cases hinput : countAt? block "input_tokens" with
        | none => rfl
        | some p =>
          cases houtput : countAt? block "output_tokens" with
          | none => rfl
          | some a => exact absurd (by simp [hinput, houtput]) hsingle
      rw [hfirst, Option.none_or]
      refine ⟨fun hsum hmixes => hmixes.differs hsum, fun hmixes => ?_⟩
      by_contra hsum
      exact hmixes ⟨htotal, hsingle, hsum⟩

/-- Where names are mixed, the total is the sum of what stands under second names. -/
theorem summed?_of_mixes (h : Mixes block) :
    summed? block
      = plus? (countAt? block "prompt_tokens") (countAt? block "completion_tokens") := by
  have hsingle := h.single
  unfold summed?
  rw [h.underived, Option.none_or]
  cases hinput : countAt? block "input_tokens" with
  | none => rfl
  | some p =>
    cases houtput : countAt? block "output_tokens" with
    | none => rfl
    | some a => simp [hinput, houtput] at hsingle

/-- **The counts that are read are those in the block**, whatever stands in it and under
whichever names, but for two things. A count that is overlooked is taken for unknown, and
where names are mixed the sum of what stands under second names is taken for the total. -/
theorem counts_ofPayload_iff (h : payload.field? "usage" = some (.obj fields)) :
    let block := Json.obj fields
    let u := ofPayload payload
    (∀ name n, countAt? block name = some n
        ↔ ∃ fits, fields.find? name = some (.num (.integer n fits))) ∧
      (u.input = promptTokens block ↔ ¬Overlooks block "input_tokens" "prompt_tokens") ∧
      (u.output = answerTokens block ↔ ¬Overlooks block "output_tokens" "completion_tokens") ∧
      (u.total = allTokens block ↔ ¬Mixes block) ∧
      (u.input ≠ promptTokens block → u.input = none) ∧
      (u.output ≠ answerTokens block → u.output = none) ∧
      (u.total ≠ allTokens block →
        u.total = plus? (countAt? block "prompt_tokens") (countAt? block "completion_tokens")) := by
  intro block u
  have hmain : (u.total, u.input, u.output)
      = (summed? block, seen? block "input_tokens" "prompt_tokens",
          seen? block "output_tokens" "completion_tokens") :=
    (mainCounts_ofPayload h).trans (mainCounts_eq block)
  simp only [Prod.mk.injEq] at hmain
  obtain ⟨htotal, hinput, houtput⟩ := hmain
  rw [htotal, hinput, houtput]
  refine ⟨fun _ _ => countAt?_eq_some_iff, seen?_eq_countUnder?_iff, seen?_eq_countUnder?_iff,
    summed?_eq_allTokens_iff, seen?_of_ne, seen?_of_ne, fun hne => ?_⟩
  exact summed?_of_mixes (not_not.mp (mt summed?_eq_allTokens_iff.mpr hne))

/-- A usage block with names of both families, and with something that is no count. -/
def bothFamilies : Json.Fields :=
  [("completion_tokens", .ofNat 5), ("input_tokens", .ofNat 10),
   ("output_tokens", .num (.integer (-3) (by decide))), ("prompt_tokens", .ofNat 10)]

/-- A count under a second name stands in for one that is negative. -/
theorem counts_ofPayload_bothFamilies :
    (Json.obj [("usage", .obj bothFamilies)]).field? "usage" = some (.obj bothFamilies) ∧
      (ofPayload (.obj [("usage", .obj bothFamilies)])).output = some 5 ∧
      (ofPayload (.obj [("usage", .obj bothFamilies)])).total = some 15 := by
  have husage : (Json.obj [("usage", .obj bothFamilies)]).field? "usage"
      = some (.obj bothFamilies) := rfl
  obtain ⟨-, -, houtput, htotal, -⟩ := counts_ofPayload_iff husage
  refine ⟨husage, (houtput.mpr ?_).trans rfl, (htotal.mpr ?_).trans rfl⟩
  · exact fun hover => hover.given rfl
  · exact fun hmixes => hmixes.differs rfl

/-- The usage of a response as a chat provider reports it. -/
def ofChat : Json.Fields :=
  [("completion_tokens", .ofNat 5), ("prompt_tokens", .ofNat 10), ("total_tokens", .ofNat 15)]

/-- **A chat provider that gives a total is not heard on its counts.** -/
theorem not_counts_ofPayload :
    ¬∀ (payload : Json) (fields : Json.Fields), payload.field? "usage" = some (.obj fields) →
      (ofPayload payload).input = promptTokens (.obj fields) ∧
      (ofPayload payload).output = answerTokens (.obj fields) ∧
      (ofPayload payload).total = allTokens (.obj fields) := by
  intro hcounts
  obtain ⟨hinput, -, -⟩ := hcounts (.obj [("usage", .obj ofChat)]) ofChat rfl
  cases hinput

end Usage

end Colloquy
