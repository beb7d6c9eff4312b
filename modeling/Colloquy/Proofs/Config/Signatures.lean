import Colloquy.Config.Basic
import Colloquy.Proofs.Decimal.Display
import Colloquy.Proofs.Provider.Visits

/-!
# What the signature of a client tells

A client is kept under the signature of the settings it was made from: the model, the family,
the temperature, the limit and the effort, with bars between them. The three in the middle have
no bars in them and are told from each other by what they look like. But the name of a model
and an effort are any texts, and nothing marks the bars that are in them. So settings may have
one signature and differ: if the name of the one model goes on with all that follows the name
of the other one, and the effort of that other one has the rest in it
(`ModelSettings.Nests`), or if one effort is empty and the other one is none
(`ModelSettings.Blurs`). Otherwise a signature tells all five of them
(`ModelSettings.signature_eq_iff`).

A cache hands out a client to whoever asks by its signature, so in these two cases, and in no
others, somebody may get a client that was made from other settings
(`ModelSettings.clients_by_signature`).
-/

namespace Colloquy

open Decimal (IsNumeral isDigit)

namespace ModelSettings

/-- The temperature, as it is written in a signature. -/
def temperatureText (s : ModelSettings) : String :=
  (s.temperature.map Decimal.Extended.display).getD ""

/-- The limit, as it is written in a signature. -/
def limitText (s : ModelSettings) : String :=
  (s.maxOutputTokens.map fun n => String.ofList (Decimal.digits n)).getD ""

/-- The effort, as it is written in a signature. -/
def effortText (s : ModelSettings) : String :=
  s.reasoningEffort.getD ""

/-- **What a signature has between the name of the model and the effort.** -/
def middle (s : ModelSettings) : String :=
  s.apiMode.name ++ "|" ++ s.temperatureText ++ "|" ++ s.limitText

/-- Settings that agree on everything but the effort. -/
structure AgreesButEffort (a b : ModelSettings) : Prop where
  /-- The model is the same. -/
  model : a.model = b.model
  /-- The family is the same. -/
  apiMode : a.apiMode = b.apiMode
  /-- The temperature is the same. -/
  temperature : a.temperature = b.temperature
  /-- The limit is the same. -/
  maxOutputTokens : a.maxOutputTokens = b.maxOutputTokens

/-- **Settings that agree on what a client is made from.** -/
structure Agrees (a b : ModelSettings) : Prop extends AgreesButEffort a b where
  /-- The effort is the same. -/
  reasoningEffort : a.reasoningEffort = b.reasoningEffort

/-- **Settings of which one has an empty effort and the other one has none**, and that agree
on everything else. -/
structure Blurs (a b : ModelSettings) : Prop extends AgreesButEffort a b where
  /-- One effort is empty and the other one is none. -/
  efforts : (a.reasoningEffort = none ∧ b.reasoningEffort = some "")
    ∨ (a.reasoningEffort = some "" ∧ b.reasoningEffort = none)

/-- **The signature of the one goes on in the model of the other**: the name of the second
model is that of the first one and what follows it in a signature, and perhaps more, and the
effort of the first one has what is left of the signature of the second one in it. -/
def Nests (a b : ModelSettings) : Prop :=
  ∃ more : String, b.model = a.model ++ "|" ++ a.middle ++ more ∧
    "|" ++ a.effortText = more ++ "|" ++ b.middle ++ "|" ++ b.effortText

/-- **Settings that are spelt alike**: each of the five has the same text. -/
structure SpeltAlike (a b : ModelSettings) : Prop where
  /-- The model is the same. -/
  model : a.model = b.model
  /-- The family is the same. -/
  apiMode : a.apiMode = b.apiMode
  /-- The temperatures have one text. -/
  temperature : a.temperatureText = b.temperatureText
  /-- The limits have one text. -/
  limit : a.limitText = b.limitText
  /-- The efforts have one text. -/
  effort : a.effortText = b.effortText

/-- **Two temperatures are told apart by their texts.** -/
def PrintsApart (a b : ModelSettings) : Prop :=
  ∀ x ∈ a.temperature, ∀ y ∈ b.temperature, x.display = y.display → x = y

variable {a b : ModelSettings} {xs ys as bs : List Char}

/-! ## Texts between bars -/

/-- **A text without a bar ends at the first bar**: another text before a bar is the same, or
goes on behind it. -/
theorem eq_or_exists_of_append_bar (hxs : '|' ∉ xs) (h : xs ++ '|' :: as = ys ++ '|' :: bs) :
    (xs = ys ∧ as = bs) ∨ ∃ zs, ys = xs ++ '|' :: zs ∧ as = zs ++ '|' :: bs := by
  rcases List.append_eq_append_iff.mp h with ⟨zs, hys, hzs⟩ | ⟨zs, hx, hzs⟩
  · cases zs with
    | nil =>
      rw [List.append_nil] at hys
      exact .inl ⟨hys.symm, (List.cons.inj hzs).2⟩
    | cons z zs =>
      obtain ⟨rfl, htail⟩ := List.cons.inj hzs
      exact .inr ⟨zs, hys, htail⟩
  · cases zs with
    | nil =>
      rw [List.append_nil] at hx
      exact .inl ⟨hx, (List.cons.inj hzs).2.symm⟩
    | cons z zs =>
      obtain ⟨rfl, -⟩ := List.cons.inj hzs
      exact absurd (hx ▸ List.mem_append_right _ List.mem_cons_self) hxs

/-- Of two texts without a bar neither goes on behind the other. -/
theorem eq_of_append_bar (hxs : '|' ∉ xs) (hys : '|' ∉ ys)
    (h : xs ++ '|' :: as = ys ++ '|' :: bs) : xs = ys ∧ as = bs := by
  rcases eq_or_exists_of_append_bar hxs h with h | ⟨zs, hys', -⟩
  · exact h
  · exact absurd (hys' ▸ List.mem_append_right _ List.mem_cons_self) hys

theorem bar_notMem_name (mode : Provider.Mode) : '|' ∉ mode.name.toList := by
  cases mode <;> decide

theorem isNumeral_of_mem_temperatureText {c : Char} (h : c ∈ a.temperatureText.toList) :
    IsNumeral c := by
  unfold temperatureText at h
  cases htemp : a.temperature with
  | none =>
    rw [htemp] at h
    cases h
  | some x =>
    rw [htemp] at h
    exact Decimal.Extended.isNumeral_of_mem_display h

theorem isNumeral_of_mem_limitText {c : Char} (h : c ∈ a.limitText.toList) : IsNumeral c := by
  unfold limitText at h
  cases hmax : a.maxOutputTokens with
  | none =>
    rw [hmax] at h
    cases h
  | some n =>
    rw [hmax, Option.map_some, Option.getD_some, String.toList_ofList] at h
    exact .inl (Decimal.isDigit_of_mem_digits n c h)

/-- There is no bar in a number. -/
theorem bar_notMem_of_isNumeral (h : ∀ c ∈ xs, IsNumeral c) : '|' ∉ xs := by
  intro hbar
  exact absurd (h _ hbar) (by decide)

/-- **A number is no family.** -/
theorem numeral_append_ne (hxs : ∀ c ∈ xs, IsNumeral c) (mode : Provider.Mode) :
    xs ++ '|' :: as ≠ mode.name.toList ++ '|' :: bs := by
  intro h
  have hname : 's' ∈ mode.name.toList := by cases mode <;> decide
  obtain ⟨rfl, -⟩ := eq_of_append_bar (bar_notMem_of_isNumeral hxs) (bar_notMem_name mode) h
  exact absurd (hxs _ hname) (by decide)

/-- **What a signature is written with.** -/
theorem toList_signature (s : ModelSettings) :
    s.signature.toList
      = s.model.toList ++ '|' :: (s.middle.toList ++ '|' :: s.effortText.toList) := by
  rw [signature, String.toList_intercalate]
  simp [List.intercalate, middle, temperatureText, limitText, effortText]

theorem toList_middle_append (s : ModelSettings) (as : List Char) :
    s.middle.toList ++ '|' :: as
      = s.apiMode.name.toList ++ '|' ::
          (s.temperatureText.toList ++ '|' :: (s.limitText.toList ++ '|' :: as)) := by
  simp [middle]

/-! ## Reading a signature -/

theorem name_injective {x y : Provider.Mode} (h : x.name = y.name) : x = y := by
  cases x <;> cases y <;> first | rfl | exact absurd h (by decide)

/-- A temperature is told from its text, also from there being none. -/
theorem temperature_eq (hprinted : a.PrintsApart b) (h : a.temperatureText = b.temperatureText) :
    a.temperature = b.temperature := by
  unfold temperatureText at h
  cases hx : a.temperature with
  | none =>
    cases hy : b.temperature with
    | none => rfl
    | some y =>
      rw [hx, hy] at h
      exact absurd h.symm y.display_ne_empty
  | some x =>
    cases hy : b.temperature with
    | none =>
      rw [hx, hy] at h
      exact absurd h x.display_ne_empty
    | some y =>
      rw [hx, hy] at h
      exact congrArg some (hprinted x hx y hy h)

/-- A limit is told from its text, also from there being none. -/
theorem maxOutputTokens_eq (h : a.limitText = b.limitText) :
    a.maxOutputTokens = b.maxOutputTokens := by
  have hempty (n : Nat) : String.ofList (Decimal.digits n) ≠ "" :=
    mt String.ofList_eq_empty_iff.mp (Decimal.digits_ne_nil n)
  unfold limitText at h
  cases hm : a.maxOutputTokens with
  | none =>
    cases hn : b.maxOutputTokens with
    | none => rfl
    | some n =>
      rw [hm, hn] at h
      exact absurd h.symm (hempty n)
  | some m =>
    cases hn : b.maxOutputTokens with
    | none =>
      rw [hm, hn] at h
      exact absurd h (hempty m)
    | some n =>
      rw [hm, hn] at h
      have hdigits : Decimal.digits m = Decimal.digits n := String.ofList_inj.mp h
      rw [← Decimal.valueOf_digits m, hdigits, Decimal.valueOf_digits]

/-- An effort is told from its text, but for an empty one. -/
theorem effortText_eq_iff :
    a.effortText = b.effortText ↔ a.reasoningEffort = b.reasoningEffort ∨
      ((a.reasoningEffort = none ∧ b.reasoningEffort = some "")
        ∨ (a.reasoningEffort = some "" ∧ b.reasoningEffort = none)) := by
  unfold effortText
  cases a.reasoningEffort with
  | none => cases b.reasoningEffort <;> simp [eq_comm]
  | some x => cases b.reasoningEffort <;> simp

theorem AgreesButEffort.speltAlike (h : a.AgreesButEffort b)
    (heffort : a.effortText = b.effortText) : a.SpeltAlike b where
  model := h.model
  apiMode := h.apiMode
  temperature := by rw [temperatureText, temperatureText, h.temperature]
  limit := by rw [limitText, limitText, h.maxOutputTokens]
  effort := heffort

/-- **Settings that are spelt alike agree**, but for an empty effort. -/
theorem speltAlike_iff (hprinted : a.PrintsApart b) :
    a.SpeltAlike b ↔ a.Agrees b ∨ a.Blurs b := by
  constructor
  · intro h
    have hagrees : a.AgreesButEffort b :=
      ⟨h.model, h.apiMode, temperature_eq hprinted h.temperature, maxOutputTokens_eq h.limit⟩
    rcases effortText_eq_iff.mp h.effort with heffort | hblank
    · exact .inl ⟨hagrees, heffort⟩
    · exact .inr ⟨hagrees, hblank⟩
  · rintro (h | h)
    · exact h.toAgreesButEffort.speltAlike (effortText_eq_iff.mpr (.inl h.reasoningEffort))
    · exact h.toAgreesButEffort.speltAlike (effortText_eq_iff.mpr (.inr h.efforts))

/-! ## Cutting a signature -/

/-- **Behind the same model a signature tells all texts.** -/
theorem speltAlike_of_toList_middle (hmodel : a.model = b.model)
    (h : a.middle.toList ++ '|' :: a.effortText.toList
      = b.middle.toList ++ '|' :: b.effortText.toList) : a.SpeltAlike b := by
  have htemperature (s : ModelSettings) : '|' ∉ s.temperatureText.toList :=
    bar_notMem_of_isNumeral fun _ => isNumeral_of_mem_temperatureText
  have hlimit (s : ModelSettings) : '|' ∉ s.limitText.toList :=
    bar_notMem_of_isNumeral fun _ => isNumeral_of_mem_limitText
  rw [toList_middle_append, toList_middle_append] at h
  obtain ⟨hname, hrest⟩ := eq_of_append_bar (bar_notMem_name _) (bar_notMem_name _) h
  obtain ⟨htemp, hbehind⟩ := eq_of_append_bar (htemperature a) (htemperature b) hrest
  obtain ⟨hmax, heffort⟩ := eq_of_append_bar (hlimit a) (hlimit b) hbehind
  exact ⟨hmodel, name_injective (String.toList_inj.mp hname), String.toList_inj.mp htemp,
    String.toList_inj.mp hmax, String.toList_inj.mp heffort⟩

/-- **What follows the name of a model is found again behind a longer name** as a whole: a
number is no family, so the second signature does not begin anywhere before the effort. -/
theorem exists_more_of_toList_middle
    (h : a.middle.toList ++ '|' :: as = ys ++ '|' :: (b.middle.toList ++ '|' :: bs)) :
    ∃ zs, ys = a.middle.toList ++ zs ∧ '|' :: as = zs ++ '|' :: (b.middle.toList ++ '|' :: bs) := by
  have htemperature : ∀ c ∈ a.temperatureText.toList, IsNumeral c :=
    fun _ => isNumeral_of_mem_temperatureText
  have hlimit : ∀ c ∈ a.limitText.toList, IsNumeral c := fun _ => isNumeral_of_mem_limitText
  rw [toList_middle_append] at h
  -- the text that is cut off does not end with the name of the family
  rcases eq_or_exists_of_append_bar (bar_notMem_name _) h with ⟨-, hrest⟩ | ⟨ys, rfl, hrest⟩
  · rw [toList_middle_append] at hrest
    exact absurd hrest (numeral_append_ne htemperature _)
  -- nor with the temperature
  rcases eq_or_exists_of_append_bar (bar_notMem_of_isNumeral htemperature) hrest
    with ⟨-, hbehind⟩ | ⟨ys, rfl, hbehind⟩
  · rw [toList_middle_append] at hbehind
    exact absurd hbehind (numeral_append_ne hlimit _)
  -- and behind the limit everything is in the effort
  rcases eq_or_exists_of_append_bar (bar_notMem_of_isNumeral hlimit) hbehind
    with ⟨rfl, heffort⟩ | ⟨ys, rfl, heffort⟩
  · exact ⟨[], by simp [middle], by rw [heffort, List.nil_append]⟩
  · exact ⟨'|' :: ys, by simp [middle], by rw [heffort, List.cons_append]⟩

/-- **Of two equal signatures, the one with the shorter model** goes on in the longer one, or
the models are the same. -/
theorem speltAlike_or_nests {zs : List Char} (hmodel : b.model.toList = a.model.toList ++ zs)
    (h : '|' :: (a.middle.toList ++ '|' :: a.effortText.toList)
      = zs ++ '|' :: (b.middle.toList ++ '|' :: b.effortText.toList)) :
    a.SpeltAlike b ∨ a.Nests b := by
  cases zs with
  | nil =>
    rw [List.append_nil] at hmodel
    exact .inl (speltAlike_of_toList_middle (String.toList_inj.mp hmodel.symm) (List.cons.inj h).2)
  | cons z ys =>
    obtain ⟨rfl, htail⟩ := List.cons.inj h
    obtain ⟨more, rfl, heffort⟩ := exists_more_of_toList_middle htail
    refine .inr ⟨String.ofList more, String.toList_inj.mp ?_, String.toList_inj.mp ?_⟩
    · simp [hmodel]
    · simpa using heffort

/-- Signatures that nest are the same. -/
theorem Nests.signature_eq (h : a.Nests b) : a.signature = b.signature := by
  obtain ⟨more, hmodel, heffort⟩ := h
  have hwritten := congrArg String.toList heffort
  simp only [String.toList_append] at hwritten
  refine String.toList_inj.mp ?_
  rw [toList_signature, toList_signature, hmodel]
  simp only [String.toList_append, List.append_assoc, String.reduceToList, List.cons_append,
    List.nil_append] at hwritten ⊢
  rw [hwritten]

/-- Settings that are spelt alike have one signature. -/
theorem SpeltAlike.signature_eq (h : a.SpeltAlike b) : a.signature = b.signature := by
  have hmiddle : a.middle = b.middle := by
    unfold middle
    rw [h.apiMode, h.temperature, h.limit]
  refine String.toList_inj.mp ?_
  rw [toList_signature, toList_signature, h.model, hmiddle, h.effort]

/-- **Two signatures are the same** exactly if the settings agree on all five that a client is
made from, or one effort is empty and the other one is none, or one signature goes on in the
model of the other one. -/
theorem signature_eq_iff (hprinted : a.PrintsApart b) :
    a.signature = b.signature ↔ a.Agrees b ∨ a.Blurs b ∨ a.Nests b ∨ b.Nests a := by
  rw [← or_assoc, ← speltAlike_iff hprinted]
  constructor
  · intro h
    have hwritten := congrArg String.toList h
    rw [toList_signature, toList_signature] at hwritten
    rcases List.append_eq_append_iff.mp hwritten with ⟨zs, hmodel, hrest⟩ | ⟨zs, hmodel, hrest⟩
    · rcases speltAlike_or_nests hmodel hrest with hspelt | hnests
      · exact .inl hspelt
      · exact .inr (.inl hnests)
    · rcases speltAlike_or_nests hmodel hrest with hspelt | hnests
      · exact .inl ⟨hspelt.model.symm, hspelt.apiMode.symm, hspelt.temperature.symm,
          hspelt.limit.symm, hspelt.effort.symm⟩
      · exact .inr (.inr hnests)
  · rintro (h | h | h)
    · exact h.signature_eq
    · exact h.signature_eq
    · exact h.signature_eq.symm

/-! ## Clients by their signatures -/

open Provider.Cache (Visit)
open Provider.Cache.Desk (run)

/-- **A client that is kept by its signature comes from settings that agree**, or from some that
cannot be told from them: in whatever order many ask for clients, each by the signature of its
settings, whoever gets one gets one that was made for somebody whose settings have the same
signature. Signatures are the same for settings that agree on all five that a client is made
from, and for no others except where an effort is empty or a signature goes on in a model. -/
theorem clients_by_signature {ι α ε : Type} [DecidableEq ι] (settings : ι → ModelSettings)
    (visits : ι → Visit ι α ε) (schedule : List ι)
    (hprinted : ∀ i j, (settings i).PrintsApart (settings j))
    (hkeyed : ∀ i signature make, visits i = .lookUp signature make →
      signature = (settings i).signature) :
    (∀ i j, (settings i).signature = (settings j).signature ↔
      (settings i).Agrees (settings j) ∨ (settings i).Blurs (settings j)
        ∨ (settings i).Nests (settings j) ∨ (settings j).Nests (settings i)) ∧
    ∀ i client, (run visits schedule).stage i = .answered (.ok client) →
      ∃ j, .making j (settings j).signature (.ok client) ∈ (run visits schedule).events ∧
        ((settings i).Agrees (settings j) ∨ (settings i).Blurs (settings j)
          ∨ (settings i).Nests (settings j) ∨ (settings j).Nests (settings i)) := by
  have hsame (i j : ι) := signature_eq_iff (hprinted i j)
  refine ⟨hsame, fun i client hstage => ?_⟩
  obtain ⟨-, htold, htraced⟩ := Provider.Cache.Desk.holds_run visits schedule
  obtain ⟨signature, make, hvisit, hanswer⟩ := (htold i (.ok client)).mp hstage
  obtain ⟨j, hmaking⟩ := htraced.made i signature client hanswer
  obtain ⟨make', hvisit'⟩ := htraced.asked j signature (.ok client) hmaking
  have hj : signature = (settings j).signature := hkeyed j signature make' hvisit'
  refine ⟨j, hj ▸ hmaking, (hsame i j).mp ?_⟩
  rw [← hj, hkeyed i signature make hvisit]

/-- Settings of which the first two differ in there being an effort, and the third one has
another temperature. -/
def asked : Fin 3 → ModelSettings
  | 0 => {
    temperature := some (.finite ⟨false, 0x3F000000, by decide⟩), maxOutputTokens := some 256 }
  | 1 => {
    temperature := some (.finite ⟨false, 0x3F000000, by decide⟩), maxOutputTokens := some 256
    reasoningEffort := some "" }
  | 2 => {
    temperature := some (.finite ⟨false, 0x3E800000, by decide⟩), maxOutputTokens := some 256 }

/-- Visits that ask for clients of these settings. -/
def asking (i : Fin 3) : Visit (Fin 3) (Fin 3) Unit :=
  .lookUp (asked i).signature fun _ => .ok i

/-- Whoever asks without an effort gets the client that was made for an empty one, if it is
asked for at the same time. -/
theorem clients_by_signature_asked :
    (∀ i j, (asked i).PrintsApart (asked j)) ∧
    (∀ i signature make, asking i = .lookUp signature make → signature = (asked i).signature) ∧
    (run asking [0, 1, 2, 1, 2, 0]).stage 0 = .answered (.ok 1) ∧
    (asked 0).signature = (asked 1).signature ∧ (asked 0).signature ≠ (asked 2).signature ∧
    ∃ j, .making j (asked j).signature (.ok 1) ∈ (run asking [0, 1, 2, 1, 2, 0]).events := by
  have hprinted : ∀ i j, (asked i).PrintsApart (asked j) := by
    unfold PrintsApart
    decide +kernel
  have hkeyed : ∀ i signature make, asking i = .lookUp signature make →
      signature = (asked i).signature := by
    rintro i _ _ ⟨⟩
    rfl
  have hwritten : ∀ i, (asked i).signature
      = if i = 2 then "gpt-4.1-mini|chat_completions|0.25|256|"
        else "gpt-4.1-mini|chat_completions|0.5|256|" := by decide +kernel
  have hstage : (run asking [0, 1, 2, 1, 2, 0]).stage 0 = .answered (.ok 1) := by
    unfold asking
    simp only [hwritten]
    rfl
  obtain ⟨hsame, hclients⟩ := clients_by_signature asked asking [0, 1, 2, 1, 2, 0] hprinted hkeyed
  have hblurs : (asked 0).Blurs (asked 1) := ⟨⟨rfl, rfl, rfl, rfl⟩, .inl ⟨rfl, rfl⟩⟩
  obtain ⟨j, hmaking, -⟩ := hclients 0 1 hstage
  exact ⟨hprinted, hkeyed, hstage, (hsame 0 1).mpr (.inr (.inl hblurs)),
    by rw [hwritten, hwritten]; decide, j, hmaking⟩

/-- Settings with an effort that looks like the end of a signature. -/
def longEffort : ModelSettings where
  model := "gpt-4.1"
  reasoningEffort := some "low|chat_completions|||high"

/-- Settings with a model that looks like the beginning of one. -/
def longModel : ModelSettings where
  model := "gpt-4.1|chat_completions|||low"
  reasoningEffort := some "high"

/-- **A signature does not tell what a client is made from.** -/
theorem not_agrees_of_signature_eq :
    ¬∀ a b : ModelSettings, (∀ x ∈ a.temperature, ∃ y, x = .finite y) →
      (∀ x ∈ b.temperature, ∃ y, x = .finite y) → a.PrintsApart b →
      a.signature = b.signature → a.Agrees b := by
  intro htells
  have hsame : longEffort.signature = longModel.signature := by decide +kernel
  have hagrees := htells longEffort longModel nofun nofun nofun hsame
  exact absurd hagrees.model (by decide)

end ModelSettings

end Colloquy
