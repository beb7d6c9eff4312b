import Colloquy.Config.Check
import Colloquy.Config.Limits
import Colloquy.Proofs.Json.Settings

/-!
# Configurations that were checked

A configuration with which no run could be made leaves it no round of tool calls,
or no time. The check looks for such numbers in the runtime section by their
names, so if it finds nothing wrong and the configuration can be decoded, it has
limits – as long as the section is an object.

It may be given as a list, too, in the order of its settings. The check looks
into no list, and then the numbers are whatever stands at their places
(`Config.Stalls`, `Config.exists_limits_iff_of_checked`).
-/

namespace Colloquy

open Json (Comes)
open Json.Setting (Place given? sets_setting keeps_setting)

/-! ## The places of settings -/

namespace RuntimeSettings

theorem place_maxToolIterations :
    Place settings 0 "max_tool_iterations" (.count .small) maxToolIterations where
  sets := ⟨_, rfl, rfl, sets_setting fun _ _ => rfl⟩
  keeps := by
    simp only [settings, List.eraseIdx_cons_zero, List.forall_mem_cons]
    refine ⟨?_, ?_, ?_, ?_, ?_, ?_, ?_, fun _ h => by cases h⟩ <;>
      exact ⟨by decide, keeps_setting fun _ _ => rfl⟩

theorem place_timeoutSecs : Place settings 1 "timeout_secs" (.count .large) timeoutSecs where
  sets := ⟨_, rfl, rfl, sets_setting fun _ _ => rfl⟩
  keeps := by
    simp only [settings, List.eraseIdx_cons_succ, List.eraseIdx_cons_zero, List.forall_mem_cons]
    refine ⟨?_, ?_, ?_, ?_, ?_, ?_, ?_, fun _ h => by cases h⟩ <;>
      exact ⟨by decide, keeps_setting fun _ _ => rfl⟩

theorem place_minTimeoutSecs :
    Place settings 2 "min_timeout_secs" (.count .large) minTimeoutSecs where
  sets := ⟨_, rfl, rfl, sets_setting fun _ _ => rfl⟩
  keeps := by
    simp only [settings, List.eraseIdx_cons_succ, List.eraseIdx_cons_zero, List.forall_mem_cons]
    refine ⟨?_, ?_, ?_, ?_, ?_, ?_, ?_, fun _ h => by cases h⟩ <;>
      exact ⟨by decide, keeps_setting fun _ _ => rfl⟩

end RuntimeSettings

theorem Config.place_runtime : Place settings 0 "runtime" RuntimeSettings.kind runtime where
  sets := ⟨_, rfl, rfl, sets_setting fun _ _ => rfl⟩
  keeps := by
    simp only [settings, List.eraseIdx_cons_zero, List.forall_mem_cons]
    refine ⟨?_, ?_, fun _ h => by cases h⟩ <;> exact ⟨by decide, keeps_setting fun _ _ => rfl⟩

/-! ## When there are limits -/

/-- **There are limits** unless there is no round of tool calls or no time. -/
theorem Limits.exists_ofSettings_iff (s : RuntimeSettings) :
    (∃ l, ofSettings s = .ok l)
      ↔ ¬ (s.maxToolIterations = 0 ∨ s.timeoutSecs = 0 ∧ s.minTimeoutSecs = 0) := by
  have hcalls : 0 < max (min (2 * s.maxToolIterations) greatestCalls) leastCalls :=
    lt_max_of_lt_right (by decide)
  unfold ofSettings make
  split_ifs with hsteps htime
  · exact ⟨fun _ => by omega, fun _ => ⟨_, rfl⟩⟩
  · exact ⟨nofun, fun h => absurd h (by omega)⟩
  · exact ⟨nofun, fun h => absurd h (by omega)⟩

/-- A counter is decoded from the number it is. -/
theorem Json.Decode.nat?_of_count {range : Range} {v : Json} {n : Nat}
    (h : count range v = .ok n) : v.nat? = some n := by
  cases v with
  | num number =>
    cases number with
    | integer i fits =>
      change (if _ then _ else _) = _ at h
      split_ifs at h with hrange
      rw [← Except.ok.inj h]
      exact if_pos hrange.1
    | real x => cases h
  | _ => cases h

/-- **A counter is zero** only if it is given as zero, or was zero before. -/
theorem Json.Comes.eq_zero_iff {range : Decode.Range} {old n : Nat} {given : Option Json}
    (h : Comes (.count range) old given n) (hold : old ≠ 0) :
    n = 0 ↔ given.bind Json.nat? = some 0 := by
  cases h with
  | given decoded => rw [Option.bind_some, Decode.nat?_of_count decoded, Option.some_inj]
  | kept => exact ⟨fun h => absurd h hold, nofun⟩

/-- **The limits that a runtime section sets** are wanting only if it gives zeros. -/
theorem RuntimeSettings.exists_limits_iff {v : Json} {s : RuntimeSettings} (hv : v.InOrder)
    (hread : kind.ofJson v = .ok s) :
    (∃ l, Limits.ofSettings s = .ok l)
      ↔ ¬ ((given? v 0 "max_tool_iterations").bind Json.nat? = some 0
        ∨ (given? v 1 "timeout_secs").bind Json.nat? = some 0
          ∧ (given? v 2 "min_timeout_secs").bind Json.nat? = some 0) := by
  have hsteps := place_maxToolIterations.comes_record hv hread
  have htime := place_timeoutSecs.comes_record hv hread
  have hleast := place_minTimeoutSecs.comes_record hv hread
  rw [Limits.exists_ofSettings_iff, hsteps.eq_zero_iff (by decide),
    htime.eq_zero_iff (by decide), hleast.eq_zero_iff (by decide)]

namespace Config

/-! ## What the check has seen -/

variable {raw v : Json} {c : Config} {fields : Json.Fields} {name : String}

/-- A number of the runtime section that was checked is not zero. -/
theorem nat?_ne_zero_of_positive (h : ∀ f ∈ positive fields name, f.severity ≠ .error)
    (hgiven : settingOf? fields "runtime" name = some v) : v.nat? ≠ some 0 := by
  intro hzero
  unfold positive at h
  rw [hgiven] at h
  dsimp only at h
  rw [hzero] at h
  exact h _ List.mem_cons_self rfl

/-- **What was checked is an object**, the numbers of whose runtime section are
not zero. -/
theorem exists_obj_of_checked (h : ∀ f ∈ check raw, f.severity ≠ .error) :
    ∃ fields, raw = .obj fields
      ∧ (∀ v, settingOf? fields "runtime" "max_tool_iterations" = some v → v.nat? ≠ some 0)
      ∧ ∀ v, settingOf? fields "runtime" "timeout_secs" = some v → v.nat? ≠ some 0 := by
  cases raw with
  | obj fields =>
    refine ⟨fields, rfl, fun v => nat?_ne_zero_of_positive fun f hf => h f ?_,
      fun v => nat?_ne_zero_of_positive fun f hf => h f ?_⟩ <;> simp [check, hf]
  | _ => exact absurd rfl (h _ (List.mem_singleton_self _))

/-- **A list of runtime settings stalls a run**: the first item, which says how
many rounds of tool calls there may be, is zero, or the second and the third
both are, which say how many seconds a run may take, and may take at least. -/
def Stalls (items : List Json) : Prop :=
  items[0]?.bind Json.nat? = some 0
    ∨ items[1]?.bind Json.nat? = some 0 ∧ items[2]?.bind Json.nat? = some 0

/-- **A configuration that was checked has limits**, if nothing was found wrong
and it can be decoded – unless its runtime section is a list that stalls a run. -/
theorem exists_limits_iff_of_checked (horder : raw.InOrder)
    (hchecked : ∀ f ∈ check raw, f.severity ≠ .error) (hread : ofJson raw = .ok c) :
    (∃ l, Limits.ofSettings c.runtime = .ok l)
      ↔ ∀ items, raw.field? "runtime" = some (.arr items) → ¬ Stalls items := by
  obtain ⟨fields, rfl, hsteps, htime⟩ := exists_obj_of_checked hchecked
  have hruntime : Comes RuntimeSettings.kind {} (Json.Fields.find? fields "runtime") c.runtime :=
    place_runtime.comes_record horder hread
  show _ ↔ ∀ items, Json.Fields.find? fields "runtime" = some (.arr items) → _
  unfold settingOf? at hsteps htime
  cases hsection : Json.Fields.find? fields "runtime" with
  | none =>
    rw [hsection] at hruntime
    generalize c.runtime = s at hruntime
    cases hruntime
    exact ⟨fun _ => nofun, fun _ => (Limits.exists_ofSettings_iff {}).mpr (by decide)⟩
  | some v =>
    rw [hsection] at hruntime hsteps htime
    generalize c.runtime = s at hruntime
    obtain ⟨decoded⟩ := hruntime
    have hv : v.InOrder := by
      cases horder with
      | obj _ inner => exact inner _ (Json.Fields.mem_of_find?_eq_some hsection)
    rw [RuntimeSettings.exists_limits_iff hv decoded]
    cases v with
    | arr items =>
      refine ⟨fun h items' hitems => ?_, fun h => h items rfl⟩
      obtain rfl := Json.arr.inj (Option.some.inj hitems)
      exact h
    | obj inner =>
      -- these are the numbers that the check has seen
      refine ⟨fun _ => nofun, fun _ hzero => ?_⟩
      rcases hzero with hzero | ⟨hzero, -⟩
      · obtain ⟨v, hgiven, hnat⟩ := Option.bind_eq_some_iff.mp hzero
        exact hsteps v hgiven hnat
      · obtain ⟨v, hgiven, hnat⟩ := Option.bind_eq_some_iff.mp hzero
        exact htime v hgiven hnat
    | _ => cases decoded

/-- A configuration that gives its runtime section as a list: so many rounds, so
many seconds, and so many at least. -/
def listed (rounds seconds least : Nat) : Json :=
  .obj [("runtime", .arr [.ofNat rounds, .ofNat seconds, .ofNat least])]

theorem inOrder_listed (rounds seconds least : Nat) : (listed rounds seconds least).InOrder := by
  refine .obj (List.pairwise_singleton _ _) (List.forall_mem_singleton.mpr (.arr ?_))
  simp only [List.forall_mem_cons]
  exact ⟨.num _, .num _, .num _, nofun⟩

/-- Nothing is found wrong with it, whatever the numbers are. -/
theorem check_listed (rounds seconds least : Nat) :
    ∀ f ∈ check (listed rounds seconds least), f.severity ≠ .error := by
  have hcheck : check (listed rounds seconds least)
      = [⟨.fine, "", "Valid JSON"⟩, ⟨.fine, "", "All fields recognized"⟩] := rfl
  rw [hcheck]
  simp

/-- No seconds are enough if there are thirty at least. -/
theorem exists_limits_iff_of_checked_listed :
    (listed 4 0 30).InOrder ∧ (∀ f ∈ check (listed 4 0 30), f.severity ≠ .error)
      ∧ ∃ c, ofJson (listed 4 0 30) = .ok c ∧ ∃ l, Limits.ofSettings c.runtime = .ok l := by
  have hread : ofJson (listed 4 0 30)
      = .ok { runtime := { maxToolIterations := 4, timeoutSecs := 0 } } := rfl
  refine ⟨inOrder_listed 4 0 30, check_listed 4 0 30, _, hread, ?_⟩
  refine (exists_limits_iff_of_checked (inOrder_listed 4 0 30) (check_listed 4 0 30) hread).mpr ?_
  intro items hitems
  obtain rfl := Json.arr.inj (Option.some.inj hitems)
  unfold Stalls
  decide

/-- **A configuration that was checked may have no limits.** -/
theorem not_exists_limits_of_checked :
    ¬ ∀ (raw : Json) (c : Config), raw.InOrder → (∀ f ∈ check raw, f.severity ≠ .error) →
      ofJson raw = .ok c → ∃ l, Limits.ofSettings c.runtime = .ok l := by
  intro h
  have hread : ofJson (listed 0 60 30) = .ok { runtime := { maxToolIterations := 0 } } := rfl
  obtain ⟨l, hl⟩ := h _ _ (inOrder_listed 0 60 30) (check_listed 0 60 30) hread
  cases hl

end Config

end Colloquy
