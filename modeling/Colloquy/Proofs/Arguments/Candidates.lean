import Colloquy.Arguments
import Colloquy.Proofs.Json.RoundTrip

/-!
# Candidates that begin with a brace

A text that begins with an opening brace has no fence around it. What is left to try is the
text itself and its repair, if it has one (`read_of_brace`), each as JSON and, if it is none, as
a dict literal (`object?_of_readChars`, `object?_of_unread`).
-/

namespace Colloquy.Arguments

open Text (isBlank trimChars trimEnd)

variable {payload : String} {cs : List Char} {fields : Json.Fields}

/-- Trimming leaves a first character that is no blank. -/
theorem exists_trimChars_cons {c : Char} (h : isBlank c = false) (cs : List Char) :
    ∃ ds, trimChars (c :: cs) = c :: ds := by
  rw [trimChars, Text.trimStart_cons_of_not_blank h, trimEnd, List.reverse_cons,
    List.dropWhile_append]
  split_ifs
  · exact ⟨[], by simp [h]⟩
  · exact ⟨(cs.reverse.dropWhile isBlank).reverse, by simp⟩

/-- There is no fence in front of a brace. -/
theorem candidates_of_brace (h : payload.toList = '{' :: cs) :
    candidates payload = payload :: (repair? payload).toList := by
  obtain ⟨ds, hds⟩ := exists_trimChars_cons (c := '{') (by decide) cs
  have hgiven : asGiven payload = [payload] := by
    rw [asGiven, h, hds]
    rfl
  rw [candidates, hgiven, List.singleton_append, List.filterMap_cons]
  cases repair? payload <;> rfl

/-- **The arguments of a text that begins with a brace** are the object that it stands for,
or the one that its repair stands for. -/
theorem read_of_brace (h : payload.toList = '{' :: cs) :
    read payload
      = match (object? payload).or ((repair? payload).bind object?) with
        | some fields => .ok fields
        | none => .error (complaint payload) := by
  have hblank : Text.isBlankText payload = false := by
    rw [Text.isBlankText, h]
    rfl
  rw [read, hblank, if_neg Bool.false_ne_true, candidates_of_brace h, List.findSome?_cons]
  cases object? payload with
  | some fields => rfl
  | none =>
    cases repair? payload with
    | none => rfl
    | some repaired =>
      dsimp only [Option.toList_some, Option.none_or, Option.bind_some]
      cases hrepaired : object? repaired with
      | none => rw [List.findSome?_singleton, hrepaired]
      | some fields => rw [List.findSome?_singleton, hrepaired]

/-- A text that is read as JSON stands for what it is read as. -/
theorem object?_of_readChars (h : Json.readChars cs = .ok (.obj fields)) :
    object? (String.ofList cs) = some fields := by
  rw [object?, readCandidate?, Json.read, String.toList_ofList, h]
  rfl

/-- One that is not stands for what it is read as when its words are respelled. -/
theorem object?_of_unread {fault : Json.Fault} (h : Json.readChars cs = .error fault) :
    object? (String.ofList cs)
      = (DictLiteral.readChars (DictLiteral.respellWords cs)).bind Json.fields? := by
  rw [object?, readCandidate?, Json.read, String.toList_ofList, h]

end Colloquy.Arguments
