import Colloquy.Proofs.Answer.Acceptance

/-!
# The attempts of a validator

A validator counts the candidates it is given and writes down those that it does not take.
Whatever it said to the ones before, it counts the next one as one more, and what it says to
it depends only on the candidate and on how many there were (`Validator.receive_after`): a
candidate that gives an answer is taken, whenever it comes, and one that gives none is sent
back until the attempts are used up.

Every candidate either gives an answer or is refused for one reason (`check_eq_error_iff`).
So what a validator has written down after some candidates is determined by them
(`Lists.unique`): it is the refused ones, each with its place (`Validator.records_after`).
-/

namespace Colloquy.Answer

/-- **A candidate is refused**, and why: it cannot be read, or what is read breaks the
contract, of which it is told all. -/
inductive Refuses (candidate : String) : Rejection → Prop
  /-- It is no JSON. -/
  | unread {message : String} (read : Fence.readFenced (Text.trim candidate) = .error message) :
      Refuses candidate ⟨notJson, ["parse error: " ++ message]⟩
  /-- It is, and breaks the contract. -/
  | breaks {v : Json} (read : Fence.readFenced (Text.trim candidate) = .ok v)
      (violated : violations v ≠ []) :
      Refuses candidate ⟨breaksContract, (violations v).map Violation.message⟩

/-- **A candidate is refused at its place** among others, counted from one. -/
def RefusedAt (candidates : List String) (e : Rejected) : Prop :=
  ∃ i candidate, e.attempt = i + 1 ∧ candidates[i]? = some candidate
    ∧ Refuses candidate e.rejection

/-- **A history lists the refused ones** among candidates: each of them with its place, its
reason and its errors, in order, and nothing else. -/
structure Lists (candidates : List String) (history : List Rejected) : Prop where
  /-- They are in order. -/
  inOrder : history.Pairwise fun e e' => e.attempt < e'.attempt
  /-- They are the refused ones. -/
  mem_iff : ∀ e, e ∈ history ↔ RefusedAt candidates e

variable {candidate : String} {candidates : List String} {r : Rejection}
variable {history history' : List Rejected}

/-! ## Refused candidates -/

/-- **A candidate is not taken exactly if it is refused**, and for that reason. The decoder
refuses nothing that keeps to the contract. -/
theorem check_eq_error_iff : check candidate = .error r ↔ Refuses candidate r := by
  constructor
  · intro h
    cases hread : Fence.readFenced (Text.trim candidate) with
    | error message =>
      unfold check at h
      rw [hread] at h
      cases h
      exact .unread hread
    | ok v =>
      rw [check_eq_accept hread] at h
      have hviolated : violations v ≠ [] := fun hnone => by
        obtain ⟨a, ha⟩ := violations_eq_nil_iff.mp hnone
        rw [(accept_eq_ok_iff (Fence.inOrder_of_readFenced hread)).mpr ha] at h
        cases h
      rw [accept_eq_error hviolated] at h
      cases h
      exact .breaks hread hviolated
  · intro h
    cases h with
    | unread hread =>
      unfold check
      rw [hread]
      rfl
    | breaks hread hviolated => exact (check_eq_accept hread).trans (accept_eq_error hviolated)

/-- A candidate that is refused gives no answer. -/
theorem Refuses.not_gives (h : Refuses candidate r) (a : Answer) : ¬ Gives candidate a := by
  intro hgives
  have hcheck := check_eq_error_iff.mpr h
  rw [check_eq_ok_iff.mpr hgives] at hcheck
  cases hcheck

/-- **A candidate is refused exactly if it gives no answer.** -/
theorem exists_refuses_iff : (∃ r, Refuses candidate r) ↔ ¬ ∃ a, Gives candidate a := by
  constructor
  · rintro ⟨r, hrefuses⟩ ⟨a, hgives⟩
    exact hrefuses.not_gives a hgives
  · intro hnot
    cases hcheck : check candidate with
    | ok a => exact absurd ⟨a, check_eq_ok_iff.mp hcheck⟩ hnot
    | error r => exact ⟨r, check_eq_error_iff.mp hcheck⟩

/-- A candidate is refused for one reason. -/
theorem Refuses.unique {r' : Rejection} (h : Refuses candidate r) (h' : Refuses candidate r') :
    r = r' :=
  Except.error.inj ((check_eq_error_iff.mpr h).symm.trans (check_eq_error_iff.mpr h'))

/-- What a model is told about a rejection can be seen. -/
theorem Rejection.prompt_visible (r : Rejection) : Text.isBlankText r.prompt = false := by
  unfold Rejection.prompt Text.isBlankText
  simp only [String.toList_append, List.append_assoc]
  rfl

/-! ## Histories -/

/-- Two histories that list the same are the same. -/
theorem Lists.unique (h : Lists candidates history) (h' : Lists candidates history') :
    history = history' := by
  have hnodup {history : List Rejected} (h : Lists candidates history) : history.Nodup :=
    h.inOrder.imp fun hlt heq => absurd (heq ▸ hlt) (lt_irrefl _)
  refine ((List.perm_ext_iff_of_nodup (hnodup h) (hnodup h')).mpr fun e => ?_).eq_of_pairwise
    (fun e e' _ _ hlt hgt => absurd (hlt.trans hgt) (lt_irrefl _)) h.inOrder h'.inOrder
  rw [h.mem_iff, h'.mem_iff]

theorem lists_nil : Lists [] [] where
  inOrder := .nil
  mem_iff e := by simp [RefusedAt]

/-- What is refused among one candidate more is refused among the others, or is that one. -/
theorem refusedAt_concat_iff {e : Rejected} :
    RefusedAt (candidates ++ [candidate]) e
      ↔ RefusedAt candidates e
        ∨ e.attempt = candidates.length + 1 ∧ Refuses candidate e.rejection := by
  constructor
  · rintro ⟨i, c, hattempt, hc, hrefuses⟩
    rcases Nat.lt_or_ge i candidates.length with hlt | hge
    · rw [List.getElem?_append_left hlt] at hc
      exact .inl ⟨i, c, hattempt, hc, hrefuses⟩
    · rw [List.getElem?_append_right hge, List.getElem?_singleton] at hc
      split_ifs at hc with hi
      cases hc
      have hlast : i = candidates.length := Nat.le_antisymm (Nat.sub_eq_zero_iff_le.mp hi) hge
      exact .inr ⟨hlast ▸ hattempt, hrefuses⟩
  · rintro (⟨i, c, hattempt, hc, hrefuses⟩ | ⟨hattempt, hrefuses⟩)
    · have hlt := (List.getElem?_eq_some_iff.mp hc).1
      exact ⟨i, c, hattempt, (List.getElem?_append_left hlt).trans hc, hrefuses⟩
    · exact ⟨_, candidate, hattempt, List.getElem?_concat_length, hrefuses⟩

/-- What is listed has its place among the candidates. -/
theorem Lists.attempt_le (h : Lists candidates history) {e : Rejected} (he : e ∈ history) :
    e.attempt ≤ candidates.length := by
  obtain ⟨i, c, hattempt, hc, -⟩ := (h.mem_iff e).mp he
  have hlt := (List.getElem?_eq_some_iff.mp hc).1
  omega

/-- A candidate that gives an answer is not listed. -/
theorem Lists.concat_taken (h : Lists candidates history) {a : Answer}
    (hgives : Gives candidate a) : Lists (candidates ++ [candidate]) history where
  inOrder := h.inOrder
  mem_iff e := by
    rw [h.mem_iff, refusedAt_concat_iff]
    exact (or_iff_left fun hrefused => hrefused.2.not_gives a hgives).symm

/-- **One that is refused is listed last**, with its place. -/
theorem Lists.concat_refused (h : Lists candidates history) (hrefuses : Refuses candidate r) :
    Lists (candidates ++ [candidate]) (history ++ [⟨candidates.length + 1, r⟩]) where
  inOrder := by
    refine List.pairwise_append.mpr ⟨h.inOrder, List.pairwise_singleton _ _, fun e he e' he' => ?_⟩
    cases List.mem_singleton.mp he'
    exact Nat.lt_succ_of_le (h.attempt_le he)
  mem_iff e := by
    rw [List.mem_append, List.mem_singleton, h.mem_iff, refusedAt_concat_iff]
    refine or_congr_right ⟨?_, ?_⟩
    · rintro rfl
      exact ⟨rfl, hrefuses⟩
    · rintro ⟨hattempt, hrefused⟩
      cases e
      cases hrefused.unique hrefuses
      cases hattempt
      rfl

/-! ## Validators -/

namespace Validator

/-- **A validator that was given candidates**, which began afresh with so many attempts. -/
def after (n : Nat) (candidates : List String) : Validator :=
  candidates.foldl (fun w c => (w.receive c).1) (ofAttempts n)

/-- **A validator has recorded candidates**: it has counted them and written down the
refused ones. -/
structure Records (n : Nat) (candidates : List String) (w : Validator) : Prop where
  /-- It looks at one candidate at least. -/
  maxAttempts : w.maxAttempts = max 1 n
  /-- It has counted all of them. -/
  attempts : w.attempts = candidates.length
  /-- It has written down those it has refused. -/
  history : Lists candidates w.history

variable {w : Validator} {n : Nat}

@[simp] theorem attempts_receive (w : Validator) (candidate : String) :
    (w.receive candidate).1.attempts = w.attempts + 1 := by
  unfold receive
  cases check candidate <;> rfl

@[simp] theorem maxAttempts_receive (w : Validator) (candidate : String) :
    (w.receive candidate).1.maxAttempts = w.maxAttempts := by
  unfold receive
  cases check candidate <;> rfl

theorem history_receive_of_ok {a : Answer} (h : check candidate = .ok a) :
    (w.receive candidate).1.history = w.history := by
  unfold receive
  rw [h]

theorem history_receive_of_error (h : check candidate = .error r) :
    (w.receive candidate).1.history = w.history ++ [⟨w.attempts + 1, r⟩] := by
  unfold receive
  rw [h]

/-- A candidate that is refused is sent back as long as there are attempts left. -/
theorem receive_of_error (h : check candidate = .error r) :
    (w.receive candidate).2
      = if w.attempts + 1 < w.maxAttempts then .retry r (w.attempts + 1)
        else .fail r (w.attempts + 1) (w.history ++ [⟨w.attempts + 1, r⟩]) := by
  unfold receive
  rw [h]

/-- **One candidate more is recorded.** -/
theorem Records.receive (h : w.Records n candidates) (candidate : String) :
    (w.receive candidate).1.Records n (candidates ++ [candidate]) where
  maxAttempts := (maxAttempts_receive w candidate).trans h.maxAttempts
  attempts := by
    rw [attempts_receive, h.attempts, List.length_append]
    rfl
  history := by
    cases hcheck : check candidate with
    | ok a =>
      rw [history_receive_of_ok hcheck]
      exact h.history.concat_taken (check_eq_ok_iff.mp hcheck)
    | error r =>
      rw [history_receive_of_error hcheck, h.attempts]
      exact h.history.concat_refused (check_eq_error_iff.mp hcheck)

/-- **All candidates are recorded**, whatever was said to each of them. -/
theorem records_after (n : Nat) (candidates : List String) :
    (after n candidates).Records n candidates := by
  induction candidates using List.reverseRecOn with
  | nil => exact ⟨max_comm n 1, rfl, lists_nil⟩
  | append_singleton candidates candidate ih =>
    unfold after
    rw [List.foldl_append]
    exact ih.receive candidate

/-- **A candidate is sent back exactly if it is refused and there are attempts left.** -/
theorem Records.receive_eq_retry_iff (h : w.Records n candidates) {m : Nat} :
    (w.receive candidate).2 = .retry r m
      ↔ m = candidates.length + 1 ∧ Refuses candidate r ∧ candidates.length + 1 < max 1 n := by
  rw [← h.maxAttempts, ← h.attempts]
  constructor
  · intro hverdict
    cases hcheck : check candidate with
    | ok a =>
      rw [receive_of_ok w hcheck] at hverdict
      cases hverdict
    | error r' =>
      rw [receive_of_error hcheck] at hverdict
      split_ifs at hverdict with hleft
      cases hverdict
      exact ⟨rfl, check_eq_error_iff.mp hcheck, hleft⟩
  · rintro ⟨rfl, hrefuses, hleft⟩
    rw [receive_of_error (check_eq_error_iff.mpr hrefuses), if_pos hleft]

/-- **A validator gives up exactly at a candidate that is refused when there are none
left**, and tells all that it has refused. -/
theorem Records.receive_eq_fail_iff (h : w.Records n candidates) {m : Nat} :
    (w.receive candidate).2 = .fail r m history
      ↔ m = candidates.length + 1 ∧ Refuses candidate r ∧ max 1 n ≤ candidates.length + 1
        ∧ Lists (candidates ++ [candidate]) history := by
  constructor
  · intro hverdict
    cases hcheck : check candidate with
    | ok a =>
      rw [receive_of_ok w hcheck] at hverdict
      cases hverdict
    | error r' =>
      have hrefuses := check_eq_error_iff.mp hcheck
      rw [receive_of_error hcheck, h.attempts, h.maxAttempts] at hverdict
      split_ifs at hverdict with hleft
      cases hverdict
      exact ⟨rfl, hrefuses, Nat.le_of_not_lt hleft, h.history.concat_refused hrefuses⟩
  · rintro ⟨rfl, hrefuses, hspent, hlists⟩
    rw [receive_of_error (check_eq_error_iff.mpr hrefuses), h.attempts, h.maxAttempts,
      if_neg (Nat.not_lt.mpr hspent), (h.history.concat_refused hrefuses).unique hlists]

/-- **What a validator says to a candidate** that comes after others. It reports how many
there were with this one. It takes the candidate exactly if it gives an answer, and for that
answer. It sends it back exactly if it is refused and there are attempts left, and then has
something to say about it; it gives up exactly if it is refused and there are none left, and
then tells all that it has refused. -/
theorem receive_after (n : Nat) (earlier : List String) (candidate : String) :
    ((∃ r, Refuses candidate r) ↔ ¬ ∃ a, Gives candidate a) ∧
      let k := earlier.length + 1
      let verdict := ((after n earlier).receive candidate).2
      (∀ a m, verdict = .valid a m ↔ m = k ∧ Gives candidate a)
        ∧ (∀ r m, verdict = .retry r m ↔ m = k ∧ Refuses candidate r ∧ k < max 1 n)
        ∧ (∀ r m history, verdict = .fail r m history ↔ m = k ∧ Refuses candidate r ∧ max 1 n ≤ k
            ∧ Lists (earlier ++ [candidate]) history)
        ∧ ∀ r m, verdict = .retry r m → Text.isBlankText r.prompt = false := by
  have hrecords := records_after n earlier
  refine ⟨exists_refuses_iff, fun a m => ?_, fun r m => hrecords.receive_eq_retry_iff,
    fun r m history => hrecords.receive_eq_fail_iff, fun r m _ => r.prompt_visible⟩
  rw [receive_eq_valid_iff, hrecords.attempts]

end Validator

end Colloquy.Answer
