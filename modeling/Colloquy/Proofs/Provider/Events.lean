import Colloquy.Provider.Cache
import Mathlib.Data.List.Dedup
import Mathlib.Data.List.DropRight

/-!
# What happens at a cache of clients

A cache that many look something up in is best judged by what happens there: each attempt to
make a client, each answer, and each time that all clients are dropped (`Cache.Event`). Since
they were dropped last, the clients in the cache are those that were made, no two of them under
one signature, and nobody got another one (`Cache.Holds`). Whatever can happen keeps that.
-/

namespace Colloquy.Provider.Cache

variable {ι α ε : Type} {c : Cache α} {i : ι} {signature : String} {client : α}

/-- **What happens at a cache.** -/
inductive Event (ι α ε : Type) where
  /-- The client of a signature is to be made for a visit, and this comes of it. -/
  | making (visit : ι) (signature : String) (result : Except ε α)
  /-- A visit that is for a signature gets its answer. -/
  | answer (visit : ι) (signature : String) (result : Except ε α)
  /-- All clients are dropped. -/
  | clearing

namespace Event

/-- Whether all clients are dropped. -/
def isClearing : Event ι α ε → Bool
  | .clearing => true
  | _ => false

/-- The client that is made, under its signature. -/
def built? : Event ι α ε → Option (String × α)
  | .making _ signature (.ok client) => some (signature, client)
  | _ => none

end Event

/-- **The clients that were made**, each under its signature. -/
def built (events : List (Event ι α ε)) : List (String × α) :=
  events.filterMap Event.built?

/-- **What has happened since the last clearing**, or since the beginning. -/
def era (events : List (Event ι α ε)) : List (Event ι α ε) :=
  events.rtakeWhile fun e => !e.isClearing

/-! ## What is in the cache -/

variable {events : List (Event ι α ε)} {e : Event ι α ε}

theorem era_concat (h : e.isClearing = false) : era (events ++ [e]) = era events ++ [e] :=
  List.rtakeWhile_concat_pos _ _ _ (by simp [h])

theorem era_clearing : era (events ++ [.clearing]) = [] :=
  List.rtakeWhile_concat_neg _ _ _ (by simp [Event.isClearing])

theorem built_append (events others : List (Event ι α ε)) :
    built (events ++ others) = built events ++ built others :=
  List.filterMap_append

/-- A client that was made was made for a visit. -/
theorem exists_making_of_mem_built (h : (signature, client) ∈ built events) :
    ∃ i, .making i signature (.ok client) ∈ events := by
  obtain ⟨e, he, hbuilt⟩ := List.mem_filterMap.mp h
  unfold Event.built? at hbuilt
  split at hbuilt
  · cases hbuilt
    exact ⟨_, he⟩
  · cases hbuilt

/-- What has happened since the last clearing has happened. -/
theorem mem_of_mem_era (h : e ∈ era events) : e ∈ events :=
  (List.rtakeWhile_suffix _ _).subset h

/-- A client that is made is one of those that were made. -/
theorem built_era_making (events : List (Event ι α ε)) (i : ι) (signature : String) (client : α) :
    built (era (events ++ [.making i signature (.ok client)]))
      = built (era events) ++ [(signature, client)] := by
  rw [era_concat rfl, built_append]
  rfl

/-- **The clients in the cache are those that were made** since the last clearing, and nobody
got another one. -/
structure Holds (c : Cache α) (events : List (Event ι α ε)) : Prop where
  /-- The clients are those that were made. -/
  entries : c.entries = (built (era events)).reverse
  /-- Under no signature was one made twice. -/
  once : ((built (era events)).map Prod.fst).Nodup
  /-- Whoever got a client got one of them. -/
  answers : ∀ i signature client, .answer i signature (.ok client) ∈ era events →
    (signature, client) ∈ built (era events)

namespace Holds

/-- An empty cache, where nothing has happened. -/
theorem start : Holds ({} : Cache α) ([] : List (Event ι α ε)) where
  entries := rfl
  once := List.nodup_nil
  answers _ _ _ h := nomatch h

/-- A client that is found is one that was made. -/
theorem mem_built (h : Holds c events) (hfound : c.find? signature = some client) :
    (signature, client) ∈ built (era events) := by
  obtain ⟨before, after, hentries, -⟩ := List.lookup_eq_some_iff.mp hfound
  rw [h.entries] at hentries
  rw [← List.mem_reverse, hentries]
  exact List.mem_append_right _ List.mem_cons_self

/-- A client that is absent was not made. -/
theorem notMem_built (h : Holds c events) (habsent : c.find? signature = none) :
    signature ∉ (built (era events)).map Prod.fst := by
  rw [List.mem_map]
  rintro ⟨entry, hentry, rfl⟩
  rw [← List.mem_reverse, ← h.entries] at hentry
  simpa using List.lookup_eq_none_iff.mp habsent entry hentry

/-- **A client that is made is the only one of its signature.** -/
theorem makes (h : Holds c events) (habsent : c.find? signature = none) :
    Holds (c.insert signature client) (events ++ [.making i signature (.ok client)]) := by
  refine ⟨?_, ?_, fun j other client' hanswer => ?_⟩
  · rw [built_era_making, List.reverse_append, insert, h.entries]
    rfl
  · rw [built_era_making, List.map_append, List.map_singleton, ← List.concat_eq_append]
    exact h.once.concat (h.notMem_built habsent)
  · rw [era_concat rfl, List.mem_append, List.mem_singleton] at hanswer
    rw [built_era_making]
    exact List.mem_append_left _ (h.answers _ _ _ (hanswer.resolve_right nofun))

/-- **What makes no client leaves the cache as it is.** -/
theorem note (h : Holds c events) (hclearing : e.isClearing = false) (hbuilt : e.built? = none)
    (hanswer : ∀ i signature client, e = .answer i signature (.ok client) →
      (signature, client) ∈ built (era events)) : Holds c (events ++ [e]) := by
  have hera : era (events ++ [e]) = era events ++ [e] := era_concat hclearing
  have hsame : built (era (events ++ [e])) = built (era events) := by
    have hnone : built [e] = [] := by simp [built, hbuilt]
    rw [hera, built_append, hnone, List.append_nil]
  refine ⟨by rw [hsame, h.entries], by rw [hsame]; exact h.once, fun i signature client hmem => ?_⟩
  rw [hsame]
  rw [hera, List.mem_append, List.mem_singleton] at hmem
  rcases hmem with hmem | heq
  · exact h.answers _ _ _ hmem
  · exact hanswer _ _ _ heq.symm

/-- A client that cannot be made leaves the cache as it is. -/
theorem fails (h : Holds c events) {failure : ε} :
    Holds c (events ++ [.making i signature (.error failure)]) :=
  h.note rfl rfl fun _ _ _ heq => nomatch heq

/-- An answer leaves the cache as it is. -/
theorem answer (h : Holds c events) {result : Except ε α}
    (hresult : ∀ client, result = .ok client → (signature, client) ∈ built (era events)) :
    Holds c (events ++ [.answer i signature result]) := by
  refine h.note rfl rfl fun j other client heq => ?_
  cases heq
  exact hresult client rfl

/-- **After a clearing nothing is in the cache.** -/
theorem clears : Holds c.clear (events ++ [.clearing]) where
  entries := by rw [era_clearing]; rfl
  once := by rw [era_clearing]; exact List.nodup_nil
  answers _ _ _ h := by rw [era_clearing] at h; cases h

/-- There are as many clients as signatures for which one was made. -/
theorem size_eq (h : Holds c events) :
    c.size = ((built (era events)).map Prod.fst).dedup.length := by
  rw [h.once.dedup, List.length_map, size, h.entries, List.length_reverse]

end Holds

end Colloquy.Provider.Cache
