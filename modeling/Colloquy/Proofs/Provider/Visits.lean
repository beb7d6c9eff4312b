import Colloquy.Proofs.Provider.Events
import Mathlib.Logic.Function.Basic

/-!
# Visits to a cache of clients

Those who want a client look it up whenever they like, and the cache is cleared whenever
somebody likes. A look-up has two phases, and between them anything can happen: the client
may be made for somebody else, and all clients may be dropped. Here the phases of any number
of visits follow one another in any order whatever (`Cache.Desk.run`); a lock sees to it that
no phase that changes the cache overlaps with another one.

What happens is written down. How a client is made is watched while it is run
(`Cache.watched`), so that what is written down is what the cache has done.

A client is made at most once between two clearings, and whoever asks for it in that time gets
that one (`Cache.Desk.visits_run`). It depends on looking twice: a client that was missed in
the first phase may be there in the second one.
-/

namespace Colloquy.Provider.Cache

variable {ι α ε : Type} {c : Cache α} {i : ι} {signature : String} {client : α}
variable {events : List (Event ι α ε)}

/-- **What a visit is for.** -/
inductive Visit (ι α ε : Type) where
  /-- The client of a signature. What comes of making it may depend on all that has happened
  before. -/
  | lookUp (signature : String) (make : List (Event ι α ε) → Except ε α)
  /-- Dropping all clients. -/
  | clear

/-- **How far a visit has come.** -/
inductive Stage (α ε : Type) where
  /-- It has not begun. -/
  | waiting
  /-- Its first phase is over, and the client was not there. -/
  | missed
  /-- It has its answer. -/
  | answered (result : Except ε α)
  /-- It has dropped the clients. -/
  | gone

namespace Stage

/-- Whether nothing is left to do for a visit. -/
def isOver : Stage α ε → Bool
  | .waiting | .missed => false
  | .answered _ | .gone => true

/-- How many phases a visit has before it, at most. -/
def left : Stage α ε → Nat
  | .waiting => 2
  | .missed => 1
  | .answered _ | .gone => 0

/-- A visit is over when it has no phase before it. -/
theorem left_eq_zero_iff {stage : Stage α ε} : stage.left = 0 ↔ stage.isOver = true := by
  cases stage <;> simp [left, isOver]

end Stage

/-- **A cache, and how far its visits have come.** -/
structure Desk (ι α ε : Type) where
  /-- The cache. -/
  cache : Cache α := {}
  /-- How far each visit has come. -/
  stage : ι → Stage α ε := fun _ => .waiting
  /-- What has happened, in this order. -/
  events : List (Event ι α ε) := []

/-- **Making a client under observation**: it is written down that it was made, and what came
of it. -/
def watched (i : ι) (signature : String) (make : List (Event ι α ε) → Except ε α) :
    StateM (List (Event ι α ε)) (Except ε α) := do
  let events ← MonadState.get
  set (events ++ [.making i signature (make events)])
  return make events

/-- **A client that is found again is not made.** -/
theorem settle_of_found {m : Type → Type} [Monad m] (h : c.find? signature = some client)
    (make : m (Except ε α)) : c.settle signature make = pure (c, .ok client) := by
  simp [settle, h]

/-- A client that is found is what a look-up gives. -/
theorem get_of_found (h : c.find? signature = some client) (make : Except ε α) :
    c.get signature make = (c, .ok client) := by
  simp [get, h]

/-- A client that is not there is what a look-up makes, if it can be made. -/
theorem get_of_absent (h : c.find? signature = none) (make : Except ε α) :
    c.get signature make
      = match make with
        | .ok client => (c.insert signature client, .ok client)
        | .error failure => (c, .error failure) := by
  cases make <;> simp [get, settle, h]

/-- **A client that is not there is made**, which is written down. -/
theorem run_settle_of_absent (h : c.find? signature = none) (i : ι)
    (make : List (Event ι α ε) → Except ε α) :
    (c.settle signature (watched i signature make)).run events
      = ((match make events with
          | .ok client => (c.insert signature client, .ok client)
          | .error failure => (c, .error failure)),
        events ++ [.making i signature (make events)]) := by
  have hwatched : (watched i signature make).run events
      = (make events, events ++ [.making i signature (make events)]) := rfl
  unfold settle
  rw [h]
  dsimp only
  rw [StateT.run_bind, hwatched]
  cases make events <;> rfl

variable [DecidableEq ι] {visits : ι → Visit ι α ε} {d : Desk ι α ε}

namespace Desk

/-- A visit comes to a stage. -/
def move (d : Desk ι α ε) (i : ι) (stage : Stage α ε) : Desk ι α ε :=
  { d with stage := Function.update d.stage i stage }

/-- Something happens at the cache, which is left as it is said. -/
def note (d : Desk ι α ε) (cache : Cache α) (event : Event ι α ε) : Desk ι α ε :=
  { d with cache, events := d.events ++ [event] }

/-- **A visit gets its answer.** -/
def answer (d : Desk ι α ε) (i : ι) (signature : String) (result : Except ε α) : Desk ι α ε :=
  (d.move i (.answered result)).note d.cache (.answer i signature result)

@[simp] theorem stage_move_self (d : Desk ι α ε) (i : ι) (stage : Stage α ε) :
    (d.move i stage).stage i = stage :=
  Function.update_self ..

theorem stage_move_of_ne {i j : ι} (h : j ≠ i) (d : Desk ι α ε) (stage : Stage α ε) :
    (d.move i stage).stage j = d.stage j :=
  Function.update_of_ne h ..

omit [DecidableEq ι] in
@[simp] theorem stage_note (d : Desk ι α ε) (cache : Cache α) (event : Event ι α ε) :
    (d.note cache event).stage = d.stage := rfl

@[simp] theorem stage_answer_self (d : Desk ι α ε) (i : ι) (signature : String)
    (result : Except ε α) : (d.answer i signature result).stage i = .answered result :=
  stage_move_self ..

theorem stage_answer_of_ne {i j : ι} (h : j ≠ i) (d : Desk ι α ε) (signature : String)
    (result : Except ε α) : (d.answer i signature result).stage j = d.stage j :=
  stage_move_of_ne h ..

/-- **The next phase of a visit**, whichever it is. -/
def goOn (visits : ι → Visit ι α ε) (d : Desk ι α ε) (i : ι) : Desk ι α ε :=
  match visits i, d.stage i with
  | .lookUp signature _, .waiting =>
    match d.cache.find? signature with
    | some client => d.answer i signature (.ok client)
    | none => d.move i .missed
  | .lookUp signature make, .missed =>
    let ((cache, result), events) :=
      (d.cache.settle signature (watched i signature make)).run d.events
    { d with cache, events }.answer i signature result
  | .clear, .waiting | .clear, .missed =>
    (d.move i .gone).note d.cache.clear .clearing
  | _, .answered _ | _, .gone => d

/-- **Visits that go on in some order**, one phase at a time, beginning with an empty cache. -/
def run (visits : ι → Visit ι α ε) (schedule : List ι) : Desk ι α ε :=
  schedule.foldl (goOn visits) {}

/-- **All that a phase can do.** -/
inductive Phase (visits : ι → Visit ι α ε) (d : Desk ι α ε) (i : ι) : Desk ι α ε → Prop
  /-- Nothing is left to do. -/
  | rest (hover : (d.stage i).isOver = true) : Phase visits d i d
  /-- A client is found, in the first phase or in the second one. -/
  | finds {signature make client} (hvisit : visits i = .lookUp signature make)
      (hopen : (d.stage i).isOver = false) (hfound : d.cache.find? signature = some client) :
      Phase visits d i (d.answer i signature (.ok client))
  /-- A client is missed. -/
  | misses (hstage : d.stage i = .waiting) : Phase visits d i (d.move i .missed)
  /-- A client is made. -/
  | makes {signature make client} (hvisit : visits i = .lookUp signature make)
      (hopen : (d.stage i).isOver = false) (habsent : d.cache.find? signature = none)
      (hmake : make d.events = .ok client) :
      Phase visits d i
        ((d.note (d.cache.insert signature client) (.making i signature (.ok client))).answer i
          signature (.ok client))
  /-- A client cannot be made. -/
  | fails {signature make failure} (hvisit : visits i = .lookUp signature make)
      (hopen : (d.stage i).isOver = false) (habsent : d.cache.find? signature = none)
      (hmake : make d.events = .error failure) :
      Phase visits d i
        ((d.note d.cache (.making i signature (.error failure))).answer i signature
          (.error failure))
  /-- The clients are dropped. -/
  | clears (hopen : (d.stage i).isOver = false) :
      Phase visits d i ((d.move i .gone).note d.cache.clear .clearing)

/-- **Every phase is one of these.** -/
theorem phase_goOn (visits : ι → Visit ι α ε) (d : Desk ι α ε) (i : ι) :
    d.Phase visits i (d.goOn visits i) := by
  unfold goOn
  cases hvisit : visits i with
  | clear =>
    cases hstage : d.stage i with
    | waiting => exact .clears (by simp [hstage, Stage.isOver])
    | missed => exact .clears (by simp [hstage, Stage.isOver])
    | answered result => exact .rest (by simp [hstage, Stage.isOver])
    | gone => exact .rest (by simp [hstage, Stage.isOver])
  | lookUp signature make =>
    cases hstage : d.stage i with
    | waiting =>
      dsimp only
      cases hfind : d.cache.find? signature with
      | some client => exact .finds hvisit (by simp [hstage, Stage.isOver]) hfind
      | none => exact .misses hstage
    | missed =>
      dsimp only
      have hopen : (d.stage i).isOver = false := by simp [hstage, Stage.isOver]
      cases hfind : d.cache.find? signature with
      | some client =>
        rw [settle_of_found hfind]
        exact .finds hvisit hopen hfind
      | none =>
        rw [run_settle_of_absent hfind]
        cases hmake : make d.events with
        | ok client => exact .makes hvisit hopen hfind hmake
        | error failure => exact .fails hvisit hopen hfind hmake
    | answered result => exact .rest (by simp [hstage, Stage.isOver])
    | gone => exact .rest (by simp [hstage, Stage.isOver])

variable {d' : Desk ι α ε}

/-- **No phase puts a client into the cache that was not made**, or hands one out. -/
theorem Phase.holds (hphase : d.Phase visits i d') (h : Holds d.cache d.events) :
    Holds d'.cache d'.events := by
  cases hphase with
  | rest _ => exact h
  | misses _ => exact h
  | clears _ => exact Holds.clears (c := d.cache)
  | finds _ _ hfound =>
    refine Holds.answer h fun client hclient => ?_
    cases hclient
    exact h.mem_built hfound
  | fails _ _ _ _ => exact Holds.answer h.fails fun client hclient => nomatch hclient
  | makes _ _ habsent _ =>
    refine Holds.answer (h.makes habsent) fun client hclient => ?_
    cases hclient
    rw [built_era_making]
    exact List.mem_append_right _ (List.mem_singleton.mpr rfl)

/-! ## Answers -/

/-- **Visits know their answers**, and each has one for the signature it asked for. -/
def Told (visits : ι → Visit ι α ε) (d : Desk ι α ε) : Prop :=
  ∀ i result, d.stage i = .answered result ↔
    ∃ signature make, visits i = .lookUp signature make ∧ .answer i signature result ∈ d.events

namespace Told

omit [DecidableEq ι] in
/-- At the beginning nobody has an answer. -/
theorem start : ({} : Desk ι α ε).Told visits := by
  refine fun i result => iff_of_false nofun ?_
  rintro ⟨_, _, -, hanswer⟩
  cases hanswer

omit [DecidableEq ι] in
/-- Who has no answer was not given one. -/
theorem not_answer (h : d.Told visits) (hopen : (d.stage i).isOver = false) {make}
    (hvisit : visits i = .lookUp signature make) (result : Except ε α) :
    .answer i signature result ∉ d.events := by
  intro hanswer
  rw [(h i result).mpr ⟨signature, make, hvisit, hanswer⟩] at hopen
  cases hopen

/-- Coming to a stage without an answer changes nothing. -/
theorem move (h : d.Told visits) (hopen : (d.stage i).isOver = false) {stage : Stage α ε}
    (hstage : ∀ result, stage ≠ .answered result) : (d.move i stage).Told visits := by
  intro j result
  by_cases hj : j = i
  · subst hj
    rw [stage_move_self]
    refine iff_of_false (hstage result) ?_
    rintro ⟨signature, make, hvisit, hanswer⟩
    exact h.not_answer hopen hvisit result hanswer
  · rw [stage_move_of_ne hj]
    exact h j result

omit [DecidableEq ι] in
/-- What is no answer changes nothing. -/
theorem note (h : d.Told visits) {cache : Cache α} {event : Event ι α ε}
    (hevent : ∀ j signature result, .answer j signature result ≠ event) :
    (d.note cache event).Told visits := by
  intro j result
  rw [stage_note, h j result]
  simp [Desk.note, hevent]

/-- An answer is known to the visit that gets it. -/
theorem answer (h : d.Told visits) (hopen : (d.stage i).isOver = false) {make}
    (hvisit : visits i = .lookUp signature make) (result : Except ε α) :
    (d.answer i signature result).Told visits := by
  intro j other
  have hevents : (d.answer i signature result).events
      = d.events ++ [.answer i signature result] := rfl
  rw [hevents]
  by_cases hj : j = i
  · subst hj
    rw [stage_answer_self]
    constructor
    · rintro ⟨⟩
      exact ⟨signature, make, hvisit, List.mem_append_right _ (List.mem_singleton.mpr rfl)⟩
    · rintro ⟨asked, make', hvisit', hanswer⟩
      rcases List.mem_append.mp hanswer with hanswer | hlast
      · exact absurd hanswer (h.not_answer hopen hvisit' other)
      · cases List.mem_singleton.mp hlast
        rfl
  · rw [stage_answer_of_ne hj, h j other]
    simp [hj]

end Told

/-- **Every phase tells a visit its answer.** -/
theorem Phase.told (hphase : d.Phase visits i d') (h : d.Told visits) : d'.Told visits := by
  cases hphase with
  | rest _ => exact h
  | misses hstage => exact h.move (by rw [hstage]; rfl) (by simp)
  | clears hopen => exact (h.move hopen (by simp)).note (by simp)
  | finds hvisit hopen _ => exact h.answer hopen hvisit _
  | @makes signature _ client hvisit hopen _ _ =>
    have hmade : (d.note (d.cache.insert signature client)
        (.making i signature (.ok client))).Told visits := h.note (by simp)
    exact hmade.answer hopen hvisit _
  | @fails signature _ failure hvisit hopen _ _ =>
    have hfailed : (d.note d.cache (.making i signature (.error failure))).Told visits :=
      h.note (by simp)
    exact hfailed.answer hopen hvisit _

/-! ## Where clients come from -/

/-- **Whatever is handed out was made**, for a visit that asks for the same signature. -/
structure Traced (visits : ι → Visit ι α ε) (d : Desk ι α ε) : Prop where
  /-- A client that was handed out was made. -/
  made : ∀ i signature client, .answer i signature (.ok client) ∈ d.events →
    ∃ j, .making j signature (.ok client) ∈ d.events
  /-- A client is made for a visit that asks for its signature. -/
  asked : ∀ j signature result, .making j signature result ∈ d.events →
    ∃ make, visits j = .lookUp signature make

namespace Traced

omit [DecidableEq ι] in
/-- At the beginning nothing was made. -/
theorem start : ({} : Desk ι α ε).Traced visits where
  made _ _ _ h := nomatch h
  asked _ _ _ h := nomatch h

/-- An answer can be traced if its client can. -/
theorem answer (h : d.Traced visits) {result : Except ε α}
    (hresult : ∀ client, result = .ok client → ∃ j, .making j signature (.ok client) ∈ d.events) :
    (d.answer i signature result).Traced visits := by
  have hevents : (d.answer i signature result).events
      = d.events ++ [.answer i signature result] := rfl
  refine ⟨fun j other client hanswer => ?_, fun j other result hmaking => ?_⟩
  · rw [hevents] at hanswer ⊢
    rcases List.mem_append.mp hanswer with hanswer | hlast
    · obtain ⟨j, hj⟩ := h.made _ _ _ hanswer
      exact ⟨j, List.mem_append_left _ hj⟩
    · cases List.mem_singleton.mp hlast
      obtain ⟨j, hj⟩ := hresult client rfl
      exact ⟨j, List.mem_append_left _ hj⟩
  · rw [hevents, List.mem_append, List.mem_singleton] at hmaking
    exact h.asked _ _ _ (hmaking.resolve_right nofun)

omit [DecidableEq ι] in
/-- Making a client for a visit that asks for it can be traced. -/
theorem making (h : d.Traced visits) {make} (hvisit : visits i = .lookUp signature make)
    (cache : Cache α) (result : Except ε α) :
    (d.note cache (.making i signature result)).Traced visits := by
  have hevents : (d.note cache (.making i signature result)).events
      = d.events ++ [.making i signature result] := rfl
  refine ⟨fun j other client hanswer => ?_, fun j other result' hmaking => ?_⟩
  · rw [hevents] at hanswer ⊢
    rw [List.mem_append, List.mem_singleton] at hanswer
    obtain ⟨j, hj⟩ := h.made _ _ _ (hanswer.resolve_right nofun)
    exact ⟨j, List.mem_append_left _ hj⟩
  · rw [hevents] at hmaking
    rcases List.mem_append.mp hmaking with hmaking | hlast
    · exact h.asked _ _ _ hmaking
    · cases List.mem_singleton.mp hlast
      exact ⟨make, hvisit⟩

end Traced

/-- **Every phase hands out clients that can be traced.** -/
theorem Phase.traced (hphase : d.Phase visits i d') (hholds : Holds d.cache d.events)
    (h : d.Traced visits) : d'.Traced visits := by
  cases hphase with
  | rest _ => exact h
  | misses _ => exact ⟨h.made, h.asked⟩
  | clears _ =>
    refine ⟨fun j signature client hanswer => ?_, fun j signature result hmaking => ?_⟩
    · obtain ⟨k, hk⟩ := h.made j signature client (by simpa [note, move] using hanswer)
      exact ⟨k, List.mem_append_left _ hk⟩
    · exact h.asked j signature result (by simpa [note, move] using hmaking)
  | finds _ _ hfound =>
    refine h.answer fun client hclient => ?_
    cases hclient
    obtain ⟨j, hj⟩ := exists_making_of_mem_built (hholds.mem_built hfound)
    exact ⟨j, mem_of_mem_era hj⟩
  | makes hvisit _ _ _ =>
    refine (h.making hvisit _ _).answer fun client hclient => ?_
    cases hclient
    exact ⟨i, List.mem_append_right _ (List.mem_singleton.mpr rfl)⟩
  | fails hvisit _ _ _ => exact (h.making hvisit _ _).answer fun client hclient => nomatch hclient

/-! ## One phase after another -/

/-- **When a client is made**: it is absent then, it is made in the way of the visit that asks
for it, and this visit gets for an answer what comes of it. If it cannot be made, the cache
stays as it was. -/
structure Makes (visits : ι → Visit ι α ε) (d d' : Desk ι α ε) (i : ι) (signature : String)
    (result : Except ε α) : Prop where
  /-- There is no client of the signature. -/
  absent : d.cache.find? signature = none
  /-- The visit asks for it, and it is made in its way. -/
  asked : ∃ make, visits i = .lookUp signature make ∧ make d.events = result
  /-- The visit gets what comes of it. -/
  answered : d'.stage i = .answered result
  /-- A client that cannot be made leaves the cache as it was. -/
  kept : ∀ failure, result = .error failure → d'.cache = d.cache

omit [DecidableEq ι] in
/-- Where a client is made and handed out, it is the only one that is made. -/
theorem eq_of_making_mem {j : ι} {asked : String} {result other : Except ε α}
    (h : Event.making j asked other
      ∈ [Event.making i signature result, Event.answer i signature result]) :
    j = i ∧ asked = signature ∧ other = result := by
  simpa using h

/-- **A phase makes a client only if it is absent**, and not for nobody. -/
theorem Phase.exists_events (hphase : d.Phase visits i d') :
    ∃ new, d'.events = d.events ++ new ∧
      ∀ j signature result, .making j signature result ∈ new →
        d.Makes visits d' j signature result := by
  cases hphase with
  | rest _ => exact ⟨[], (List.append_nil _).symm, by simp⟩
  | misses _ => exact ⟨[], (List.append_nil _).symm, by simp⟩
  | clears _ => exact ⟨[.clearing], rfl, by simp⟩
  | finds _ _ _ => exact ⟨[.answer _ _ _], rfl, by simp⟩
  | makes hvisit hopen habsent hmake =>
    refine ⟨[.making _ _ _, .answer _ _ _], List.append_assoc _ _ _, fun j signature result h => ?_⟩
    obtain ⟨rfl, rfl, rfl⟩ := eq_of_making_mem h
    exact ⟨habsent, ⟨_, hvisit, hmake⟩, stage_answer_self .., nofun⟩
  | fails hvisit hopen habsent hmake =>
    refine ⟨[.making _ _ _, .answer _ _ _], List.append_assoc _ _ _, fun j signature result h => ?_⟩
    obtain ⟨rfl, rfl, rfl⟩ := eq_of_making_mem h
    exact ⟨habsent, ⟨_, hvisit, hmake⟩, stage_answer_self .., fun _ _ => rfl⟩

/-- A phase of one visit is none of another one. -/
theorem Phase.stage_of_ne (hphase : d.Phase visits i d') {j : ι} (h : j ≠ i) :
    d'.stage j = d.stage j := by
  cases hphase with
  | rest _ => rfl
  | misses _ => exact stage_move_of_ne h ..
  | clears _ => exact stage_move_of_ne h ..
  | finds _ _ _ => exact stage_answer_of_ne h ..
  | makes _ _ _ _ => exact stage_answer_of_ne h ..
  | fails _ _ _ _ => exact stage_answer_of_ne h ..

/-- **A phase brings a visit nearer to its end.** -/
theorem Phase.left_le (hphase : d.Phase visits i d') :
    (d'.stage i).left ≤ (d.stage i).left - 1 := by
  cases hphase with
  | rest hover => rw [Stage.left_eq_zero_iff.mpr hover]
  | misses hstage =>
    rw [stage_move_self, hstage]
    rfl
  | clears _ => simp [Stage.left]
  | finds _ _ _ => simp [Stage.left]
  | makes _ _ _ _ => simp [Stage.left]
  | fails _ _ _ _ => simp [Stage.left]

theorem run_concat (visits : ι → Visit ι α ε) (schedule : List ι) (i : ι) :
    run visits (schedule ++ [i]) = (run visits schedule).goOn visits i := by
  rw [run, List.foldl_append]
  rfl

/-- **What holds of the cache and of the answers holds in every order of phases.** -/
theorem holds_run (visits : ι → Visit ι α ε) (schedule : List ι) :
    Holds (run visits schedule).cache (run visits schedule).events ∧
      (run visits schedule).Told visits ∧ (run visits schedule).Traced visits := by
  induction schedule using List.reverseRecOn with
  | nil => exact ⟨.start, .start, .start⟩
  | append_singleton schedule i ih =>
    obtain ⟨hholds, htold, htraced⟩ := ih
    have hphase := (run visits schedule).phase_goOn visits i
    rw [run_concat]
    exact ⟨hphase.holds hholds, hphase.told htold, hphase.traced hholds htraced⟩

/-- **A visit has two phases.** -/
theorem left_run_le (visits : ι → Visit ι α ε) (schedule : List ι) (i : ι) :
    ((run visits schedule).stage i).left ≤ 2 - schedule.count i := by
  induction schedule using List.reverseRecOn with
  | nil => exact Nat.le_refl 2
  | append_singleton schedule j ih =>
    rw [run_concat, List.count_append]
    have hphase := (run visits schedule).phase_goOn visits j
    by_cases hj : i = j
    · subst hj
      have hleft := hphase.left_le
      rw [List.count_singleton_self]
      omega
    · rw [hphase.stage_of_ne hj, List.count_singleton]
      simpa [Ne.symm hj] using ih

/-- **A client is made at most once between two clearings**, in whatever order the phases of
any number of visits follow one another. At every moment, of what has happened since the last
clearing, for each signature at most one client was made; every visit that got a client got
the one that was made for its signature; and the cache has as many clients as there are
signatures for which one was made. Visits have the answers that were given to them, after two
phases at the latest. In each next phase a client is made only if it is absent at that moment,
and one that cannot be made is the failure of the visit that asked for it and leaves the cache
as it was. -/
theorem visits_run (visits : ι → Visit ι α ε) (schedule : List ι) :
    let d := run visits schedule
    let since := era d.events
    (∀ signature, ((built since).map Prod.fst).count signature ≤ 1) ∧
      (∀ i signature client, .answer i signature (.ok client) ∈ since →
        (signature, client) ∈ built since) ∧
      d.cache.size = ((built since).map Prod.fst).dedup.length ∧
      (∀ i result, d.stage i = .answered result ↔
        ∃ signature make, visits i = .lookUp signature make ∧
          .answer i signature result ∈ d.events) ∧
      (∀ i, 2 ≤ schedule.count i → (d.stage i).isOver = true) ∧
      ∀ i, ∃ new, (d.goOn visits i).events = d.events ++ new ∧
        ∀ j signature result, .making j signature result ∈ new →
          d.Makes visits (d.goOn visits i) j signature result := by
  intro d since
  obtain ⟨hholds, htold, -⟩ := holds_run visits schedule
  refine ⟨List.nodup_iff_count_le_one.mp hholds.once, hholds.answers, hholds.size_eq, htold,
    fun i htwice => ?_, fun i => (d.phase_goOn visits i).exists_events⟩
  have hleft : (d.stage i).left ≤ 2 - schedule.count i := left_run_le visits schedule i
  exact Stage.left_eq_zero_iff.mp (by omega)

/-- Two visits that ask for the client of one signature, each of which would make its own. -/
def racing (visit : Bool) : Visit Bool Bool Unit :=
  .lookUp "gpt-4.1|responses|||" fun _ => .ok visit

/-- Both miss the client in their first phase, and then get the one that is made first. -/
example :
    (run racing [false, true, true, false]).stage false = .answered (.ok true) ∧
      (run racing [false, true, true, false]).cache.size = 1 := ⟨rfl, rfl⟩

/-- **A visit that nobody interrupts** comes to what a look-up comes to. -/
theorem goOn_goOn {make : List (Event ι α ε) → Except ε α}
    (hvisit : visits i = .lookUp signature make) (hstage : d.stage i = .waiting) :
    ((d.goOn visits i).goOn visits i).cache = (d.cache.get signature (make d.events)).1 ∧
      ((d.goOn visits i).goOn visits i).stage i
        = .answered (d.cache.get signature (make d.events)).2 := by
  cases hfind : d.cache.find? signature with
  | some client =>
    have hfirst : d.goOn visits i = d.answer i signature (.ok client) := by
      simp [goOn, hvisit, hstage, hfind]
    have hsecond : (d.answer i signature (.ok client)).goOn visits i
        = d.answer i signature (.ok client) := by
      simp [goOn, hvisit]
    rw [hfirst, hsecond, get_of_found hfind]
    exact ⟨rfl, stage_answer_self ..⟩
  | none =>
    have hfirst : d.goOn visits i = d.move i .missed := by
      simp [goOn, hvisit, hstage, hfind]
    have hsettle : (d.cache.settle signature (watched i signature make)).run d.events = _ :=
      run_settle_of_absent hfind i make
    rw [hfirst, get_of_absent hfind]
    unfold goOn
    rw [hvisit, stage_move_self]
    dsimp only [move]
    rw [hsettle]
    cases make d.events with
    | ok client => exact ⟨rfl, stage_answer_self ..⟩
    | error failure => exact ⟨rfl, stage_answer_self ..⟩

end Desk

end Colloquy.Provider.Cache
