import Colloquy.Proofs.Agent.Course
import Colloquy.Proofs.Rendering
import Mathlib.Data.List.Induction

/-!
# What a responses provider gets to know

A responses provider keeps the conversation behind the ids of its responses,
so that a request which follows a response has to carry what was said after
it, and a request which follows none has to carry everything. A request that
does conveys the conversation (`Agent.Conveys`).

A run carries what is new since the last response, and it follows the last
response that had an id. The two are the same response as long as every
response has an id. When the last one had none, but an earlier one did, or
when the run was begun behind some response, the request carries too little:
the response without an id, and whatever lies between, is told to nobody.
So a request conveys the conversation exactly when the response right before
it had an id, or there is no id to follow (`Agent.requests_run_of_responses`).
-/

namespace Colloquy

open Provider (Completion Item)
open Tool (Batch Record)

/-- **The last response with an id.** -/
structure IsLatest (cs : List Completion) (id : String) (j : Nat) : Prop where
  /-- It has the id. -/
  carries : ∃ c, cs[j]? = some c ∧ c.responseId = some id
  /-- No later one has. -/
  last : ∀ i c, j < i → cs[i]? = some c → c.responseId ≠ some id

variable {cs : List Completion} {c : Completion} {id : String} {i j : Nat}

/-- The last response with an id is one of the responses. -/
theorem IsLatest.lt_length (h : IsLatest cs id j) : j < cs.length := by
  obtain ⟨c, hc, -⟩ := h.carries
  exact (List.getElem?_eq_some_iff.mp hc).1

/-- There is only one last response with an id. -/
theorem IsLatest.eq (h : IsLatest cs id i) (h' : IsLatest cs id j) : i = j := by
  obtain ⟨c, hc, hid⟩ := h.carries
  obtain ⟨c', hc', hid'⟩ := h'.carries
  rcases Nat.lt_trichotomy i j with hlt | heq | hgt
  · exact absurd hid' (h.last j c' hlt hc')
  · exact heq
  · exact absurd hid (h'.last i c hgt hc)

/-- A response is the last one with its id as long as it is the last one. -/
theorem isLatest_concat (cs : List Completion) (hc : c.responseId = some id) :
    IsLatest (cs ++ [c]) id cs.length := by
  refine ⟨⟨c, List.getElem?_concat_length, hc⟩, fun i c' hi hc' => ?_⟩
  have hlt := (List.getElem?_eq_some_iff.mp hc').1
  rw [List.length_append, List.length_singleton] at hlt
  omega

/-- It still is when a response comes that has another id or none. -/
theorem IsLatest.concat (h : IsLatest cs id j) (hc : c.responseId ≠ some id) :
    IsLatest (cs ++ [c]) id j := by
  obtain ⟨c₀, hj, hid₀⟩ := h.carries
  refine ⟨⟨c₀, by rw [List.getElem?_append_left h.lt_length, hj], hid₀⟩, fun i c₁ hi hc₁ => ?_⟩
  rcases Nat.lt_or_ge i cs.length with hi' | hi'
  · exact h.last i c₁ hi (by rw [← hc₁, List.getElem?_append_left hi'])
  · rw [List.getElem?_append_right hi'] at hc₁
    rw [List.mem_singleton.mp (List.mem_of_getElem? hc₁)]
    exact hc

/-- If there is a response with an id, there is a last one. -/
theorem exists_isLatest (h : ∃ c ∈ cs, c.responseId = some id) : ∃ j, IsLatest cs id j := by
  induction cs using List.reverseRecOn with
  | nil =>
    obtain ⟨c, hc, -⟩ := h
    cases hc
  | append_singleton cs c ih =>
    by_cases hc : c.responseId = some id
    · exact ⟨_, isLatest_concat cs hc⟩
    · obtain ⟨c', hmem, hid⟩ := h
      rcases List.mem_append.mp hmem with hmem | hmem
      · obtain ⟨j, hj⟩ := ih ⟨c', hmem, hid⟩
        exact ⟨j, hj.concat hc⟩
      · exact absurd (List.mem_singleton.mp hmem ▸ hid) hc

namespace Agent

variable (a : Agent) (t : Task)

/-- **An entry renders a message**: as the renderer has it or, where the
message tells of a result, as the record of the call has it. -/
def RendersOne (batches : List Batch) (m : Message) (item : Item) : Prop :=
  item = a.renderer.item m
    ∨ ∃ batch ∈ batches, ∃ record ∈ batch.records, m = record.message ∧ item = record.payload

/-- **Entries render messages**, in order, each of those that are no
instructions by an entry of its own. -/
def Renders (batches : List Batch) (messages : List Message) (items : List Item) : Prop :=
  List.Forall₂ (a.RendersOne batches) (messages.filter fun m => m.role != .system) items

/-- **The next request of a run conveys the conversation.** -/
structure Conveys (course : List Run) (r : Run) : Prop where
  /-- Behind a response of the run it carries what was said after it. The
  response was given to the run at its position and was said first thereafter. -/
  behind : ∀ id j r₀, (a.request t r).previousResponseId = some id → IsLatest r.completions id j →
    course[j]? = some r₀ →
    a.Renders r.batches (r.messages.drop (r₀.messages.length + 1)) (a.request t r).messages
  /-- Behind no response of the run it carries everything. -/
  whole : (∀ c ∈ r.completions,
      c.responseId = none ∨ c.responseId ≠ (a.request t r).previousResponseId) →
    a.Renders r.batches r.messages (a.request t r).messages

variable {a t} {d : Option Nat} {messages : List Message} {r r' : Run} {batches : List Batch}

/-! ## What renders what -/

/-- The renderer renders. -/
theorem renders_items (ms : List Message) : a.Renders batches ms (a.renderer.items ms) := by
  unfold Renders Renderer.items
  rw [List.forall₂_map_right_iff, List.forall₂_same]
  exact fun m _ => .inl rfl

theorem Renders.append {ms ns : List Message} {items items' : List Item}
    (h : a.Renders batches ms items) (h' : a.Renders batches ns items') :
    a.Renders batches (ms ++ ns) (items ++ items') := by
  unfold Renders
  rw [List.filter_append]
  exact List.rel_append h h'

/-- Entries are as many as the messages that they render. -/
theorem Renders.length_eq {ms : List Message} {items : List Item}
    (h : a.Renders batches ms items) :
    (ms.filter fun m => m.role != .system).length = items.length :=
  List.Forall₂.length_eq h

/-- What a record adds to a request renders what it adds to the conversation. -/
theorem renders_record {batch : Batch} {record : Record} (hbatch : batch ∈ batches)
    (hrecord : record ∈ batch.records) :
    a.Renders batches (a.recordMessages record) (a.recordItems record) := by
  have hmessage : a.Renders batches [record.message] [record.payload] := by
    unfold Renders
    rw [List.filter_cons_of_pos (by simpa using Renderer.role_message_ne record)]
    exact .cons (.inr ⟨batch, hbatch, record, hrecord, rfl, rfl⟩) .nil
  exact hmessage.append (renders_items (a.trust.admitted record))

/-- What records add to a request renders what they add to the conversation. -/
theorem renders_records {batch : Batch} (hbatch : batch ∈ batches) {records : List Record}
    (hrecords : ∀ record ∈ records, record ∈ batch.records) :
    a.Renders batches (records.flatMap a.recordMessages) (records.flatMap a.recordItems) := by
  induction records with
  | nil => exact .nil
  | cons record records ih =>
    rw [List.flatMap_cons, List.flatMap_cons]
    exact (renders_record hbatch (hrecords record List.mem_cons_self)).append
      (ih fun record' h => hrecords record' (List.mem_cons_of_mem _ h))

/-! ## What a step leaves to be said -/

/-- **After a step, what is new renders what was said after the response** –
but not the response itself, which was said before that. -/
theorem StepsTo.followUp_renders {c : Completion} (h : a.StepsTo t d r c r') :
    ∃ said rest items, said.role ≠ .system ∧ r'.messages = r.messages ++ said :: rest
      ∧ r'.followUp = some items ∧ a.Renders r'.batches rest items := by
  cases h with
  | calls hears asks within intime =>
    refine ⟨.assistantWithCalls c.content c.toolCalls, _, _,
      show Role.assistant ≠ .system by decide, rfl, rfl, ?_⟩
    have hbatch : a.execute t r c ∈ (a.afterCalls t r c).batches :=
      List.mem_append.mpr (.inr List.mem_cons_self)
    exact renders_records hbatch fun _ h => h
  | @rejected w rejection n hears asks validator verdict =>
    exact ⟨.assistant c.content, [.user rejection.prompt], _,
      show Role.assistant ≠ .system by decide, List.append_assoc _ _ _, rfl, renders_items _⟩

/-- Behind a response, only what is new is sent. -/
theorem outgoing_behind (hmode : a.provider.mode = .responses) {id : String}
    (hid : r.responseId = some id) {items : List Item} (hitems : r.followUp = some items) :
    a.outgoing r = items := by
  unfold outgoing
  rw [hmode, hid, hitems]

/-- Behind none, everything is. -/
theorem outgoing_of_no_id (hid : r.responseId = none) :
    a.outgoing r = a.renderer.items r.messages := by
  unfold outgoing
  rw [hid]
  cases a.provider.mode <;> rfl

/-! ## When a request conveys the conversation -/

/-- The last completion of a run of a course is the one its last step heard. -/
theorem exists_last_stepsTo {k : Nat} (hr : (a.course t d messages)[k + 1]? = some r) :
    ∃ r₀ c, (a.course t d messages)[k]? = some r₀ ∧ a.StepsTo t d r₀ c r
      ∧ r.completions[k]? = some c ∧ r.completions.length = k + 1 := by
  obtain ⟨r₀, c, hr₀, hc⟩ := exists_stepsTo_of_course hr
  refine ⟨r₀, c, hr₀, hc, ?_, length_completions_of_course hr⟩
  rw [hc.completions_eq, ← length_completions_of_course hr₀]
  exact List.getElem?_concat_length

/-- **Right behind a response, a request conveys the conversation.** -/
theorem conveys_of_id (hmode : a.provider.mode = .responses) {k : Nat}
    (hr : (a.course t d messages)[k + 1]? = some r) {c : Completion}
    (hc : r.completions[k]? = some c) {id : String} (hid : c.responseId = some id) :
    a.Conveys t (a.course t d messages) r := by
  obtain ⟨r₀, c', hr₀, hstep, hc', -⟩ := exists_last_stepsTo hr
  cases Option.some.inj (hc.symm.trans hc')
  obtain ⟨said, rest, items, hsaid, hmessages, hitems, hrenders⟩ := hstep.followUp_renders
  have hlatest : r.responseId = some id := by rw [hstep.responseId_eq, hid, Option.some_or]
  refine ⟨fun id' j r₁ hid' hj hr₁ => ?_, fun hnone => ?_⟩
  · cases Option.some.inj (hlatest.symm.trans hid')
    have hk : IsLatest r.completions id k := by
      rw [hstep.completions_eq, ← length_completions_of_course hr₀]
      exact isLatest_concat _ hid
    cases hj.eq hk
    cases Option.some.inj (hr₀.symm.trans hr₁)
    have hdrop : r.messages.drop (r₀.messages.length + 1) = rest := by
      rw [hmessages, List.drop_append, Nat.add_sub_cancel_left, List.drop_eq_nil_of_le
        (Nat.le_succ _)]
      rfl
    show a.Renders r.batches _ (a.outgoing r)
    rw [hdrop, outgoing_behind hmode hlatest hitems]
    exact hrenders
  · rcases hnone c (List.mem_of_getElem? hc) with h | h
    · exact absurd (hid.symm.trans h) (by simp)
    · exact absurd (hid.trans hlatest.symm) h

/-- **Without an id to follow, a request conveys the conversation.** -/
theorem conveys_of_no_id {course : List Run} (hid : r.responseId = none) :
    a.Conveys t course r := by
  refine ⟨fun id j r₁ hid' _ _ => ?_, fun _ => ?_⟩
  · exact absurd (hid.symm.trans hid') (by simp)
  · show a.Renders r.batches r.messages (a.outgoing r)
    rw [outgoing_of_no_id hid]
    exact renders_items _

/-- What is new since a response does not render what was said before and
with it. -/
theorem not_renders {said : Message} {rest : List Message} {items : List Item} {n : Nat}
    (hsaid : said.role ≠ .system) (hmessages : r'.messages = r.messages ++ said :: rest)
    (hrenders : a.Renders batches rest items) (hn : n ≤ r.messages.length) :
    ¬ a.Renders batches (r'.messages.drop n) items := by
  intro h
  have hlength := h.length_eq
  rw [← hrenders.length_eq, hmessages, List.drop_append_of_le_length hn, List.filter_append,
    List.filter_cons_of_pos (by simpa using hsaid), List.length_append, List.length_cons] at hlength
  omega

/-- **Behind an earlier response, or the one the run was begun behind, a
request does not convey the conversation.** -/
theorem not_conveys_of_earlier_id (hmode : a.provider.mode = .responses) {k : Nat}
    (hr : (a.course t d messages)[k + 1]? = some r) {c : Completion}
    (hc : r.completions[k]? = some c) (hnone : c.responseId = none) {id : String}
    (hid : r.responseId = some id) : ¬ a.Conveys t (a.course t d messages) r := by
  intro hconveys
  obtain ⟨r₀, c', hr₀, hstep, hc', hlength⟩ := exists_last_stepsTo hr
  cases Option.some.inj (hc.symm.trans hc')
  obtain ⟨said, rest, items, hsaid, hmessages, hitems, hrenders⟩ := hstep.followUp_renders
  have hsent : (a.request t r).messages = items := outgoing_behind hmode hid hitems
  -- whichever response is followed, the one without an id came after it
  by_cases hmem : ∃ c ∈ r.completions, c.responseId = some id
  · obtain ⟨j, hj⟩ := exists_isLatest hmem
    have hle : j < k + 1 := hlength ▸ hj.lt_length
    have hjk : j < k := by
      rcases Nat.lt_succ_iff_lt_or_eq.mp hle with hlt | rfl
      · exact hlt
      · obtain ⟨c₁, hc₁, hid₁⟩ := hj.carries
        cases Option.some.inj (hc.symm.trans hc₁)
        exact absurd (hnone.symm.trans hid₁) (by simp)
    have hcourse : j < (a.course t d messages).length :=
      hle.trans (List.getElem?_eq_some_iff.mp hr).1
    have hr₁ := List.getElem?_eq_getElem hcourse
    have hgrown := length_messages_lt_of_course hr₁ hr₀ hjk
    refine not_renders hsaid hmessages hrenders hgrown ?_
    rw [← hsent]
    exact hconveys.behind id j _ hid hj hr₁
  · refine not_renders hsaid hmessages hrenders (Nat.zero_le _) ?_
    rw [← hsent]
    refine hconveys.whole fun c₁ hc₁ => .inr fun h => hmem ⟨c₁, hc₁, ?_⟩
    exact h.trans hid

/-- **What a responses provider gets to know.** A request after the first one
conveys the whole conversation exactly when the response right before it had
an id, or there is no id to follow. -/
theorem requests_run_of_responses (hmode : a.provider.mode = .responses) :
    let course := a.course t (some a.limits.deadline) messages
    (a.run t messages).run.requests = course.map (a.request t)
      ∧ ∀ k r, course[k + 1]? = some r →
        (a.Conveys t course r
          ↔ (∃ c, r.completions[k]? = some c ∧ c.responseId ≠ none)
            ∨ (a.request t r).previousResponseId = none) := by
  refine ⟨requests_runUntil messages, fun k r hr => ⟨fun hconveys => ?_, fun h => ?_⟩⟩
  · obtain ⟨-, c, -, -, hc, -⟩ := exists_last_stepsTo hr
    cases hnone : c.responseId with
    | some id => exact .inl ⟨c, hc, by simp [hnone]⟩
    | none =>
      cases hid : r.responseId with
      | none => exact .inr hid
      | some id => exact absurd hconveys (not_conveys_of_earlier_id hmode hr hc hnone hid)
  · rcases h with ⟨c, hc, hid⟩ | hid
    · obtain ⟨id, hid⟩ := Option.ne_none_iff_exists'.mp hid
      exact conveys_of_id hmode hr hc hid
    · exact conveys_of_no_id hid

/-- Where every response has an id, the conversation is conveyed. -/
theorem requests_run_of_responses_lookingUp :
    let a := Agent.lookingUp .responses
      [.lookUp (some "first"), .lookUp (some "second"), { content := "Here it is." }]
    let course := a.course {} (some a.limits.deadline) [.user "Where is it?"]
    a.provider.mode = .responses
      ∧ ∃ r, course[2]? = some r ∧ a.Conveys {} course r := by
  refine ⟨rfl, _, rfl, ((requests_run_of_responses rfl).2 1 _ rfl).mpr (.inl ⟨_, rfl, ?_⟩)⟩
  simp [Completion.lookUp]

/-- **A response without an id is lost** when an earlier one had an id: the
third request follows the first response and carries only what came of the
second. -/
theorem not_conveys_lookingUp :
    let a := Agent.lookingUp .responses
      [.lookUp (some "first"), .lookUp none, { content := "Here it is." }]
    let course := a.course {} (some a.limits.deadline) [.user "Where is it?"]
    ∃ r, course[2]? = some r ∧ (a.request {} r).previousResponseId = some "first"
      ∧ ¬ a.Conveys {} course r := by
  refine ⟨_, rfl, rfl, ?_⟩
  exact not_conveys_of_earlier_id (k := 1) rfl rfl rfl rfl rfl

end Agent

end Colloquy
