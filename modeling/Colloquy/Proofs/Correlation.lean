import Colloquy.Proofs.Agent.Context
import Colloquy.Proofs.Agent.Ledger
import Colloquy.Proofs.Exchanges
import Colloquy.Proofs.Passages
import Colloquy.Proofs.Turn.Thread

/-!
# When requests correlate

The passages of a request of a run (`Agent.passages`) and of a turn
(`Responder.passages`) are known from the responses before it: put together they
are the request, entry by entry (`Agent.Told.messages_request`,
`Responder.Sends.eq_passages`).

With a chat provider every request correlates. With a responses provider
everything hangs on the ids of responses. As long as responses have ids, the
payloads of records are sent, and no response along with them. A run without an
id to follow sends messages instead, and none of its outputs has the right
shape; a turn sends payloads together with the responses, and then their ids
have to be the same (`correlates_requests_iff`).
-/

namespace Colloquy

open Provider (Completion Exchange Item Mode)
open Tool (Batch Record resultId)
open Turn (Round responses roundsOf)

/-! ## Requests of runs -/

/-- What holds of what things come to, each after those before it, if it
depends on the things alone. -/
theorem forall_mem_afterEach_iff {α β : Type} {f : List α → α → β} {P : β → Prop} {Q : α → Prop}
    (h : ∀ earlier x, P (f earlier x) ↔ Q x) (xs : List α) :
    (∀ y ∈ afterEach f xs, P y) ↔ ∀ x ∈ xs, Q x := by
  induction xs using List.reverseRecOn with
  | nil => exact iff_of_true (fun _ h => by cases h) fun _ h => by cases h
  | append_singleton xs x ih =>
    rw [afterEach_concat, List.forall_mem_append, List.forall_mem_append, ih,
      List.forall_mem_singleton, List.forall_mem_singleton, h]

namespace Agent

variable (a : Agent) (t : Task)

/-- What is sent right after the output of a call. -/
def itemsBeside (record : Record) : List Item :=
  a.renderer.items (a.trust.admitted record)

/-- **The passage of a response** after others, given the form in which outputs
are sent. -/
def passageAfter (form : Record → Item) (earlier : List Completion) (c : Completion) : Passage :=
  if c.hasToolCalls then .ofCalls c (a.batchAfter t earlier c).records form a.itemsBeside
  else .plain (a.renderer.items (a.segmentAfter t earlier c))

/-- **The passages of the next request of a run.** Behind a response, there is
only the last response, without what it said, and outputs are the payloads of
records. Otherwise there is everything, and outputs are messages. -/
def passages (messages : List Message) (r : Run) : List Passage :=
  match a.provider.mode, r.responseId, r.completions.getLast? with
  | .responses, some _, some c =>
    [(a.passageAfter t Record.payload r.completions.dropLast c).behind]
  | _, _, _ =>
    .plain (a.renderer.items messages)
      :: afterEach (a.passageAfter t fun record => a.renderer.item record.message) r.completions

/-- **A run is told in passages**: its conversation, and what is new of it. -/
structure Told (given : List Message) (r : Run) : Prop extends a.Ledger t given r where
  /-- The conversation. -/
  whole : a.renderer.items r.messages
    = a.renderer.items given
      ++ (afterEach (a.passageAfter t fun record => a.renderer.item record.message)
          r.completions).flatMap Passage.items
  /-- What is new. -/
  new : r.followUp = r.completions.getLast?.map fun c =>
    (a.passageAfter t Record.payload r.completions.dropLast c).behind.items

variable {a t} {d : Option Nat} {messages : List Message} {r r' : Run} {c : Completion}

/-- The calls of a response are settled. -/
theorem settles_batchAfter (a : Agent) (t : Task) (earlier : List Completion) (c : Completion) :
    Passage.Settles a.provider.mode c.toolCalls (a.batchAfter t earlier c).records :=
  Passage.settles_execute _ _ _ _ _ _

/-- What calls add to a conversation is sent as their passage. -/
theorem items_callMessages_eq_items (a : Agent) (t : Task) (earlier : List Completion)
    (c : Completion) :
    a.renderer.items (a.callMessages c (a.batchAfter t earlier c))
      = (Passage.ofCalls c (a.batchAfter t earlier c).records
          (fun record => a.renderer.item record.message) a.itemsBeside).items := by
  rw [Passage.items_ofCalls (settles_batchAfter a t earlier c), callMessages,
    Renderer.items_assistantWithCalls_cons, Renderer.items_flatMap]
  refine congrArg (_ :: ·) (List.flatMap_congr fun record _ => ?_)
  exact Renderer.items_cons_of_ne _ (Renderer.role_message_ne record) _

/-- At its beginning a run has nothing to tell but what it is given. -/
theorem Told.start (a : Agent) (t : Task) (messages : List Message) :
    a.Told t messages (.start a t messages) where
  toLedger := .start a t messages
  whole := (List.append_nil _).symm
  new := rfl

/-- **A step adds a passage**: what it adds to the conversation, and what is new
after it. -/
theorem StepsTo.items_passageAfter (h : a.Ledger t messages r) (hstep : a.StepsTo t d r c r')
    (hsegment : r'.messages = r.messages ++ a.segmentAfter t r.completions c) :
    a.renderer.items (a.segmentAfter t r.completions c)
        = (a.passageAfter t (fun record => a.renderer.item record.message) r.completions c).items
      ∧ r'.followUp = some (a.passageAfter t Record.payload r.completions c).behind.items := by
  unfold passageAfter
  cases hstep with
  | calls hears asks within intime =>
    rw [if_pos asks, if_pos asks, ← items_callMessages_eq_items,
      Passage.items_behind_ofCalls (settles_batchAfter a t r.completions c), ← h.execute_eq]
    exact ⟨congrArg a.renderer.items (List.append_cancel_left hsegment).symm, rfl⟩
  | @rejected w rejection n hears asks validator verdict =>
    rw [if_neg (by simp [asks]), if_neg (by simp [asks])]
    -- the correction is what is behind the rejected candidate
    have hsaid : a.segmentAfter t r.completions c
        = [.assistant c.content, .user rejection.prompt] :=
      (List.append_cancel_left ((List.append_assoc _ _ _).symm.trans hsegment)).symm
    rw [hsaid]
    exact ⟨rfl, rfl⟩

/-- **One step more is one passage more.** -/
theorem Told.step (h : a.Told t messages r) (hstep : a.StepsTo t d r c r') :
    a.Told t messages r' := by
  have hledger := h.toLedger.step hstep
  have hcompletions : r'.completions = r.completions ++ [c] := hstep.completions_eq
  have hsegment : r'.messages = r.messages ++ a.segmentAfter t r.completions c := by
    rw [hledger.messages, hcompletions, conversation_concat, ← h.messages]
  obtain ⟨hitems, hnew⟩ := hstep.items_passageAfter h.toLedger hsegment
  exact {
    toLedger := hledger
    whole := by
      rw [hsegment, Renderer.items_append, h.whole, hitems, hcompletions, afterEach_concat,
        List.flatMap_append, List.flatMap_singleton, List.append_assoc]
    new := by
      rw [hnew, hcompletions, List.getLast?_concat, List.dropLast_concat]
      rfl }

/-- **Every run of a course is told in passages.** -/
theorem told_of_mem_course (h : r ∈ a.course t d messages) : a.Told t messages r := by
  obtain ⟨k, hk⟩ := List.mem_iff_getElem?.mp h
  clear h
  induction k generalizing r with
  | zero =>
    rw [eq_start_of_course hk]
    exact .start a t messages
  | succ k ih =>
    obtain ⟨r₀, c, hr₀, hstep⟩ := exists_stepsTo_of_course hk
    exact (ih hr₀).step hstep

/-- **The next request of a run is made of its passages.** -/
theorem Told.messages_request (h : a.Told t messages r) :
    (a.request t r).messages = (a.passages t messages r).flatMap Passage.items := by
  show a.outgoing r = _
  unfold outgoing passages
  rw [h.new]
  cases hmode : a.provider.mode with
  | chatCompletions => exact h.whole
  | responses =>
    cases hid : r.responseId with
    | none => exact h.whole
    | some id =>
      cases hlast : r.completions.getLast? with
      | none => exact h.whole
      | some c => exact (List.append_nil _).symm

/-- **When a response and its calls correlate** in a request that has
everything. -/
theorem correlates_passageAfter_iff (earlier : List Completion) (c : Completion) :
    (a.passageAfter t (fun record => a.renderer.item record.message) earlier c).Correlates
        a.provider.mode
      ↔ a.provider.mode = .chatCompletions ∨ c.hasToolCalls = false := by
  unfold passageAfter
  cases hasks : c.hasToolCalls with
  | true =>
    rw [if_pos rfl, Passage.correlates_message_iff _ (settles_batchAfter a t earlier c)]
    refine or_congr_right (iff_of_false (fun hnil => ?_) (by simp))
    simp [Completion.hasToolCalls, hnil] at hasks
  | false =>
    rw [if_neg (by simp)]
    exact iff_of_true (Passage.correlates_plain _ _) (.inr rfl)

/-- Behind a response, its calls always correlate. -/
theorem correlates_behind_passageAfter (earlier : List Completion) (c : Completion) :
    (a.passageAfter t Record.payload earlier c).behind.Correlates a.provider.mode := by
  unfold passageAfter
  split
  · exact Passage.correlates_behind (settles_batchAfter a t earlier c)
  · exact Passage.correlates_plain _ _

/-- **When the next request of a run correlates.** -/
theorem correlates_passages_iff (a : Agent) (t : Task) (messages : List Message) (r : Run) :
    (∀ p ∈ a.passages t messages r, p.Correlates a.provider.mode)
      ↔ a.provider.mode = .chatCompletions ∨ r.responseId ≠ none
        ∨ ∀ c ∈ r.completions, c.hasToolCalls = false := by
  have hwhole : (∀ p ∈ .plain (a.renderer.items messages)
        :: afterEach (a.passageAfter t fun record => a.renderer.item record.message) r.completions,
        p.Correlates a.provider.mode)
      ↔ ∀ c ∈ r.completions, a.provider.mode = .chatCompletions ∨ c.hasToolCalls = false := by
    rw [List.forall_mem_cons, forall_mem_afterEach_iff correlates_passageAfter_iff]
    exact and_iff_right (Passage.correlates_plain _ _)
  unfold passages
  cases hmode : a.provider.mode with
  | chatCompletions =>
    rw [hmode] at hwhole
    exact hwhole.trans (iff_of_true (fun _ _ => .inl rfl) (.inl rfl))
  | responses =>
    rw [hmode] at hwhole
    cases hid : r.responseId with
    | none => exact hwhole.trans (by simp)
    | some id =>
      cases hlast : r.completions.getLast? with
      | none =>
        rw [List.getLast?_eq_none_iff.mp hlast] at hwhole ⊢
        exact hwhole.trans (by simp)
      | some c =>
        refine iff_of_true (List.forall_mem_singleton.mpr ?_) (.inr (.inl (by simp)))
        rw [← hmode]
        exact correlates_behind_passageAfter _ c

end Agent

/-! ## Requests of turns -/

namespace Turn

/-- **The passage of a round**: the response and the payloads of its records. -/
def Round.passage (round : Round) : Passage :=
  .ofCalls round.response round.batch.records Record.payload fun _ => []

/-- The calls of a round are settled. -/
def Round.Settled (mode : Mode) (round : Round) : Prop :=
  Passage.Settles mode round.response.toolCalls round.batch.records

/-- The rounds of fewer exchanges are the first ones. -/
theorem roundsOf_prefix {exchanges exchanges' : List Exchange} (h : exchanges <+: exchanges')
    (batches : List Batch) : roundsOf exchanges batches <+: roundsOf exchanges' batches := by
  obtain ⟨more, hmore⟩ : responses exchanges <+: responses exchanges' := h.filterMap _
  have htake : roundsOf exchanges batches
      = (roundsOf exchanges' batches).take (responses exchanges).length := by
    have hlength : (roundsOf exchanges batches).length ≤ (responses exchanges).length := by
      rw [roundsOf, List.length_zipWith]
      exact Nat.min_le_left _ _
    rw [← List.take_of_length_le hlength, roundsOf, roundsOf, List.take_zipWith,
      List.take_zipWith, ← hmore, List.take_left, List.take_length]
  rw [htake]
  exact List.take_prefix _ _

variable {mode : Mode} {round : Round}

/-- The entries of a round are those of its passage. -/
theorem Round.Settled.items_passage (h : round.Settled mode) :
    round.passage.items = round.items := by
  rw [Round.passage, Passage.items_ofCalls h, ← List.map_eq_flatMap]
  rfl

/-- Behind its response, a round has its outputs. -/
theorem Round.Settled.items_behind (h : round.Settled mode) :
    round.passage.behind.items = round.batch.records.map Record.payload := by
  rw [Round.passage, Passage.items_behind_ofCalls h, ← List.map_eq_flatMap]

end Turn

namespace Responder

variable (b : Responder) (q : Question)

/-- **A round is one passage more**; behind a response with an id it is the only
one. -/
def addPassage (passages : List Passage) (round : Round) : List Passage :=
  match b.provider.mode, round.response.responseId with
  | .responses, some _ => [round.passage.behind]
  | _, _ => passages ++ [round.passage]

/-- **The passages of the next request of a turn** after rounds. -/
def passages (rounds : List Round) : List Passage :=
  rounds.foldl b.addPassage [.plain (b.opening q)]

variable {b q} {rounds : List Round} {items : List Item} {id : Option String} {p : Passage}

/-- Rounds that cannot be followed are all there. -/
theorem foldl_addPassage (h : ∀ round ∈ rounds,
      b.provider.mode = .chatCompletions ∨ round.response.responseId = none) (ps : List Passage) :
    rounds.foldl b.addPassage ps = ps ++ rounds.map Round.passage := by
  induction rounds generalizing ps with
  | nil => exact (List.append_nil ps).symm
  | cons round rounds ih =>
    have hadd : b.addPassage ps round = ps ++ [round.passage] := by
      unfold addPassage
      rcases List.forall_mem_cons.mp h |>.1 with hmode | hid
      · rw [hmode]
      · rw [hid]
        cases b.provider.mode <;> rfl
    rw [List.foldl_cons, hadd, ih (List.forall_mem_cons.mp h).2, List.append_assoc]
    rfl

/-- The entries of settled rounds. -/
theorem flatMap_items_map_passage {mode : Mode} (h : ∀ round ∈ rounds, round.Settled mode) :
    (rounds.map Round.passage).flatMap Passage.items = rounds.flatMap Round.items := by
  rw [List.flatMap_map]
  exact List.flatMap_congr fun round hround => (h round hround).items_passage

/-- **What is sent after rounds is made of their passages.** -/
theorem Sends.eq_passages {mode : Mode} (h : b.Sends q rounds items id)
    (hsettled : ∀ round ∈ rounds, round.Settled mode) :
    items = (b.passages q rounds).flatMap Passage.items := by
  cases h with
  | whole unchained =>
    rw [passages, foldl_addPassage fun round hround => unchained.imp_right fun h => h round hround,
      List.flatMap_append, flatMap_items_map_passage hsettled]
    exact congrArg (· ++ _) ((List.append_nil _).trans (opening_eq_preamble b q)).symm
  | @behind before after round id mode split chained last =>
    subst split
    rw [List.forall_mem_append, List.forall_mem_cons] at hsettled
    obtain ⟨-, hround, hafter⟩ := hsettled
    have hpassages : b.passages q (before ++ round :: after)
        = round.passage.behind :: after.map Round.passage := by
      have hadd (ps : List Passage) : b.addPassage ps round = [round.passage.behind] := by
        rw [addPassage, mode, chained]
      rw [passages, List.foldl_append, List.foldl_cons, hadd,
        foldl_addPassage fun later hlater => .inr (last later hlater)]
      rfl
    have hthread : b.thread q (before ++ round :: after)
        = (b.thread q before
            ++ [.message .assistant (.text round.response.content) round.response.toolCalls])
          ++ (round.batch.records.map Record.payload ++ after.flatMap Round.items) := by
      simp only [thread, Round.items, List.flatMap_append, List.flatMap_cons, List.append_assoc,
        List.cons_append, List.nil_append]
    rw [hpassages, List.flatMap_cons, hround.items_behind, flatMap_items_map_passage hafter,
      hthread]
    exact List.drop_left' (by rw [List.length_append, List.length_singleton])

/-- The passages of a turn are its opening and its rounds. -/
theorem mem_passages (h : p ∈ b.passages q rounds) :
    p = .plain (b.opening q) ∨ ∃ round ∈ rounds, p = round.passage ∨ p = round.passage.behind := by
  induction rounds using List.reverseRecOn with
  | nil => exact .inl (List.mem_singleton.mp h)
  | append_singleton rounds round ih =>
    rw [passages, List.foldl_append] at h
    change p ∈ b.addPassage (b.passages q rounds) round at h
    have hround : round ∈ rounds ++ [round] := List.mem_append_right _ List.mem_cons_self
    have hadd : p ∈ b.passages q rounds ∨ p = round.passage ∨ p = round.passage.behind := by
      unfold addPassage at h
      split at h
      · exact .inr (.inr (List.mem_singleton.mp h))
      · exact (List.mem_append.mp h).imp_right fun h => .inl (List.mem_singleton.mp h)
    rcases hadd with h | h
    · exact (ih h).imp_right fun ⟨round', hround', h⟩ =>
        ⟨round', List.mem_append_left _ hround', h⟩
    · exact .inr ⟨round, hround, h⟩

/-- **When the next request of a turn correlates.** -/
theorem correlates_passages_iff {mode : Mode} (hsettled : ∀ round ∈ rounds, round.Settled mode) :
    (∀ p ∈ b.passages q rounds, p.Correlates mode)
      ↔ ∀ p ∈ b.passages q rounds, p.response? ≠ none →
        ∀ o ∈ p.outputs, resultId mode o.call = o.call.id := by
  refine forall₂_congr fun p hp => ?_
  rcases mem_passages hp with rfl | ⟨round, hround, rfl | rfl⟩
  · exact iff_of_true (Passage.correlates_plain _ _) fun h => absurd rfl h
  · have hcalls : round.passage.outputs.map Output.call = round.response.toolCalls :=
      Passage.map_call_outputs (hsettled round hround)
    have hpassage : round.passage.Correlates mode
        ↔ ∀ call ∈ round.response.toolCalls, resultId mode call = call.id :=
      Passage.correlates_payload_iff (hsettled round hround)
    rw [hpassage, ← hcalls, List.forall_mem_map]
    exact ⟨fun h _ => h, fun h => h (Option.some_ne_none _)⟩
  · exact iff_of_true (Passage.correlates_behind (hsettled round hround)) fun h => absurd rfl h

variable {exchanges earlier : List Exchange} {batches : List Batch}

/-- **The rounds of a turn are settled**: their calls were executed. -/
theorem Follows.settled (h : b.Follows q exchanges batches) (hearlier : earlier <+: exchanges) :
    ∀ round ∈ roundsOf earlier batches, round.Settled b.provider.mode := by
  intro round hround
  obtain ⟨before, after, hsplit⟩ := List.append_of_mem hround
  have hprefix : before ++ [round] <+: roundsOf exchanges batches := by
    refine .trans ⟨after, ?_⟩ (Turn.roundsOf_prefix hearlier batches)
    rw [hsplit, List.append_assoc]
    rfl
  obtain ⟨registry, -, hbatch⟩ := (h.executes before round hprefix).batch
  unfold Round.Settled
  rw [hbatch]
  exact Passage.settles_execute _ _ _ _ _ _

/-- **What a turn asks in its rounds is made of passages**, which correlate as
far as responses and outputs go by the same ids. -/
theorem Follows.messages_request (h : b.Follows q exchanges batches) {e : Exchange}
    (he : earlier ++ [e] <+: exchanges) :
    let passages := b.passages q (roundsOf earlier batches)
    e.request.messages = passages.flatMap Passage.items
      ∧ ((∀ p ∈ passages, p.Correlates b.provider.mode)
        ↔ ∀ p ∈ passages, p.response? ≠ none →
          ∀ o ∈ p.outputs, resultId b.provider.mode o.call = o.call.id) := by
  have hsettled := h.settled ((List.prefix_append earlier [e]).trans he)
  exact ⟨(h.sends earlier e he).eq_passages hsettled, correlates_passages_iff hsettled⟩

end Responder

/-- **When requests correlate.** All that a run and a turn ask – the rest of an
answer aside – is made of passages, one for each response and its calls. With a
chat provider every passage correlates. With a responses provider, those of a run
do exactly as long as there is an id to follow or no response has asked for
calls; and those of a turn do exactly if the calls of responses that are sent
along have their own ids in their blocks, or none. -/
theorem correlates_requests_iff (a : Agent) (t : Task) (messages : List Message) (b : Responder)
    (q : Question) :
    let course := a.course t (some a.limits.deadline) messages
    let turn := (b.answer q).turn
    ((a.run t messages).run.requests = course.map (a.request t)
        ∧ ∀ r ∈ course,
          (a.request t r).messages = (a.passages t messages r).flatMap Passage.items
            ∧ ((∀ p ∈ a.passages t messages r, p.Correlates a.provider.mode)
              ↔ a.provider.mode = .chatCompletions
                ∨ (a.request t r).previousResponseId ≠ none
                ∨ ∀ c ∈ r.completions, c.hasToolCalls = false))
      ∧ ∃ loop rest, turn.exchanges = loop ++ rest ∧ b.Appends q turn loop rest
        ∧ ∀ earlier e, earlier ++ [e] <+: loop →
          let passages := b.passages q (roundsOf earlier turn.batches)
          e.request.messages = passages.flatMap Passage.items
            ∧ ((∀ p ∈ passages, p.Correlates b.provider.mode)
              ↔ ∀ p ∈ passages, p.response? ≠ none →
                ∀ o ∈ p.outputs, resultId b.provider.mode o.call = o.call.id) := by
  refine ⟨⟨Agent.requests_runUntil messages, fun r hr => ⟨?_, ?_⟩⟩, ?_⟩
  · exact (Agent.told_of_mem_course hr).messages_request
  · exact Agent.correlates_passages_iff a t messages r
  · obtain ⟨loop, rest, heq, hfollows, happends⟩ := Responder.rounds_induction
      (P := b.OnThread q)
      (Q := fun report => ∃ loop rest, report.turn.exchanges = loop ++ rest
        ∧ b.Follows q loop report.turn.batches ∧ b.Appends q report.turn loop rest)
      (fun _ _ h hround => h.roundsTo hround) (fun _ _ h hreport => h.finishes hreport)
      (b.maxRounds - 1) (.start b q)
    exact ⟨loop, rest, heq, happends, fun earlier e he => hfollows.messages_request he⟩

/-- **Without ids of responses, requests need not correlate.** A run sends the
output of its call in the shape of the chat family. A turn sends it in the right
shape, but under an id that the response sent along does not have. -/
theorem not_correlates_without_ids :
    let call : ToolCall :=
      { id := "call", name := "look_up", input := some [("call_id", .str "item")] }
    let a := Agent.lookingUp .responses [{ toolCalls := [call] }, { content := "Here." }]
    let course := a.course {} (some a.limits.deadline) [.user "Where is it?"]
    let b := Responder.hearing .responses [.ok { toolCalls := [call] }, .ok { content := "Here." }]
    let q := Question.whereIsIt none
    let turn := (b.answer q).turn
    (∃ r, course[1]? = some r
        ∧ (a.request {} r).messages = [.ofText .user "Where is it?",
          .message .assistant (.text "") [call], .toolResult "look_up" "item" "found",
          .ofText .user "See also elsewhere."]
        ∧ ¬ ∀ p ∈ a.passages {} [.user "Where is it?"] r, p.Correlates .responses)
      ∧ ∃ first second, turn.exchanges = [first, second]
        ∧ second.request.messages = [.ofText .user "Where is it?",
          .message .assistant (.text "") [call], .callOutput "item" "found"]
        ∧ ¬ ∀ p ∈ b.passages q (roundsOf [first] turn.batches), p.Correlates .responses := by
  intro call a course b q turn
  refine ⟨⟨_, rfl, ?_, fun h => ?_⟩, _, _, rfl, rfl, fun h => ?_⟩
  · show a.renderer.items [.user "Where is it?", .assistantWithCalls "" [call],
      .toolText "item" "look_up" "found", Trust.mark "look_up" (.user "See also elsewhere.")] = _
    rw [Message.user, Renderer.items_ofText_cons _ (.inl rfl),
      Renderer.items_assistantWithCalls_cons]
    rfl
  · rcases (Agent.correlates_passages_iff _ _ _ _).mp h with hmode | hid | hcalls
    · cases hmode
    · exact hid rfl
    · exact absurd (hcalls { toolCalls := [call] } List.mem_cons_self) (by decide)
  · have hpassage := (h _ (List.mem_cons_of_mem _ List.mem_cons_self)).ids _ rfl
    have hids : [some (Json.str "call")] = [some (.str "item")] :=
      (Item.wireIds_message .assistant (.text "") [call]).symm.trans hpassage
    simp at hids

end Colloquy
