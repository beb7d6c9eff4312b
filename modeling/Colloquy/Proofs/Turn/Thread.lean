import Colloquy.Proofs.Tool.Containment
import Colloquy.Proofs.Turn.Ways
import Mathlib.Data.List.Chain

/-!
# The thread of a turn

What a turn has to say to its provider is what there is to say at first – the
prompt, what was said before, and the question (`Responder.preamble`) – and one
piece for each round of calls: the response and the outputs of its calls
(`Responder.thread`). No request loses any of it or says any of it twice.
A chat provider is sent all of it each time. A responses provider is sent all
of it until a response has an id, and from then on, behind the last response
that had one, what came after that response (`Responder.Sends`).

The conversation that a turn keeps is just what its next request sends, and a
round keeps that true (`Sends.carryOn`): a response with an id starts a new
piece, a response without one adds to the piece that was there. So the
statement for whole turns (`Responder.exchanges_answer`) needs no more than
that the rounds before a request are those the turn has heard and executed by
then.
-/

namespace Colloquy

open Provider (Completion Exchange Item Request)
open Tool (Batch Record)

namespace Turn

/-- **A round of calls**: the response that asked for them and what they came
to. -/
structure Round where
  /-- The response. -/
  response : Completion
  /-- Its calls, executed. -/
  batch : Batch

/-- **What a round adds to a conversation**: the response with its calls as
they were asked for, and their outputs in order. -/
def Round.items (round : Round) : List Item :=
  .message .assistant (.text round.response.content) round.response.toolCalls
    :: round.batch.records.map Record.payload

/-- The responses of exchanges. -/
def responses (exchanges : List Exchange) : List Completion :=
  exchanges.filterMap Exchange.completion?

/-- **The rounds of exchanges**: each batch belongs to the response at its
position. -/
def roundsOf (exchanges : List Exchange) (batches : List Batch) : List Round :=
  List.zipWith Round.mk (responses exchanges) batches

end Turn

open Turn (Round responses roundsOf)

namespace Responder

variable (b : Responder) (q : Question)

/-- **What there is to say at first.** A chat provider is told the prompt, which
the question may bring with it, unless that is blank. Then there is what was said
before, remark by remark, and last the question, in the provider's own form if it
has one. -/
def preamble : List Item :=
  (if b.provider.mode = .chatCompletions
        ∧ Text.isBlankText (q.systemPrompt.getD b.systemPrompt) = false then
      [.message .system (.text (q.systemPrompt.getD b.systemPrompt)) []]
    else [])
    ++ q.history.map (fun remark => .message remark.role (.text remark.content) [])
    ++ [.message .user ((q.rawContent.map .raw).getD (.text q.text)) []]

/-- **What there is to say after rounds.** -/
def thread (rounds : List Round) : List Item :=
  b.preamble q ++ rounds.flatMap Round.items

/-- **What is sent after rounds**, and behind which response. -/
inductive Sends (rounds : List Round) : List Item → Option String → Prop
  /-- Everything, if there is no response to follow but the caller's. -/
  | whole (unchained : b.provider.mode = .chatCompletions
        ∨ ∀ round ∈ rounds, round.response.responseId = none) :
      Sends rounds (b.thread q rounds) q.previousResponseId
  /-- What comes after the last response with an id. -/
  | behind {before after : List Round} {round : Round} {id : String}
      (mode : b.provider.mode = .responses) (split : rounds = before ++ round :: after)
      (chained : round.response.responseId = some id)
      (last : ∀ later ∈ after, later.response.responseId = none) :
      Sends rounds ((b.thread q rounds).drop ((b.thread q before).length + 1)) (some id)

/-- **A round executes the calls of its response**, with the tools on offer
and told of the rounds before it, and has one record for each of them. -/
structure Executes (earlier : List Round) (round : Round) : Prop where
  /-- There are calls. -/
  asks : round.response.hasToolCalls = true
  /-- They are executed. -/
  batch : ∃ registry, q.offered = some registry
    ∧ round.batch = Tool.execute b.provider.mode b.parallel registry q.context
        (earlier.flatMap fun r => r.batch.invoked) round.response.toolCalls
  /-- The records account for the calls. -/
  accounts : ∃ registry sleeps, q.offered = some registry
    ∧ Tool.AccountFor b.provider.mode registry q.context
        (earlier.flatMap fun r => r.batch.invoked) round.response.toolCalls
        round.batch.invoked sleeps round.batch.records
  /-- The records answer the calls one by one. -/
  answers : List.Forall₂ (Record.Answers b.provider.mode) round.response.toolCalls
    round.batch.records

/-- **Exchanges follow the thread**, and batches are the calls executed on the
way: each request sends what is to be sent after the rounds before it, and a
request after a failed one repeats it without a form. -/
structure Follows (exchanges : List Exchange) (batches : List Batch) : Prop where
  /-- The provider has replied to each request. -/
  replied : ∀ earlier e, earlier ++ [e] <+: exchanges →
    e.outcome = some (b.provider.reply earlier.length e.request).outcome
  /-- The rounds before a request were gone through. -/
  gone : ∀ earlier e, earlier ++ [e] <+: exchanges → (responses earlier).length ≤ batches.length
  /-- The request sends what is to be sent after them. -/
  sends : ∀ earlier e, earlier ++ [e] <+: exchanges →
    b.Sends q (roundsOf earlier batches) e.request.messages e.request.previousResponseId
  /-- A failed request is repeated without a form. -/
  repeats : exchanges.IsChain fun e e' =>
    e.completion? = none → e'.request = { e.request with responseSchema := none }
  /-- Each batch belongs to a response. -/
  answered : batches.length ≤ (responses exchanges).length
  /-- It is what the calls of the response came to. -/
  executes : ∀ earlier round, earlier ++ [round] <+: roundsOf exchanges batches →
    b.Executes q earlier round

/-- **What a turn asks beyond its rounds**: nothing, or the rest of its
answer. -/
inductive Appends (t : Turn) (loop : List Exchange) : List Exchange → Prop
  /-- Nothing. -/
  | nothing : Appends t loop []
  /-- The rest of the answer. -/
  | rest {e : Exchange} {c : Completion} {id : String}
      (last : loop.getLast? = some e) (said : e.completion? = some c)
      (answers : q.offered = none ∨ c.hasToolCalls = false) (unfinished : c.unfinished? = some id) :
      Appends t loop
        [⟨b.continuationRequest q t id,
          some (b.provider.reply loop.length (b.continuationRequest q t id)).outcome⟩]

variable {b q} {rounds : List Round} {round : Round} {items : List Item} {id : Option String}

/-! ## The thread and its pieces -/

theorem thread_concat (b : Responder) (q : Question) (rounds : List Round) (round : Round) :
    b.thread q (rounds ++ [round]) = b.thread q rounds ++ round.items := by
  rw [thread, List.flatMap_append, List.flatMap_singleton, ← List.append_assoc]
  rfl

/-- **A turn begins with what there is to say at first.** -/
theorem opening_eq_preamble (b : Responder) (q : Question) : b.opening q = b.preamble q := by
  have hquestion : q.item = .message .user ((q.rawContent.map .raw).getD (.text q.text)) [] := by
    unfold Question.item
    cases q.rawContent <;> rfl
  unfold opening preamble prompt
  rw [hquestion]
  refine congrArg (· ++ _ ++ _) ?_
  cases b.provider.mode with
  | responses => rfl
  | chatCompletions =>
    cases hblank : Text.isBlankText (q.systemPrompt.getD b.systemPrompt) <;>
      simp [Option.filter_some, hblank, Item.ofText]

/-- Before any round everything is sent. -/
theorem Sends.start (b : Responder) (q : Question) :
    b.Sends q [] (b.opening q) q.previousResponseId := by
  have h : b.Sends q [] (b.thread q []) q.previousResponseId := .whole (.inr (by simp))
  rwa [thread, List.flatMap_nil, List.append_nil, ← opening_eq_preamble] at h

/-- **Where a response cannot be followed, its round is added to what is
sent.** -/
theorem Sends.append (h : b.Sends q rounds items id)
    (hround : b.provider.mode = .chatCompletions ∨ round.response.responseId = none) :
    b.Sends q (rounds ++ [round]) (items ++ round.items) id := by
  cases h with
  | whole unchained =>
    rw [← thread_concat]
    refine .whole ?_
    rcases unchained with hmode | hnone
    · exact .inl hmode
    · refine hround.imp_right fun hid later hlater => ?_
      rcases List.mem_append.mp hlater with hlater | hlater
      · exact hnone later hlater
      · exact List.mem_singleton.mp hlater ▸ hid
  | @behind before after chainedRound id mode split chained last =>
    have hid : round.response.responseId = none :=
      hround.resolve_left (by rw [mode]; decide)
    -- the response that is followed lies in the thread already
    have hlength : (b.thread q before).length + 1 ≤ (b.thread q rounds).length := by
      rw [split, thread, thread, List.flatMap_append, List.flatMap_cons]
      simp only [List.length_append, Round.items, List.length_cons]
      omega
    have hsplit : rounds ++ [round] = before ++ chainedRound :: (after ++ [round]) := by
      rw [split, List.append_assoc]
      rfl
    rw [← List.drop_append_of_le_length hlength, ← thread_concat]
    refine .behind mode hsplit chained fun later hlater => ?_
    rcases List.mem_append.mp hlater with hlater | hlater
    · exact last later hlater
    · exact List.mem_singleton.mp hlater ▸ hid

/-- **Behind a response with an id only its outputs are sent.** -/
theorem Sends.chain (hmode : b.provider.mode = .responses) {id : String}
    (hid : round.response.responseId = some id) (rounds : List Round) :
    b.Sends q (rounds ++ [round]) (round.batch.records.map Record.payload) (some id) := by
  have h : b.Sends q (rounds ++ [round]) _ (some id) := .behind hmode rfl hid (by simp)
  rw [thread_concat, List.drop_append, Nat.add_sub_cancel_left,
    List.drop_eq_nil_of_le (Nat.le_succ _)] at h
  exact h

/-- **A round keeps the thread.** -/
theorem Sends.carryOn {t : Turn} (h : b.Sends q rounds t.conversation t.chainId)
    (c : Completion) (batch : Batch) :
    b.Sends q (rounds ++ [⟨c, batch⟩])
      (b.carryOn t c (batch.records.map Record.payload)).conversation
      (b.carryOn t c (batch.records.map Record.payload)).chainId := by
  unfold Responder.carryOn
  cases hmode : b.provider.mode with
  | chatCompletions => exact h.append (.inl hmode)
  | responses =>
    cases hid : c.responseId with
    | some id => exact Sends.chain hmode hid rounds
    | none => exact h.append (.inr hid)

/-! ## Exchanges and batches -/

variable {exchanges exchanges' : List Exchange} {batches : List Batch} {batch : Batch}
variable {c : Completion}

theorem responses_concat (exchanges : List Exchange) (e : Exchange) :
    responses (exchanges ++ [e]) = responses exchanges ++ e.completion?.toList := by
  rw [responses, List.filterMap_append]
  cases h : e.completion? <;> simp [responses, h]

/-- Batches to come do not belong to the responses there are. -/
theorem roundsOf_append_right (h : (responses exchanges).length ≤ batches.length)
    (more : List Batch) : roundsOf exchanges (batches ++ more) = roundsOf exchanges batches := by
  have hmore := h.trans (List.length_append ▸ Nat.le_add_right _ more.length)
  unfold roundsOf
  rw [List.zipWith_eq_zipWith_take_min, Nat.min_eq_left hmore, List.take_append_of_le_length h]
  conv_rhs => rw [List.zipWith_eq_zipWith_take_min, Nat.min_eq_left h]

/-- Responses to come do not belong to the batches there are. -/
theorem roundsOf_of_responses {more : List Completion}
    (hresponses : responses exchanges' = responses exchanges ++ more)
    (h : (responses exchanges).length = batches.length) :
    roundsOf exchanges' batches = roundsOf exchanges batches := by
  have hzip : List.zipWith Round.mk (responses exchanges ++ more) (batches ++ [])
      = roundsOf exchanges batches ++ List.zipWith Round.mk more [] := List.zipWith_append h
  rw [List.append_nil, List.zipWith_nil_right, List.append_nil] at hzip
  rw [roundsOf, hresponses, hzip]

/-- The next response and the next batch belong together. -/
theorem roundsOf_concat (hresponses : responses exchanges' = responses exchanges ++ [c])
    (h : (responses exchanges).length = batches.length) :
    roundsOf exchanges' (batches ++ [batch]) = roundsOf exchanges batches ++ [⟨c, batch⟩] := by
  rw [roundsOf, hresponses, List.zipWith_append h]
  rfl

/-- Where each response has its batch, the batches are those of the rounds. -/
theorem map_batch_roundsOf (h : (responses exchanges).length = batches.length) :
    (roundsOf exchanges batches).map Round.batch = batches := by
  rw [roundsOf, List.map_zipWith]
  refine List.ext_getElem ?_ fun i h₁ h₂ => ?_
  · rw [List.length_zipWith, h, Nat.min_self]
  · exact List.getElem_zipWith

/-- **One request more follows the thread** if it sends what is to be sent. -/
theorem Follows.concat (h : b.Follows q exchanges batches)
    (hlength : (responses exchanges).length = batches.length) {e : Exchange}
    (hreplied : e.outcome = some (b.provider.reply exchanges.length e.request).outcome)
    (hsends : b.Sends q (roundsOf exchanges batches) e.request.messages
      e.request.previousResponseId)
    (hrepeats : ∀ e' ∈ exchanges.getLast?, e'.completion? = none →
      e.request = { e'.request with responseSchema := none }) :
    b.Follows q (exchanges ++ [e]) batches where
  replied earlier e' hbefore := by
    rcases List.prefix_concat_iff.mp hbefore with heq | hbefore
    · obtain ⟨rfl, he⟩ := List.append_inj' heq rfl
      cases he
      exact hreplied
    · exact h.replied earlier e' hbefore
  gone earlier e' hbefore := by
    rcases List.prefix_concat_iff.mp hbefore with heq | hbefore
    · obtain ⟨rfl, -⟩ := List.append_inj' heq rfl
      exact hlength.le
    · exact h.gone earlier e' hbefore
  sends earlier e' hbefore := by
    rcases List.prefix_concat_iff.mp hbefore with heq | hbefore
    · obtain ⟨rfl, he⟩ := List.append_inj' heq rfl
      cases he
      exact hsends
    · exact h.sends earlier e' hbefore
  repeats := h.repeats.append (.singleton e) fun e' he' e'' he'' => by
    cases he''
    exact hrepeats e' he'
  answered := by
    rw [responses_concat, List.length_append]
    exact hlength.ge.trans (Nat.le_add_right _ _)
  executes := by
    rw [roundsOf_of_responses (responses_concat exchanges e) hlength]
    exact h.executes

/-- **So does the batch of the last response.** -/
theorem Follows.execute (h : b.Follows q exchanges' batches)
    (hresponses : responses exchanges' = responses exchanges ++ [c])
    (hlength : (responses exchanges).length = batches.length)
    (hexecutes : b.Executes q (roundsOf exchanges batches) ⟨c, batch⟩) :
    b.Follows q exchanges' (batches ++ [batch]) where
  replied := h.replied
  gone earlier e hbefore := by
    rw [List.length_append]
    exact (h.gone earlier e hbefore).trans (Nat.le_add_right _ _)
  sends earlier e hbefore := by
    rw [roundsOf_append_right (h.gone earlier e hbefore)]
    exact h.sends earlier e hbefore
  repeats := h.repeats
  answered := by
    rw [hresponses, List.length_append, List.length_append, hlength]
    rfl
  executes earlier round hbefore := by
    rw [roundsOf_concat hresponses hlength] at hbefore
    rcases List.prefix_concat_iff.mp hbefore with heq | hbefore
    · obtain ⟨rfl, hround⟩ := List.append_inj' heq rfl
      cases hround
      exact hexecutes
    · rw [← roundsOf_of_responses hresponses hlength] at hbefore
      exact h.executes earlier round hbefore

/-! ## Turns -/

variable (b q)

/-- **A turn is on its thread** at the beginning of a round: its exchanges
follow the thread, and so does its next request. -/
structure OnThread (t : Turn) : Prop extends b.Follows q t.exchanges t.batches where
  /-- All responses were rounds. -/
  balanced : (responses t.exchanges).length = t.batches.length
  /-- The last request did not fail. -/
  last : ∀ e ∈ t.exchanges.getLast?, e.completion? ≠ none
  /-- The next request sends what is to be sent. -/
  next : b.Sends q (roundsOf t.exchanges t.batches) t.conversation t.chainId

variable {b q} {t t' : Turn} {outcome : Provider.Outcome}

/-- A turn begins on its thread. -/
theorem OnThread.start (b : Responder) (q : Question) : b.OnThread q (b.start q) where
  replied earlier e h := absurd (List.prefix_nil.mp h) (by simp)
  gone earlier e h := absurd (List.prefix_nil.mp h) (by simp)
  sends earlier e h := absurd (List.prefix_nil.mp h) (by simp)
  repeats := .nil
  answered := Nat.le_refl 0
  executes earlier round h := absurd (List.prefix_nil.mp h) (by simp)
  balanced := rfl
  last e h := by cases h
  next := Sends.start b q

/-- **Asking for a response follows the thread**, whether or not it is asked
for again. -/
theorem OnThread.completes (h : b.OnThread q t) (ht : b.Completes q t t' outcome) :
    b.Follows q t'.exchanges t'.batches := by
  have hfirst {outcome : Provider.Outcome}
      (hreply : (b.provider.reply t.exchanges.length (b.roundRequest q t)).outcome = outcome) :
      b.Follows q (t.exchanges ++ [⟨b.roundRequest q t, some outcome⟩]) t.batches :=
    h.toFollows.concat h.balanced (hreply ▸ rfl) h.next fun e he hnone =>
      absurd hnone (h.last e he)
  -- a failed request is no response, so the same rounds lie before it and its repetition
  have hagain {f : Provider.Failure} {outcome : Provider.Outcome}
      (hreply : (b.provider.reply t.exchanges.length (b.roundRequest q t)).outcome = .error f)
      (hformless : (b.provider.reply (b.formless q t f).exchanges.length
        (b.formlessRequest q t)).outcome = outcome) :
      b.Follows q (t.exchanges ++ [⟨b.roundRequest q t, some (.error f)⟩]
        ++ [⟨b.formlessRequest q t, some outcome⟩]) t.batches := by
    refine (hfirst hreply).concat ?_ (hformless ▸ rfl) ?_ fun e he _ => ?_
    · rw [responses_concat]
      exact (congrArg List.length (List.append_nil _)).trans h.balanced
    · rw [roundsOf_of_responses (responses_concat _ _) h.balanced]
      exact h.next
    · rw [List.getLast?_concat] at he
      cases he
      rfl
  cases ht with
  | heard reply => exact hfirst reply
  | refused reply final => exact hfirst reply
  | heardFormless reply rejects again => exact hagain reply again
  | refusedFormless reply rejects again => exact hagain reply again

/-- Asking for a response executes nothing. -/
theorem Completes.batches_eq (ht : b.Completes q t t' outcome) : t'.batches = t.batches := by
  cases ht <;> rfl

theorem Completes.conversation_eq (ht : b.Completes q t t' outcome) :
    t'.conversation = t.conversation := by
  cases ht <;> rfl

theorem Completes.chainId_eq (ht : b.Completes q t t' outcome) : t'.chainId = t.chainId := by
  cases ht <;> rfl

/-- **A response that was heard is the last exchange** and the only one that is
new. -/
theorem Completes.exchanges_of_ok (ht : b.Completes q t t' (.ok c)) :
    (∃ e, t'.exchanges.getLast? = some e ∧ e.completion? = some c)
      ∧ responses t'.exchanges = responses t.exchanges ++ [c] := by
  cases ht with
  | heard reply =>
    exact ⟨⟨_, List.getLast?_concat, rfl⟩, responses_concat _ _⟩
  | heardFormless reply rejects again =>
    refine ⟨⟨_, List.getLast?_concat, rfl⟩, (responses_concat _ _).trans ?_⟩
    exact congrArg (· ++ [c]) ((responses_concat _ _).trans (List.append_nil _))

/-- **The calls of a response are executed after the rounds before it.** -/
theorem OnThread.execute (h : b.OnThread q t) (ht : b.Completes q t t' (.ok c))
    {registry : Tool.Registry} (hoffered : q.offered = some registry)
    (hasks : c.hasToolCalls = true) :
    b.Executes q (roundsOf t.exchanges t.batches) ⟨c, b.execute q registry t' c⟩ := by
  have hinvoked : t'.invoked
      = (roundsOf t.exchanges t.batches).flatMap fun r => r.batch.invoked := by
    conv_lhs => rw [Turn.invoked, ht.batches_eq, ← map_batch_roundsOf h.balanced, List.flatMap_map]
  obtain ⟨sleeps, haccount, -⟩ := Tool.accountFor_execute b.provider.mode b.parallel registry
    q.context t'.invoked c.toolCalls
  rw [hinvoked] at haccount
  exact {
    asks := hasks
    batch := ⟨registry, hoffered, hinvoked ▸ rfl⟩
    accounts := ⟨registry, sleeps, hoffered, hinvoked ▸ haccount⟩
    answers := Tool.forall₂_answers_execute _ _ _ _ _ _ }

/-- **Executed calls follow the thread.** -/
theorem OnThread.executed (h : b.OnThread q t) (ht : b.Completes q t t' (.ok c))
    {registry : Tool.Registry} (hoffered : q.offered = some registry)
    (hasks : c.hasToolCalls = true) :
    b.Follows q t'.exchanges (t'.batches ++ [b.execute q registry t' c]) := by
  have hfollows := h.completes ht
  have hexecutes := h.execute ht hoffered hasks
  rw [ht.batches_eq] at hfollows ⊢
  exact hfollows.execute ht.exchanges_of_ok.2 h.balanced hexecutes

@[simp] theorem exchanges_carryOn (b : Responder) (t : Turn) (c : Completion)
    (outputs : List Item) : (b.carryOn t c outputs).exchanges = t.exchanges := by
  unfold Responder.carryOn
  split <;> rfl

@[simp] theorem batches_carryOn (b : Responder) (t : Turn) (c : Completion) (outputs : List Item) :
    (b.carryOn t c outputs).batches = t.batches := by
  unfold Responder.carryOn
  split <;> rfl

@[simp] theorem schema_carryOn (b : Responder) (t : Turn) (c : Completion) (outputs : List Item) :
    (b.carryOn t c outputs).schema = t.schema := by
  unfold Responder.carryOn
  split <;> rfl

/-- **Every round keeps a turn on its thread.** -/
theorem OnThread.roundsTo (h : b.OnThread q t) (hround : b.RoundsTo q t t') : b.OnThread q t' := by
  cases hround with
  | @calls registry t' c offered completes asks guard =>
    obtain ⟨⟨e, hlast, he⟩, hresponses⟩ := completes.exchanges_of_ok
    have hexchanges : (b.afterRound q registry t' c).exchanges = t'.exchanges :=
      exchanges_carryOn b _ c _
    have hbatches : (b.afterRound q registry t' c).batches
        = t'.batches ++ [b.execute q registry t' c] := batches_carryOn b _ c _
    have hnext : b.Sends q (roundsOf t.exchanges t.batches)
        (t'.executed (b.execute q registry t' c)).conversation
        (t'.executed (b.execute q registry t' c)).chainId := by
      show b.Sends q _ t'.conversation t'.chainId
      rw [completes.conversation_eq, completes.chainId_eq]
      exact h.next
    exact {
      toFollows := by
        rw [hexchanges, hbatches]
        exact h.executed completes offered asks
      balanced := by
        rw [hexchanges, hbatches, hresponses, List.length_append, List.length_append, h.balanced,
          completes.batches_eq]
        rfl
      last := by
        rw [hexchanges, hlast]
        rintro e' ⟨⟩
        simp [he]
      next := by
        rw [hexchanges, hbatches, completes.batches_eq, roundsOf_concat hresponses h.balanced]
        exact hnext.carryOn c (b.execute q registry t' c) }

/-- **What a turn has asked when it ends** follows the thread, up to the rest
of its answer. -/
theorem OnThread.finishes (h : b.OnThread q t) {report : Turn.Report}
    (hreport : b.Finishes q t report) :
    ∃ loop rest, report.turn.exchanges = loop ++ rest ∧ b.Follows q loop report.turn.batches
      ∧ b.Appends q report.turn loop rest := by
  cases hreport with
  | @failed t' f completes =>
    exact ⟨t'.exchanges, [], (List.append_nil _).symm, h.completes completes, .nothing⟩
  | @cutShort registry t' c offered completes asks =>
    exact ⟨t'.exchanges, [], (List.append_nil _).symm, h.executed completes offered asks, .nothing⟩
  | @answered t' c completes answers =>
    have hfollows := h.completes completes
    obtain ⟨⟨e, hlast, he⟩, -⟩ := completes.exchanges_of_ok
    rcases finish_cases b q t' c with ⟨-, heq⟩ | ⟨id, hid, ⟨rest, hreply, heq⟩ | ⟨f, hreply, heq⟩⟩
    · rw [heq]
      exact ⟨t'.exchanges, [], (List.append_nil _).symm, hfollows, .nothing⟩
    · rw [heq]
      exact ⟨t'.exchanges, _, hreply ▸ rfl, hfollows, .rest hlast he answers hid⟩
    · rw [heq]
      exact ⟨t'.exchanges, _, hreply ▸ rfl, hfollows, .rest hlast he answers hid⟩

/-- **No request of a turn loses anything or says anything twice.** All that a
turn asks, the rest of its answer aside, follows the thread of the question:
each request sends what there is to say after the rounds of calls before it,
or, behind the last of their responses with an id, what came after that. -/
theorem exchanges_answer (b : Responder) (q : Question) :
    let t := (b.answer q).turn
    ∃ loop rest, t.exchanges = loop ++ rest ∧ b.Follows q loop t.batches
      ∧ b.Appends q t loop rest :=
  rounds_induction (P := b.OnThread q)
    (Q := fun report => ∃ loop rest, report.turn.exchanges = loop ++ rest
      ∧ b.Follows q loop report.turn.batches ∧ b.Appends q report.turn loop rest)
    (fun _ _ h hround => h.roundsTo hround) (fun _ _ h hreport => h.finishes hreport) _
    (.start b q)

/-- A responder whose provider's replies are written down. -/
def hearing (mode : Provider.Mode) (replies : List Provider.Outcome) : Responder where
  provider := .ofScript mode 0 { outcomes := replies }

end Responder

/-- A question that may take looking something up. -/
def Question.whereIsIt (schema : Option Json) : Question where
  text := "Where is it?"
  tools := some ⟨[.lookUp]⟩
  responseSchema := schema

/-- The question after a greeting, behind some response and under a prompt of its own. -/
def Question.afterGreeting : Question :=
  { whereIsIt none with
    history := [⟨.user, "Hello."⟩, ⟨.assistant, "Good morning."⟩]
    previousResponseId := some "greeting"
    systemPrompt := some "Be brief." }

namespace Responder

/-- Four requests for an answer. Of the responses in between only the second has an id:
a responses provider is sent everything until then, and thereafter what came after that
response. A chat provider is sent everything each time, and the prompt in front of it. -/
theorem exchanges_answer_afterGreeting :
    let replies : List Provider.Outcome :=
      [.ok (.lookUp none), .ok (.lookUp (some "second")), .ok { toolCalls := [.lookUp, .lookUp] },
        .ok { content := "Here it is." }]
    let turn := fun mode => ((hearing mode replies).answer .afterGreeting).turn
    let sent := fun mode => (turn mode).requests.map fun request =>
      (request.messages, request.previousResponseId)
    let asked : List Item :=
      [.ofText .user "Hello.", .ofText .assistant "Good morning.", .ofText .user "Where is it?"]
    let prompted := .ofText .system "Be brief." :: asked
    let called : Item := .message .assistant (.text "") [.lookUp]
    let calledTwice : Item := .message .assistant (.text "") [.lookUp, .lookUp]
    let output : Item := .callOutput "call" "found"
    let result : Item := .toolResult "look_up" "call" "found"
    sent .responses
        == [(asked, some "greeting"), (asked ++ [called, output], some "greeting"),
          ([output], some "second"), ([output, calledTwice, output, output], some "second")]
      ∧ sent .chatCompletions
        == [(prompted, some "greeting"), (prompted ++ [called, result], some "greeting"),
          (prompted ++ [called, result, called, result], some "greeting"),
          (prompted ++ [called, result, called, result, calledTwice, result, result],
            some "greeting")]
      ∧ ∀ mode, ∃ loop rest, (turn mode).exchanges = loop ++ rest
          ∧ (hearing mode replies).Follows .afterGreeting loop (turn mode).batches
          ∧ (hearing mode replies).Appends .afterGreeting (turn mode) loop rest :=
  ⟨by decide +kernel, by decide +kernel, fun mode => exchanges_answer (hearing mode _) .afterGreeting⟩

end Responder

end Colloquy
