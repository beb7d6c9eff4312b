import Colloquy.Proofs.Agent.Growth
import Colloquy.Proofs.Agent.Ledger
import Colloquy.Proofs.Turn.Rounds
import Colloquy.Proofs.Usage

/-!
# Turns and runs agree

A turn and a run can be about the same: a question with its history on one
side, a conversation of the same texts on the other. With a chat provider
they then ask the same, request by request, and come to the same answer for
the same tokens, as long as neither of them stops for a limit
(`comeToTheSame_answer_run`). They get there by different ways. A turn adds the
payloads of records to what it has sent before; a run keeps messages, notes
calls with them as JSON, and puts all of that before the provider anew.

What carries the proof is `Agrees`, which holds before every request: what
the turn has sent is the system prompt and what the run's messages are sent
as. A round of calls keeps it (`Agrees.afterRound`), so it holds until the
last response, from which both take the same answer (`Agrees.close`). Handlers
may do what they like with what they are given: both loops call the same tools
in the same order, so even the count of earlier calls is the same.
-/

namespace Colloquy

open Provider (Completion Item Outcome Reply Request)
open Tool (Batch Record)

/-- **A chat provider whose replies depend on how many requests were made
before**, and on nothing else. -/
def Provider.chatting (script : Nat → Reply) : Provider where
  mode := .chatCompletions
  reply earlier _ := script earlier

/-- **The conversation of a question**, below a system prompt. -/
def Question.messages (q : Question) (s : String) : List Message :=
  .system s :: (q.history.map (fun r => .ofText r.role r.content) ++ [.user q.text])

/-- What a guard has seen of responses. -/
def Agent.guardAfter (a : Agent) (t : Task) (cs : List Completion) : LoopGuard :=
  (afterEach (a.batchAfter t) cs).foldl (fun g batch => g.observe batch.records) {}

/-- **How long responses and their calls take**, with the delays of a
script. -/
def Agent.timeAfter (a : Agent) (t : Task) (script : Nat → Reply) (cs : List Completion) : Nat :=
  (afterEach
    (fun earlier c => (script earlier.length).delay + (a.batchAfter t earlier c).duration) cs).sum

/-- **A script asks for calls**, so often and in this way, and then comes to an
end: with a failure, or with a response that is complete without calls. -/
structure Plays (script : Nat → Reply) (cs : List Completion) (last : Outcome) : Prop where
  /-- The calls. -/
  calls : ∀ k c, cs[k]? = some c → (script k).outcome = .ok c ∧ c.hasToolCalls = true
  /-- The end. -/
  ending : (script cs.length).outcome = last
  /-- It asks for nothing further. -/
  complete : ∀ c, last = .ok c → c.hasToolCalls = false ∧ c.unfinished? = none

/-- **No limit is reached** before a script comes to its end. -/
structure WithinLimits (a : Agent) (t : Task) (b : Responder) (script : Nat → Reply)
    (cs : List Completion) : Prop where
  /-- There are steps left for the last response. -/
  steps : cs.length < a.limits.maxSteps
  /-- There are not too many calls. -/
  calls : (cs.map fun c => c.toolCalls.length).sum ≤ a.limits.maxToolCalls
  /-- There are not too many rounds. -/
  rounds : cs.length < max b.maxRounds 1
  /-- The rounds do not repeat themselves. -/
  repeats : ∀ earlier, earlier <+: cs → (a.guardAfter t earlier).tripped = false
  /-- The last response is there by the deadline. -/
  intime : a.timeAfter t script cs + (script cs.length).delay ≤ a.limits.deadline

/-- **A question and a run about the same**, put before the same provider with
the same tools, none of which may add anything. -/
structure SameMatter (script : Nat → Reply) (s : String) (a : Agent) (t : Task) (b : Responder)
    (q : Question) : Prop where
  /-- Who is asked by the run. -/
  runProvider : a.provider = .chatting script
  /-- Who is asked by the turn. -/
  turnProvider : b.provider = .chatting script
  /-- The tools. -/
  tools : q.tools = some a.registry
  /-- There are some. -/
  offered : a.registry.isEmpty = false
  /-- No tool is trusted. -/
  untrusted : a.trust.tools = []
  /-- On whose behalf tools are called. -/
  context : q.context = t.context
  /-- The run is to have no particular form. -/
  runSchema : t.responseSchema = none
  /-- Nor is the turn. -/
  turnSchema : q.responseSchema = none
  /-- The question is a text. -/
  rawContent : q.rawContent = none
  /-- The system prompt. -/
  prompt : q.systemPrompt.getD b.systemPrompt = s
  /-- It is not blank. -/
  notBlank : Text.isBlankText s = false
  /-- The history is one of a person and the model. -/
  history : ∀ r ∈ q.history, r.role = .user ∨ r.role = .assistant

/-- **A turn asks what a run asks**, with the system prompt on top. -/
structure Asks (s : String) (asked sent : Request) : Prop where
  /-- The messages. -/
  messages : asked.messages = .ofText .system s :: sent.messages
  /-- The tools on offer. -/
  tools : asked.tools = sent.tools

/-- **A turn and a run agree** after responses. -/
structure Agrees (script : Nat → Reply) (s : String) (a : Agent) (t : Task) (q : Question)
    (cs : List Completion) (u : Turn) (r : Run) : Prop where
  /-- The run's accounts are right. -/
  ledger : a.Ledger t (q.messages s) r
  /-- It has heard the responses. -/
  heard : r.completions = cs
  /-- What the turn has sent is what the run's messages are sent as. -/
  conversation : u.conversation = .ofText .system s :: a.renderer.items r.messages
  /-- They have asked the same. -/
  asked : List.Forall₂ (Asks s) u.requests r.requests
  /-- They have used the same tokens. -/
  usage : u.usage = r.usage
  /-- They have invoked the same tools. -/
  invoked : u.invoked = r.invoked
  /-- The turn asks for no form. -/
  schema : u.schema = none
  /-- The guard has seen the rounds. -/
  guard : u.guard = a.guardAfter t cs
  /-- The clock shows how long they took. -/
  clock : r.clock = a.timeAfter t script cs

/-- What is answered at the end of a script. -/
def answerOf : Outcome → Except Failure Json
  | .ok c => .ok (.str c.content)
  | .error f => .error (.request f)

/-- **A turn and a run come to the same** with the last reply. -/
structure ComeToTheSame (s : String) (last : Outcome) (turn : Turn.Report) (run : Run.Report) :
    Prop where
  /-- They have asked the same, request by request. -/
  asked : List.Forall₂ (Asks s) turn.turn.requests run.run.requests
  /-- The turn answers with it. -/
  turnAnswer : turn.outcome.map Generation.payload = answerOf last
  /-- So does the run. -/
  runAnswer : run.payload = answerOf last
  /-- They have used the same tokens. -/
  tokens : ∀ g, turn.outcome = .ok g → g.usage.total?.getD 0 = run.run.usage.total

/-! ## What both make of the same -/

/-- Without trusted tools nothing is let in. -/
theorem Trust.admitted_of_untrusted {trust : Trust} (h : trust.tools = []) (record : Record) :
    trust.admitted record = [] := by
  unfold admitted
  refine List.filterMap_eq_nil_iff.mpr fun directive _ => ?_
  cases directive with
  | append m => simp [admit?, allows, h]

/-- Texts that were said are sent as they are. -/
theorem Renderer.items_map_remarks (r : Renderer) {history : List Remark}
    (h : ∀ remark ∈ history, remark.role = .user ∨ remark.role = .assistant) :
    r.items (history.map fun remark => .ofText remark.role remark.content)
      = history.map fun remark => .ofText remark.role remark.content := by
  induction history with
  | nil => rfl
  | cons remark history ih =>
    have hrest := ih fun remark' h' => h remark' (List.mem_cons_of_mem _ h')
    rw [List.map_cons, List.map_cons, items_ofText_cons r (h remark List.mem_cons_self), hrest]

namespace Agent

variable (a : Agent) (t : Task)

/-- A guard sees one response more. -/
theorem guardAfter_concat (cs : List Completion) (c : Completion) :
    a.guardAfter t (cs ++ [c]) = (a.guardAfter t cs).observe (a.batchAfter t cs c).records := by
  unfold guardAfter
  rw [afterEach_concat, List.foldl_append]
  rfl

/-- One response more takes its time. -/
theorem timeAfter_concat (script : Nat → Reply) (cs : List Completion) (c : Completion) :
    a.timeAfter t script (cs ++ [c])
      = a.timeAfter t script cs
        + ((script cs.length).delay + (a.batchAfter t cs c).duration) := by
  unfold timeAfter
  rw [afterEach_concat, List.sum_append, List.sum_singleton]

/-- More responses take more time. -/
theorem timeAfter_le_of_prefix (script : Nat → Reply) {cs ds : List Completion} (h : cs <+: ds) :
    a.timeAfter t script cs ≤ a.timeAfter t script ds := by
  obtain ⟨rest, rfl⟩ := h
  induction rest using List.reverseRecOn with
  | nil => rw [List.append_nil]
  | append_singleton rest c ih =>
    rw [← List.append_assoc, timeAfter_concat]
    omega

/-- More responses ask for more calls. -/
theorem callCount_le_of_prefix {cs ds : List Completion} (h : cs <+: ds) :
    callCount cs ≤ (ds.map fun c => c.toolCalls.length).sum := by
  obtain ⟨rest, rfl⟩ := h
  rw [List.map_append, List.sum_append]
  exact (Nat.min_le_left _ _).trans (Nat.le_add_right _ _)

end Agent

variable {script : Nat → Reply} {s : String} {a : Agent} {t : Task} {b : Responder} {q : Question}
variable {cs : List Completion} {u : Turn} {r : Run} {c : Completion}

/-! ## Before every request they agree -/

namespace SameMatter

variable (h : SameMatter script s a t b q)
include h

/-- The run asks a chat provider. -/
theorem runMode : a.provider.mode = .chatCompletions := by
  rw [h.runProvider]
  rfl

/-- So does the turn. -/
theorem turnMode : b.provider.mode = .chatCompletions := by
  rw [h.turnProvider]
  rfl

/-- The turn offers the tools of the run. -/
theorem offered_eq : q.offered = some a.registry := by
  unfold Question.offered
  rw [h.tools, Option.filter_some, h.offered]
  rfl

/-- **The turn begins with what the run's messages are sent as.** -/
theorem opening_eq : b.opening q = .ofText .system s :: a.renderer.items (q.messages s) := by
  have hprompt : b.prompt q = some s := by
    unfold Responder.prompt
    rw [h.prompt, Option.filter_some, h.notBlank]
    rfl
  have hitem : q.item = .ofText .user q.text := by
    unfold Question.item
    rw [h.rawContent]
    rfl
  unfold Responder.opening Question.messages
  rw [h.turnMode, hprompt, hitem, Renderer.items_system_cons, Renderer.items_append,
    Renderer.items_map_remarks _ h.history]
  rfl

/-- **They agree before anything was said.** -/
theorem start : Agrees script s a t q [] (b.start q) (.start a t (q.messages s)) where
  ledger := .start a t (q.messages s)
  heard := rfl
  conversation := h.opening_eq
  asked := .nil
  usage := rfl
  invoked := rfl
  schema := h.turnSchema
  guard := rfl
  clock := rfl

/-- **Both execute calls with the same records**, at once or one after the
other. -/
theorem execute_records (hinvoked : u.invoked = r.invoked) (c : Completion) :
    (b.execute q a.registry u c).records = (a.execute t r c).records := by
  unfold Responder.execute Agent.execute
  rw [h.turnMode, h.runMode, h.context, hinvoked]
  rfl

/-- Both invoke the same tools. -/
theorem execute_invoked (hinvoked : u.invoked = r.invoked) (c : Completion) :
    (b.execute q a.registry u c).invoked = (a.execute t r c).invoked := by
  unfold Responder.execute Agent.execute
  rw [h.turnMode, h.runMode, h.context, hinvoked]
  rfl

/-- Executed calls add the payloads of their records to what is sent. -/
theorem items_callMessages (r : Run) (c : Completion) :
    a.renderer.items (a.callMessages c (a.execute t r c))
      = .message .assistant (.text c.content) c.toolCalls ::
          (a.execute t r c).records.map Record.payload := by
  have hitems : a.recordItems = fun record => [record.payload] := by
    funext record
    rw [Agent.recordItems, Trust.admitted_of_untrusted h.untrusted]
    rfl
  rw [Agent.items_callMessages h.runMode, hitems, ← List.map_eq_flatMap]

end SameMatter

namespace Agrees

variable (h : Agrees script s a t q cs u r)
include h

/-- The run has made one request for each response. -/
theorem length_run : r.exchanges.length = cs.length := by
  rw [← List.length_map Provider.Exchange.completion?, h.ledger.answered, List.length_map,
    h.heard]

/-- So has the turn. -/
theorem length_turn : u.exchanges.length = cs.length := by
  have hlength := h.asked.length_eq
  rw [Turn.requests, Run.requests, List.length_map, List.length_map, h.length_run] at hlength
  exact hlength

/-- **The next requests are the same.** -/
theorem asks (hsame : SameMatter script s a t b q) :
    Asks s (b.roundRequest q u) (a.request t r) where
  messages := by
    show u.conversation = .ofText .system s :: a.outgoing r
    rw [h.conversation, Agent.outgoing_of_chat hsame.runMode]
  tools := by
    show (q.offered.map Tool.Registry.definitions).getD [] = a.registry.definitions
    rw [hsame.offered_eq]
    rfl

/-- The run hears the script. -/
theorem replyTo_eq (hsame : SameMatter script s a t b q) : a.replyTo t r = script cs.length := by
  unfold Agent.replyTo
  rw [hsame.runProvider, h.length_run]
  rfl

/-- So does the turn. -/
theorem reply_eq (hsame : SameMatter script s a t b q) :
    b.provider.reply u.exchanges.length (b.roundRequest q u) = script cs.length := by
  rw [hsame.turnProvider, h.length_turn]
  rfl

/-- The run executes the calls that the responses lead to. -/
theorem execute_eq (c : Completion) : a.execute t r c = a.batchAfter t cs c := by
  rw [h.ledger.execute_eq, h.heard]

/-- The run takes the next response and its calls as long as the responses
do. -/
theorem clock_eq (hsame : SameMatter script s a t b q) (c : Completion) :
    r.clock + (a.replyTo t r).delay + (a.execute t r c).duration
      = a.timeAfter t script (cs ++ [c]) := by
  rw [h.replyTo_eq hsame, h.execute_eq, h.clock, Agent.timeAfter_concat, Nat.add_assoc]

/-- **A round of calls is a step of the run.** -/
theorem stepsTo (hsame : SameMatter script s a t b q)
    (hreply : (script cs.length).outcome = .ok c) (hasks : c.hasToolCalls = true)
    (hcalls : Agent.callCount (cs ++ [c]) ≤ a.limits.maxToolCalls) {time : Nat}
    (htime : a.timeAfter t script (cs ++ [c]) ≤ time) :
    a.StepsTo t (some time) r c (a.afterCalls t r c) := by
  have hdone := h.clock_eq hsame c
  refine .calls ⟨?_, Agent.missed?_of_le ?_⟩ hasks ?_ (Agent.missed?_of_le ?_)
  · rw [h.replyTo_eq hsame, hreply]
  · omega
  · rw [h.ledger.callsUsed, h.heard, Agent.plusCalls_callCount]
    exact hcalls
  · omega

/-- **A round of calls keeps the agreement.** -/
theorem afterRound (hsame : SameMatter script s a t b q) {d : Option Nat}
    (hstep : a.StepsTo t d r c (a.afterCalls t r c)) :
    Agrees script s a t q (cs ++ [c])
      (b.afterRound q a.registry (u.heard (b.roundRequest q u) c) c) (a.afterCalls t r c) := by
  have hinvoked : (u.heard (b.roundRequest q u) c).invoked = r.invoked := h.invoked
  have hrecords := hsame.execute_records hinvoked c
  rw [Responder.afterRound_of_chat hsame.turnMode]
  exact {
    ledger := h.ledger.step hstep
    heard := by rw [hstep.completions_eq, h.heard]
    conversation := by
      show u.conversation ++ _ = _ :: a.renderer.items (r.messages ++ a.callMessages c _)
      rw [h.conversation, hrecords, Renderer.items_append, hsame.items_callMessages]
      rfl
    asked := by
      rw [hstep.requests_eq]
      show List.Forall₂ (Asks s) ((u.exchanges ++ [_]).map _) _
      rw [List.map_append]
      exact List.rel_append h.asked (.cons (h.asks hsame) .nil)
    usage := congrArg (Usage.Sum.add · c.usage) h.usage
    invoked := by
      show (u.batches ++ [_]).flatMap Batch.invoked = (r.batches ++ [_]).flatMap Batch.invoked
      rw [List.flatMap_append, List.flatMap_append, List.flatMap_singleton,
        List.flatMap_singleton, hsame.execute_invoked hinvoked]
      exact congrArg (· ++ _) h.invoked
    schema := h.schema
    guard := by
      show u.guard.observe _ = _
      rw [Agent.guardAfter_concat, h.guard, hrecords, h.execute_eq]
    clock := h.clock_eq hsame c }

/-- **The last response leads both to the same.** -/
theorem close (hsame : SameMatter script s a t b q) {last : Outcome}
    (hplays : Plays script cs last) {time : Nat}
    (htime : a.timeAfter t script cs + (script cs.length).delay ≤ time) (m n : Nat) :
    ComeToTheSame s last (b.rounds q m u) (a.steps t (some time) (n + 1) r) := by
  have hasked : List.Forall₂ (Asks s) (u.requests ++ [b.roundRequest q u])
      (r.requests ++ [a.request t r]) :=
    List.rel_append h.asked (.cons (h.asks hsame) .nil)
  have hintime : Agent.missed? (some time) (r.clock + (a.replyTo t r).delay) = none := by
    rw [h.replyTo_eq hsame, h.clock]
    exact Agent.missed?_of_le htime
  have hreply : (b.provider.reply u.exchanges.length (b.roundRequest q u)).outcome = last := by
    rw [h.reply_eq hsame, hplays.ending]
  have hreplyTo : (a.replyTo t r).outcome = last := by
    rw [h.replyTo_eq hsame, hplays.ending]
  cases last with
  | error f =>
    have hcloses : a.Closes t (some time) r _ := .failed hreplyTo hintime
    have hfinal : (u.schema.isSome && f.rejectsSchema) = false := by rw [h.schema]; rfl
    rw [hcloses.steps_eq,
      Responder.rounds_of_failure (Responder.complete_of_failure hfinal hreply)]
    exact {
      asked := by
        show List.Forall₂ (Asks s) ((u.exchanges ++ [_]).map _) ((r.exchanges ++ [_]).map _)
        rw [List.map_append, List.map_append]
        exact hasked
      turnAnswer := rfl
      runAnswer := rfl
      tokens := fun g hg => by cases hg }
  | ok c =>
    obtain ⟨hasks, hcomplete⟩ := hplays.complete c rfl
    have hvalidator : r.validator = none := by
      rw [h.ledger.validator, Agent.validatorAfter, hsame.runSchema]
      rfl
    have hcloses : a.Closes t (some time) r _ := .answered ⟨hreplyTo, hintime⟩ hasks hvalidator
    rw [hcloses.steps_eq,
      Responder.rounds_of_answer (Responder.complete_of_completion hreply) hasks,
      Responder.finish_of_complete hcomplete]
    exact {
      asked := by
        show List.Forall₂ (Asks s) ((u.exchanges ++ [_]).map _) ((r.exchanges ++ [_]).map _)
        rw [List.map_append, List.map_append]
        exact hasked
      turnAnswer := by
        show Except.ok ((u.heard _ c).payload c.content) = _
        unfold Turn.payload
        rw [if_neg (by simp [Turn.heard, h.schema])]
        rfl
      runAnswer := rfl
      tokens := fun g hg => by
        cases hg
        show (u.usage.add c.usage).total?.getD 0 = (r.usage.add c.usage).total
        rw [Usage.Sum.getD_total?, h.usage] }

end Agrees

/-- **Whatever a script has left to ask for, both come to the same.** -/
theorem comeToTheSame_of_agrees (hsame : SameMatter script s a t b q) {all : List Completion}
    {last : Outcome} (hplays : Plays script all last) (hlimits : WithinLimits a t b script all)
    (m n : Nat) (rest : List Completion) (h : Agrees script s a t q cs u r)
    (hall : cs ++ rest = all) :
    ComeToTheSame s last (b.rounds q (rest.length + m) u)
      (a.steps t (some a.limits.deadline) (rest.length + n + 1) r) := by
  induction rest generalizing cs u r with
  | nil =>
    -- the next reply is the last one
    rw [List.append_nil] at hall
    subst hall
    exact h.close hsame hplays hlimits.intime _ _
  | cons c rest ih =>
    have hprefix : cs ++ [c] <+: all := ⟨rest, by rw [← hall, List.append_assoc]; rfl⟩
    have hc : all[cs.length]? = some c := by
      rw [← hall, List.getElem?_append_right (Nat.le_refl _), Nat.sub_self]
      rfl
    obtain ⟨hreply, hasks⟩ := hplays.calls _ c hc
    have hcalls : Agent.callCount (cs ++ [c]) ≤ a.limits.maxToolCalls :=
      (Agent.callCount_le_of_prefix hprefix).trans hlimits.calls
    have htime : a.timeAfter t script (cs ++ [c]) ≤ a.limits.deadline :=
      (a.timeAfter_le_of_prefix t script hprefix).trans
        ((Nat.le_add_right _ _).trans hlimits.intime)
    have hstep := h.stepsTo hsame hreply hasks hcalls htime
    have hnext := h.afterRound hsame hstep
    have hround : b.complete q u = (u.heard (b.roundRequest q u) c, .ok c) :=
      Responder.complete_of_completion (by rw [h.reply_eq hsame, hreply])
    -- the guard sees the records of the turn, the limits speak of those of the run
    have hguard : ((u.heard (b.roundRequest q u) c).executed
        (b.execute q a.registry (u.heard (b.roundRequest q u) c) c)).guard.tripped = false := by
      have hseen := hnext.guard
      rw [Responder.afterRound_of_chat hsame.turnMode] at hseen
      exact hseen ▸ hlimits.repeats _ hprefix
    rw [List.length_cons, show rest.length + 1 + m = rest.length + m + 1 by omega,
      show rest.length + 1 + n + 1 = rest.length + n + 1 + 1 by omega,
      Responder.rounds_of_calls hsame.offered_eq hround hasks hguard, hstep.steps_eq]
    exact ih hnext (by rw [← hall, List.append_assoc]; rfl)

/-- **Turns and runs agree.** With a chat provider whose script comes to its
end before any limit is reached, a turn about a question and a run about the
same conversation ask the same requests – the turn's with the system prompt
on top – with the same tools, give the same answer or fail for the same
reason, and use the same tokens. -/
theorem comeToTheSame_answer_run (hsame : SameMatter script s a t b q) {last : Outcome}
    (hplays : Plays script cs last) (hlimits : WithinLimits a t b script cs) :
    ComeToTheSame s last (b.answer q) (a.run t (q.messages s)) := by
  obtain ⟨m, hm⟩ : ∃ m, b.maxRounds - 1 = cs.length + m := by
    have hrounds := hlimits.rounds
    exact ⟨b.maxRounds - 1 - cs.length, by omega⟩
  obtain ⟨n, hn⟩ : ∃ n, a.limits.maxSteps = cs.length + n + 1 := by
    have hsteps := hlimits.steps
    exact ⟨a.limits.maxSteps - cs.length - 1, by omega⟩
  unfold Responder.answer Agent.run Agent.runUntil
  rw [hm, hn]
  exact comeToTheSame_of_agrees hsame hplays hlimits m n cs hsame.start (List.nil_append cs)

/-- A turn and a run that look something up come to the same. -/
theorem comeToTheSame_answer_run_lookingUp :
    let script := fun n => { outcome := .ok (if n = 0 then .lookUp none else { content := "Here." }) }
    let a : Agent := { provider := .chatting script, registry := ⟨[.lookUp]⟩ }
    let b : Responder := { provider := .chatting script, systemPrompt := "Be brief." }
    let q : Question :=
      { history := [⟨.user, "Hello."⟩, ⟨.assistant, "Hi."⟩], text := "Where is it?"
        tools := some ⟨[.lookUp]⟩ }
    SameMatter script "Be brief." a {} b q
      ∧ Plays script [.lookUp none] (.ok { content := "Here." })
      ∧ WithinLimits a {} b script [.lookUp none]
      ∧ ComeToTheSame "Be brief." (.ok { content := "Here." }) (b.answer q)
        (a.run {} (q.messages "Be brief.")) := by
  intro script a b q
  have hsame : SameMatter script "Be brief." a {} b q := {
    runProvider := rfl
    turnProvider := rfl
    tools := rfl
    offered := rfl
    untrusted := rfl
    context := rfl
    runSchema := rfl
    turnSchema := rfl
    rawContent := rfl
    prompt := rfl
    notBlank := by decide
    history := by decide }
  have hplays : Plays script [.lookUp none] (.ok { content := "Here." }) := {
    calls := fun k c hc => by
      rcases k with - | k
      · cases hc
        exact ⟨rfl, rfl⟩
      · cases hc
    ending := rfl
    complete := fun c hc => by
      cases hc
      exact ⟨rfl, rfl⟩ }
  have hlimits : WithinLimits a {} b script [.lookUp none] := {
    steps := by decide
    calls := by decide
    rounds := by decide
    repeats := fun earlier hearlier => by
      rcases List.prefix_cons_iff.mp hearlier with rfl | ⟨rest, rfl, hrest⟩
      · rfl
      · cases List.prefix_nil.mp hrest
        rfl
    intime := Nat.zero_le _ }
  exact ⟨hsame, hplays, hlimits, comeToTheSame_answer_run hsame hplays hlimits⟩

end Colloquy
