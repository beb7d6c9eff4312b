import Colloquy.Proofs.Turn.Form
import Colloquy.Proofs.Turn.Stopping
import Mathlib.Data.List.TakeWhile

/-!
# The rest of an answer

The final response of a turn is the first one that asks for nothing, or the first at all if
there is nothing to ask for (`Responder.IsFinal`). It may be cut off at the limit on its
length. If it has an id, one more request asks for the rest: it is made like the request
that the response answers, but says only one thing, offers no tools and follows the response
(`Provider.Request.forRest`). Whatever comes of it ends the turn. If there is a rest, the two
texts are one answer, which goes by the second response in all else; if there is none, its
failure is that of the turn (`Responder.Continues`).

The reason why a response was cut off is looked at in two ways, once as it is and once
without the blanks around it. It makes no difference, since no blank is a part of what is
looked for (`Usage.namesLengthLimit_iff`).

A final response cannot have another one in front of it. So for whole turns it is enough to
know what comes of one final response, wherever it is (`Responder.EndsAt`), and the rounds
before it need to keep no more than that they were not final.
-/

namespace Colloquy

open Provider (Completion Exchange Outcome Request)
open Tool (Batch Record Registry)
open Turn (responses)

/-! ## What is cut off -/

namespace Text

variable {c : Char} {blanks cs needle : List Char}

/-- Blanks are no capitals. -/
theorem smallForm_of_blank (h : isBlank c = true) : smallForm c = [c] := by
  have hcapital : ¬ ('A' ≤ c ∧ c ≤ 'Z') := by
    rintro ⟨hA, hZ⟩
    have hA' : 65 ≤ c.toNat := hA
    have hZ' : c.toNat ≤ 90 := hZ
    simp [isBlank] at h
    omega
  have hother {d : Char} (hd : isBlank d = false) : c ≠ d := by
    rintro rfl
    exact absurd h (Bool.eq_false_iff.mp hd)
  unfold smallForm
  rw [if_neg hcapital, if_neg (hother (by decide)), if_neg (hother (by decide))]

theorem inSmallLetters_append (cs ds : List Char) :
    inSmallLetters (cs ++ ds) = inSmallLetters cs ++ inSmallLetters ds :=
  List.flatMap_append

theorem inSmallLetters_of_blank (h : ∀ c ∈ blanks, isBlank c = true) :
    inSmallLetters blanks = blanks := by
  induction blanks with
  | nil => rfl
  | cons c blanks ih =>
    have ih := ih fun d hd => h d (List.mem_cons_of_mem c hd)
    rw [inSmallLetters] at ih ⊢
    rw [List.flatMap_cons, smallForm_of_blank (h c List.mem_cons_self), ih, List.singleton_append]

/-- **What has no blank at its beginning is not found among blanks.** -/
theorem infix_append_iff_of_blank (hneedle : isBlank c = false)
    (h : ∀ d ∈ blanks, isBlank d = true) : c :: needle <:+: blanks ++ cs ↔ c :: needle <:+: cs := by
  induction blanks with
  | nil => rfl
  | cons d blanks ih =>
    rw [List.cons_append, List.infix_cons_iff, ih fun d' hd' => h d' (List.mem_cons_of_mem d hd')]
    refine or_iff_right fun hbegins => ?_
    rw [(List.cons_prefix_cons.mp hbegins).1, h d List.mem_cons_self] at hneedle
    cases hneedle

/-- So what has no blank at its end is not found among them either. -/
theorem infix_append_iff_of_blank_right {d : Char} (hneedle : isBlank d = false)
    (h : ∀ d ∈ blanks, isBlank d = true) :
    needle ++ [d] <:+: cs ++ blanks ↔ needle ++ [d] <:+: cs := by
  have hblanks : ∀ d ∈ blanks.reverse, isBlank d = true := fun d hd => h d (List.mem_reverse.mp hd)
  have hreversed : d :: needle.reverse <:+: blanks.reverse ++ cs.reverse
      ↔ d :: needle.reverse <:+: cs.reverse := infix_append_iff_of_blank hneedle hblanks
  rwa [← List.reverse_append, ← List.reverse_concat, List.reverse_infix, List.reverse_infix]
    at hreversed

/-- **So it makes no difference whether a text is trimmed.** -/
theorem infix_trimmed_iff {d : Char} (hc : isBlank c = false) (hd : isBlank d = false)
    (hlast : (c :: needle).getLast? = some d) (cs : List Char) :
    c :: needle <:+: inSmallLetters cs ↔ c :: needle <:+: inSmallLetters (trimChars cs) := by
  obtain ⟨front, hfront⟩ := List.getLast?_eq_some_iff.mp hlast
  have hbefore : ∀ c ∈ cs.takeWhile isBlank, isBlank c = true :=
    fun c h => List.mem_takeWhile_imp h
  have hafter : ∀ c ∈ ((trimStart cs).reverse.takeWhile isBlank).reverse, isBlank c = true :=
    fun c h => List.mem_takeWhile_imp (List.mem_reverse.mp h)
  have hsplit : trimStart cs
      = trimChars cs ++ ((trimStart cs).reverse.takeWhile isBlank).reverse := by
    rw [trimChars, trimEnd, ← List.reverse_append, List.takeWhile_append_dropWhile,
      List.reverse_reverse]
  conv_lhs => rw [← List.takeWhile_append_dropWhile (p := isBlank) (l := cs),
    inSmallLetters_append, inSmallLetters_of_blank hbefore]
  rw [infix_append_iff_of_blank hc hbefore]
  show c :: needle <:+: inSmallLetters (trimStart cs) ↔ _
  rw [hsplit, inSmallLetters_append, inSmallLetters_of_blank hafter, hfront]
  exact infix_append_iff_of_blank_right hd hafter

end Text

/-- **A reason for being incomplete is the limit on the length of an answer** if it is
`max_tokens` or names `max_output`, in whatever letters and with whatever blanks around it. -/
def Usage.NamesLengthLimit (reason : String) : Prop :=
  let trimmed := Text.inSmallLetters (Text.trimChars reason.toList)
  trimmed = "max_tokens".toList ∨ "max_output".toList <:+: trimmed

theorem Usage.namesLengthLimit_iff {reason : String} :
    namesLengthLimit reason = true ↔ NamesLengthLimit reason := by
  have hmentions : Text.mentions reason "max_output" = true
      ↔ "max_output".toList <:+: Text.inSmallLetters (Text.trimChars reason.toList) := by
    have htrimmed : "max_output".toList <:+: Text.inSmallLetters reason.toList
        ↔ "max_output".toList <:+: Text.inSmallLetters (Text.trimChars reason.toList) :=
      Text.infix_trimmed_iff (d := 't') (by decide) (by decide) rfl reason.toList
    rw [← htrimmed, Text.mentions, Text.occursIn_iff]
    exact ⟨fun ⟨a, b, h⟩ => ⟨a, b, h.symm⟩, fun ⟨a, b, h⟩ => ⟨a, b, h.symm⟩⟩
  rw [namesLengthLimit, NamesLengthLimit, Bool.or_eq_true, hmentions, beq_iff_eq]
  exact or_comm

namespace Provider

/-- **A response has a rest that can be asked for** under its id: it is incomplete, because
of the limit on its length. -/
structure Completion.HasRest (c : Completion) (id : String) : Prop where
  /-- It is incomplete. -/
  incomplete : c.usage.status = some "incomplete"
  /-- It was cut off at the limit. -/
  limit : ∃ reason, c.usage.incompleteReason = some reason ∧ Usage.NamesLengthLimit reason
  /-- It has an id. -/
  responseId : c.responseId = some id

theorem Completion.unfinished?_eq_some_iff {c : Completion} {id : String} :
    c.unfinished? = some id ↔ c.HasRest id := by
  have hcutOff : c.usage.cutOff = true ↔ c.usage.status = some "incomplete"
      ∧ ∃ reason, c.usage.incompleteReason = some reason ∧ Usage.NamesLengthLimit reason := by
    rw [Usage.cutOff, Bool.and_eq_true, beq_iff_eq]
    cases c.usage.incompleteReason with
    | none => simp
    | some reason => simp [Usage.namesLengthLimit_iff]
  unfold Completion.unfinished?
  split
  · next h => exact ⟨fun hid => ⟨(hcutOff.mp h).1, (hcutOff.mp h).2, hid⟩, fun h => h.responseId⟩
  · next h => exact ⟨nofun, fun hrest => absurd (hcutOff.mpr ⟨hrest.incomplete, hrest.limit⟩) h⟩

/-- **A request, made for the rest of its answer**: it says that there should be no
repetitions, offers no tools and follows the response. All else stays. -/
def Request.forRest (r : Request) (id : String) : Request :=
  { r with
    messages := [.message .user (.text "Continue exactly where you left off. Do not repeat.") []]
    tools := []
    previousResponseId := some id }

end Provider

namespace Responder

variable (b : Responder) (q : Question)

/-- **A request is one of a turn**: it carries its instructions and its cache key, and asks
like all others. -/
structure Carries (r : Request) : Prop where
  /-- A responses provider is sent what stands above the conversation. -/
  instructions : r.instructions
    = match b.provider.mode with
      | .chatCompletions => none
      | .responses => b.prompt q
  /-- The cache key, if such are passed on. -/
  promptCacheKey : r.promptCacheKey = if b.promptCache then q.promptCacheKey else none
  /-- How the model is asked. -/
  sampling : r.sampling = b.sampling

/-- **The calls of responses were executed**, and no others: each batch has one record for
each call of its response. -/
def Executed (heard : List Completion) (batches : List Batch) : Prop :=
  List.Forall₂
    (fun c batch => List.Forall₂ (Record.Answers b.provider.mode) c.toolCalls batch.records)
    heard batches

/-- **A response is the final one** behind some exchanges: all responses before it asked for
calls, of which there are some on offer, and it does not. -/
structure IsFinal (before : List Exchange) (c : Completion) : Prop where
  /-- The responses before it. -/
  earlier : ∀ c' ∈ responses before, q.Offers ∧ c'.hasToolCalls = true
  /-- The response. -/
  asksNothing : q.Offers → c.hasToolCalls = false

/-- **An answer tells** a text, read if a form is asked for, the id and the end of the last
response, and what all responses took. -/
structure Tells (form : Option Json) (text : String) (responseId : Option String)
    (last : Completion) (heard : List Completion) (g : Generation) : Prop where
  /-- The text is the answer if no form is asked for. -/
  plain : form = none → g.payload = .str text
  /-- Otherwise it is read as a whole. -/
  read : form ≠ none → Fence.ReadsAs text g.payload
  /-- The id. -/
  responseId : g.responseId = responseId
  /-- How the last response ended. -/
  status : g.status = last.usage.status
  /-- Why it is incomplete. -/
  incompleteReason : g.incompleteReason = last.usage.incompleteReason
  /-- What all responses took. -/
  usage : g.usage.Counts (heard.map Completion.usage)

/-- **What comes of a final response** `c` to the request of `e`: which exchanges come after
it, and how the turn ends. -/
inductive Continues (before : List Exchange) (e : Exchange) (c : Completion) :
    List Exchange → Except Failure Generation → Prop
  /-- There is no rest to ask for. -/
  | whole {g : Generation} (finished : ∀ id, ¬ c.HasRest id)
      (tells : Tells e.request.responseSchema c.content c.responseId c (responses before ++ [c])
        g) :
      Continues before e c [] (.ok g)
  /-- There is a rest, and it is told with the response. -/
  | rest {id : String} {more : Completion} {g : Generation} (cutOff : c.HasRest id)
      (reply : (b.provider.reply (before.length + 1) (e.request.forRest id)).outcome = .ok more)
      (tells : Tells e.request.responseSchema (c.content ++ more.content)
        (more.responseId.or (some id)) more (responses before ++ [c, more]) g) :
      Continues before e c [⟨e.request.forRest id, some (.ok more)⟩] (.ok g)
  /-- The request for the rest fails. -/
  | brokenOff {id : String} {f : Provider.Failure} (cutOff : c.HasRest id)
      (reply : (b.provider.reply (before.length + 1) (e.request.forRest id)).outcome = .error f) :
      Continues before e c [⟨e.request.forRest id, some (.error f)⟩] (.error (.request f))

/-- **A turn ends at a final response** `c` to the request of `e`. -/
structure EndsAt (before : List Exchange) (e : Exchange) (c : Completion)
    (after : List Exchange) (report : Turn.Report) : Prop where
  /-- What comes of the response. -/
  continues : b.Continues before e c after report.outcome
  /-- The calls of the responses before it were executed, and no others. -/
  executed : b.Executed (responses before) report.turn.batches
  /-- It was asked for the form of the turn, unless that was given up. -/
  asks : AsksFor q.responseSchema (before ++ [e]) e.request.responseSchema
  /-- All requests are those of the turn. -/
  carries : ∀ e' ∈ before ++ e :: after, b.Carries q e'.request

/-- **The ways in which a turn is over.** -/
inductive IsOver (report : Turn.Report) : Prop
  /-- It has heard no final response. -/
  | unanswered
      (asked : ∀ c ∈ responses report.turn.exchanges, q.Offers ∧ c.hasToolCalls = true) :
      IsOver report
  /-- It ends at the final response. -/
  | endsAt {before after : List Exchange} {e : Exchange} {c : Completion}
      (split : report.turn.exchanges = before ++ e :: after) (said : e.completion? = some c)
      (final : IsFinal q before c) (ends : b.EndsAt q before e c after report) : IsOver report

/-- **A turn at the beginning of a round** has heard no final response. -/
structure Hearkens (t : Turn) : Prop extends Sustains q t where
  /-- The books are in order. -/
  books : Books b.provider t.exchanges t.usage
  /-- All responses asked for calls. -/
  asked : ∀ c ∈ responses t.exchanges, q.Offers ∧ c.hasToolCalls = true
  /-- They were executed. -/
  executed : b.Executed (responses t.exchanges) t.batches
  /-- All requests are those of the turn. -/
  carries : ∀ e ∈ t.exchanges, b.Carries q e.request

/-- **A turn has heard a final response** `c` to the request of `e`. -/
structure HearsFinal (t : Turn) (before : List Exchange) (e : Exchange) (c : Completion) :
    Prop where
  /-- It is the last response. -/
  split : t.exchanges = before ++ [e]
  /-- It is a response to the request. -/
  said : e.completion? = some c
  /-- It is final. -/
  final : IsFinal q before c
  /-- The request asks for the form of the turn. -/
  form : e.request.responseSchema = t.schema
  /-- The one for the rest is made like it. -/
  forRest : ∀ id, b.continuationRequest q t id = e.request.forRest id
  /-- The books are in order. -/
  books : Books b.provider t.exchanges t.usage
  /-- The responses before it were executed. -/
  executed : b.Executed (responses before) t.batches
  /-- The form is that of the turn, unless that was given up. -/
  asks : AsksFor q.responseSchema (before ++ [e]) e.request.responseSchema
  /-- All requests are those of the turn. -/
  carries : ∀ e' ∈ t.exchanges, b.Carries q e'.request

variable {b q} {t t' : Turn} {c : Completion} {f : Provider.Failure} {outcome : Outcome}
variable {report : Turn.Report} {before after : List Exchange} {e : Exchange}

/-! ## Requests -/

theorem carries_request (b : Responder) (q : Question) (t : Turn) (messages : List Provider.Item)
    (tools : List Tool.Definition) (id : Option String) :
    b.Carries q (b.request q t messages tools id) where
  instructions := rfl
  promptCacheKey := by
    show q.promptCacheKey.filter (fun _ => b.promptCache) = _
    cases b.promptCache <;> cases q.promptCacheKey <;> rfl
  sampling := rfl

/-- A request without a form is still one of the turn. -/
theorem carries_formlessRequest (b : Responder) (q : Question) (t : Turn) :
    b.Carries q (b.formlessRequest q t) :=
  let h := carries_request b q t t.conversation
    ((q.offered.map Tool.Registry.definitions).getD []) t.chainId
  ⟨h.instructions, h.promptCacheKey, h.sampling⟩

/-- **Asking for a response makes requests of the turn.** -/
theorem Completes.carries (h : b.Completes q t t' outcome)
    (ht : ∀ e ∈ t.exchanges, b.Carries q e.request) :
    ∀ e ∈ t'.exchanges, b.Carries q e.request := by
  have hfirst : b.Carries q (b.roundRequest q t) := carries_request b q t _ _ _
  have hconcat {exchanges : List Exchange} {e : Exchange}
      (hexchanges : ∀ e ∈ exchanges, b.Carries q e.request) (he : b.Carries q e.request) :
      ∀ e' ∈ exchanges ++ [e], b.Carries q e'.request := by
    intro e' he'
    rcases List.mem_append.mp he' with he' | he'
    · exact hexchanges e' he'
    · exact List.mem_singleton.mp he' ▸ he
  cases h with
  | heard reply => exact hconcat ht hfirst
  | refused reply final => exact hconcat ht hfirst
  | heardFormless reply rejects again =>
    exact hconcat (hconcat ht hfirst) (carries_formlessRequest b q t)
  | refusedFormless reply rejects again =>
    exact hconcat (hconcat ht hfirst) (carries_formlessRequest b q t)

/-- **The last request before a response is made anew for the rest of it**, with the form
that it asked for. -/
theorem Completes.exists_forRest (h : b.Completes q t t' (.ok c)) :
    ∃ before e, t'.exchanges = before ++ [e] ∧ e.completion? = some c
      ∧ responses before = responses t.exchanges
      ∧ e.request.responseSchema = t'.schema
      ∧ ∀ id, b.continuationRequest q t' id = e.request.forRest id := by
  cases h with
  | heard reply => exact ⟨t.exchanges, _, rfl, rfl, rfl, rfl, fun id => rfl⟩
  | heardFormless reply rejects again =>
    exact ⟨_, _, rfl, rfl, (responses_concat _ _).trans (List.append_nil _), rfl, fun id => rfl⟩

/-! ## Rounds -/

theorem Hearkens.start (b : Responder) (q : Question) : b.Hearkens q (b.start q) where
  toSustains := .start b q
  books := .nil b.provider
  asked c hc := by cases hc
  executed := .nil
  carries e he := by cases he

/-- **A round hears no final response.** -/
theorem Hearkens.roundsTo (ht : b.Hearkens q t) (h : b.RoundsTo q t t') : b.Hearkens q t' := by
  have hsustains := ht.toSustains.roundsTo h
  have hbooks := h.books ht.books
  cases h with
  | @calls registry t' c offered completes asks guard =>
    have hexchanges : (b.afterRound q registry t' c).exchanges = t'.exchanges :=
      exchanges_carryOn b _ c _
    have hbatches : (b.afterRound q registry t' c).batches
        = t.batches ++ [b.execute q registry t' c] :=
      (batches_carryOn b _ c _).trans (congrArg (· ++ [_]) completes.batches_eq)
    refine ⟨hsustains, hbooks, ?_, ?_, ?_⟩
    · rw [hexchanges, completes.exchanges_of_ok.2]
      intro c' hc'
      rcases List.mem_append.mp hc' with hc' | hc'
      · exact ht.asked c' hc'
      · exact List.mem_singleton.mp hc' ▸ ⟨offers_of_offered offered, asks⟩
    · rw [hexchanges, hbatches, completes.exchanges_of_ok.2]
      exact List.rel_append ht.executed
        (.cons (Tool.forall₂_answers_execute _ _ _ _ _ _) .nil)
    · rw [hexchanges]
      exact completes.carries ht.carries

/-- A turn that concludes tells the text, of whose books the sum is made. -/
theorem tells_conclude {form : Option Json} (hform : form = t.schema)
    (hbooks : Books b.provider t.exchanges t.usage) (text : String) (id : Option String)
    (last : Completion) :
    Tells form text id last (responses t.exchanges)
      { payload := t.payload text, responseId := id, usage := t.usage
        status := last.usage.status, incompleteReason := last.usage.incompleteReason } where
  plain hnone := payload_of_none (hform ▸ hnone) text
  read hsome := by
    obtain ⟨schema, hschema⟩ := Option.ne_none_iff_exists'.mp (hform ▸ hsome)
    exact readsAs_payload hschema text
  responseId := rfl
  status := rfl
  incompleteReason := rfl
  usage := hbooks.counts

/-- **A response that answers is final.** -/
theorem Hearkens.hearsFinal (ht : b.Hearkens q t) (h : b.Completes q t t' (.ok c))
    (hanswers : q.offered = none ∨ c.hasToolCalls = false) :
    ∃ before e, b.HearsFinal q t' before e c := by
  obtain ⟨before, e, hsplit, hsaid, hresponses, hform, hforRest⟩ := h.exists_forRest
  refine ⟨before, e, hsplit, hsaid, ⟨hresponses ▸ ht.asked, fun hoffers => ?_⟩, hform, hforRest,
    h.books ht.books, ?_, ?_, h.carries ht.carries⟩
  · exact hanswers.resolve_left fun hnone => not_offers_of_offered hnone hoffers
  · rw [hresponses, h.batches_eq]
    exact ht.executed
  · rw [← hsplit, hform]
    exact h.asksFor ht.asks

namespace HearsFinal

theorem responses_eq (h : b.HearsFinal q t before e c) :
    responses t.exchanges = responses before ++ [c] := by
  rw [h.split, responses_concat, h.said]
  rfl

theorem length_eq (h : b.HearsFinal q t before e c) :
    t.exchanges.length = before.length + 1 := by
  rw [h.split, List.length_append, List.length_singleton]

/-- The exchanges, if there is one more. -/
theorem concat_eq (h : b.HearsFinal q t before e c) (id : String) (o : Option Outcome) :
    t.exchanges ++ [⟨b.continuationRequest q t id, o⟩]
      = before ++ e :: [⟨e.request.forRest id, o⟩] := by
  rw [h.split, h.forRest, List.append_assoc, List.singleton_append]

/-- They are all those of the turn. -/
theorem carries_concat (h : b.HearsFinal q t before e c) (id : String) (o : Option Outcome) :
    ∀ e' ∈ before ++ e :: [⟨e.request.forRest id, o⟩], b.Carries q e'.request := by
  intro e' he'
  rw [← h.concat_eq] at he'
  rcases List.mem_append.mp he' with he' | he'
  · exact h.carries e' he'
  · rw [List.mem_singleton.mp he']
    exact carries_request b q t _ _ _

/-- **A final response ends the turn**, once its rest is there or refused. -/
theorem isOver (h : b.HearsFinal q t before e c) : b.IsOver q (b.finish q t c) := by
  rcases finish_cases b q t c with ⟨hid, heq⟩ | ⟨id, hid, ⟨more, hreply, heq⟩ | ⟨f, hreply, heq⟩⟩
  · have hcontinues : b.Continues before e c [] (t.conclude c.content c.responseId c).outcome := by
      refine .whole (fun id hrest => ?_) ?_
      · rw [Completion.unfinished?_eq_some_iff.mpr hrest] at hid
        cases hid
      · exact h.responses_eq ▸ tells_conclude h.form h.books c.content c.responseId c
    exact heq ▸ .endsAt h.split h.said h.final
      ⟨hcontinues, h.executed, h.asks, h.split ▸ h.carries⟩
  · have hheard : responses (t.heard (b.continuationRequest q t id) more).exchanges
        = responses before ++ [c, more] := by
      rw [Turn.heard, responses_concat, h.responses_eq, List.append_assoc]
      rfl
    have htells := hheard ▸ tells_conclude
      (t := t.heard (b.continuationRequest q t id) more) h.form
      (h.books.heard hreply) (c.content ++ more.content) (more.responseId.or (some id)) more
    rw [h.length_eq, h.forRest] at hreply
    exact heq ▸ .endsAt (h.concat_eq id (some (.ok more))) h.said h.final
      ⟨.rest (Completion.unfinished?_eq_some_iff.mp hid) hreply htells, h.executed, h.asks,
        h.carries_concat id _⟩
  · rw [h.length_eq, h.forRest] at hreply
    exact heq ▸ .endsAt (h.concat_eq id (some (.error f))) h.said h.final
      ⟨.brokenOff (Completion.unfinished?_eq_some_iff.mp hid) hreply, h.executed, h.asks,
        h.carries_concat id _⟩

end HearsFinal

/-- **A turn that finishes is over.** -/
theorem Hearkens.finishes (ht : b.Hearkens q t) (h : b.Finishes q t report) :
    b.IsOver q report := by
  cases h with
  | @failed t' f completes => exact .unanswered (completes.exchanges_of_error.2 ▸ ht.asked)
  | @cutShort registry t' c offered completes asks =>
    refine .unanswered fun c' hc' => ?_
    have hmem : c' ∈ responses t.exchanges ++ [c] := completes.exchanges_of_ok.2 ▸ hc'
    rcases List.mem_append.mp hmem with hmem | hmem
    · exact ht.asked c' hmem
    · exact List.mem_singleton.mp hmem ▸ ⟨offers_of_offered offered, asks⟩
  | answered completes answers =>
    obtain ⟨before, e, hhears⟩ := ht.hearsFinal completes answers
    exact hhears.isOver

/-- **Every turn is over at last.** -/
theorem isOver_answer (b : Responder) (q : Question) : b.IsOver q (b.answer q) :=
  rounds_induction (P := b.Hearkens q) (Q := b.IsOver q)
    (fun _ _ ht hround => ht.roundsTo hround) (fun _ _ ht hfinish => ht.finishes hfinish) _
    (.start b q)

/-- **There is one final response at most.** -/
theorem IsFinal.unique {before' after' : List Exchange} {e' : Exchange} {c' : Completion}
    (h : IsFinal q before c) (h' : IsFinal q before' c') (hsaid : e.completion? = some c)
    (hsaid' : e'.completion? = some c') (hsplit : before ++ e :: after = before' ++ e' :: after') :
    before = before' ∧ e = e' ∧ after = after' := by
  -- a final response is not among the responses before another one
  have hnot {before : List Exchange} {e : Exchange} {c c' : Completion} {rest : List Exchange}
      (h : IsFinal q before c) (hsaid : e.completion? = some c)
      (h' : IsFinal q (before ++ e :: rest) c') : False := by
    have hmem : c ∈ responses (before ++ e :: rest) :=
      List.mem_filterMap.mpr ⟨e, List.mem_append_right _ List.mem_cons_self, hsaid⟩
    obtain ⟨hoffers, hasks⟩ := h'.earlier c hmem
    rw [h.asksNothing hoffers] at hasks
    cases hasks
  rcases List.append_eq_append_iff.mp hsplit with ⟨rest, hbefore, hrest⟩ | ⟨rest, hbefore, hrest⟩
  · cases rest with
    | nil =>
      cases hrest
      exact ⟨(hbefore.trans (List.append_nil _)).symm, rfl, rfl⟩
    | cons e'' rest =>
      cases hrest
      exact (hnot h hsaid (hbefore ▸ h')).elim
  · cases rest with
    | nil =>
      cases hrest
      exact ⟨hbefore.trans (List.append_nil _), rfl, rfl⟩
    | cons e'' rest =>
      cases hrest
      exact (hnot h' hsaid' (hbefore ▸ h)).elim

/-- **What comes of the final response of a turn.** If it was cut off at the limit on its
length and has an id, there is one more request, and none otherwise. It is like the one that
the response answers, which asks for the form of the turn unless that was given up, but has
nothing to say except that the answer be continued, offers no tools and follows the response.
If there is a rest, the text of the answer is that of both, read as a whole if a form is
asked for; its id is that of the rest or, if it has none, that of the response; it ends as
the rest does and took what all responses took. Otherwise the turn fails as the request does.
Neither the response nor the rest has anything executed, and the rest of the rest is not
asked for. -/
theorem endsAt_answer (hsplit : (b.answer q).turn.exchanges = before ++ e :: after)
    (hsaid : e.completion? = some c) (hfinal : IsFinal q before c) :
    b.EndsAt q before e c after (b.answer q) := by
  cases isOver_answer b q with
  | unanswered asked =>
    have hmem : c ∈ responses (b.answer q).turn.exchanges := by
      rw [hsplit]
      exact List.mem_filterMap.mpr ⟨e, List.mem_append_right _ List.mem_cons_self, hsaid⟩
    obtain ⟨hoffers, hasks⟩ := asked c hmem
    rw [hfinal.asksNothing hoffers] at hasks
    cases hasks
  | endsAt split said final ends =>
    obtain ⟨rfl, rfl, rfl⟩ := hfinal.unique final hsaid said (hsplit.symm.trans split)
    cases Option.some.inj (hsaid.symm.trans said)
    exact ends

/-- A turn that looks something up, is cut off, and is cut off again: the answer is what both
responses say, and nobody asks for more. -/
theorem endsAt_answer_cutOff :
    let b := hearing .responses
      [.ok (.lookUp (some "zeroth")), .ok cutOff, .ok { cutOff with content := " here." }]
    let q := Question.whereIsIt none
    ∃ before e after, IsFinal q before cutOff ∧ b.EndsAt q before e cutOff after (b.answer q)
      ∧ after.length = 1
      ∧ ((b.answer q).outcome.toOption.map fun g => (g.payload, g.status))
          = some (.str "It is here.", some "incomplete") := by
  intro b q
  have hfinal : IsFinal q ((b.answer q).turn.exchanges.take 1) cutOff :=
    ⟨fun c hc => ⟨⟨_, rfl, List.cons_ne_nil _ _⟩, List.mem_singleton.mp hc ▸ rfl⟩, fun _ => rfl⟩
  exact ⟨_, _, _, hfinal, endsAt_answer (b := b) (q := q) rfl rfl hfinal, rfl, rfl⟩

end Responder

end Colloquy
