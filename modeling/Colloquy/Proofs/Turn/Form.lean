import Colloquy.Proofs.Exchanges

/-!
# The form of an answer

A question may ask for a form, and not every provider can keep to one. A provider
that refuses a request because of its form is asked again without it, and the form is
then given up for good: the requests of a turn ask for the form up to the one that is
refused, and for none from there on (`Responder.AsksFor`). What is answered goes by
what was asked for last, a JSON value as long as the form is kept, otherwise a text.

A turn that has given its form up has none to give up again, so that a second refusal
is a failure like any other. All failures but the one refusal end the turn.

There is one request that a refusal is not seen to: the one for the rest of an answer.
It asks for the form if the turn still does, and when it is refused the turn fails
(`Responder.refused_answer`), although there was a form to give up.
-/

namespace Colloquy

open Provider (Completion Exchange Outcome Request)
open Tool (Registry)
open Turn (responses)

/-- **A request was refused because of its form**: it asked for one, and the provider
says that this is why it failed. -/
def Provider.Exchange.RefusesForm (e : Exchange) : Prop :=
  e.request.responseSchema.isSome = true
    ∧ ∃ f, e.outcome = some (.error f) ∧ f.rejectsSchema = true

/-- **What a text is read as**: the JSON value it holds, perhaps in a fence, or
itself if it holds none. -/
inductive Fence.ReadsAs (text : String) : Json → Prop
  /-- It is JSON. -/
  | value {v : Json} (read : readFenced text = .ok v) : ReadsAs text v
  /-- It is not. -/
  | text {message : String} (unread : readFenced text = .error message) : ReadsAs text (.str text)

namespace Responder

/-- **Requests keep to a form**: they ask for it, or for none if none is wanted, and
none of them is refused because of it. -/
structure KeepsForm (wanted : Option Json) (loop : List Exchange) : Prop where
  /-- They ask for what is wanted. -/
  carried : ∀ e ∈ loop, e.request.responseSchema = wanted
  /-- They are not refused because of it. -/
  accepted : ∀ e ∈ loop, ¬ e.RefusesForm

/-- **Requests give up a form** `schema`: one of them is refused because of it, and is
made again without it. -/
structure GivesUpForm (schema : Json) (before : List Exchange) (refused again : Exchange)
    (after : List Exchange) : Prop where
  /-- The form was kept before. -/
  keeps : KeepsForm (some schema) before
  /-- The request asks for the form. -/
  carried : refused.request.responseSchema = some schema
  /-- It is refused because of it. -/
  refuses : refused.RefusesForm
  /-- The next one is the same without the form. -/
  repeats : again.request = { refused.request with responseSchema := none }
  /-- None is asked for from then on. -/
  formless : ∀ e ∈ after, e.request.responseSchema = none

/-- **What requests ask for in the end**, where a form may be wanted: what is wanted,
or nothing if it was given up. -/
inductive AsksFor (wanted : Option Json) (loop : List Exchange) : Option Json → Prop
  /-- What is wanted. -/
  | keeps (h : KeepsForm wanted loop) : AsksFor wanted loop wanted
  /-- Nothing. -/
  | givesUp {schema : Json} {before after : List Exchange} {refused again : Exchange}
      (given : wanted = some schema) (split : loop = before ++ refused :: again :: after)
      (h : GivesUpForm schema before refused again after) : AsksFor wanted loop none

variable (b : Responder) (q : Question)

/-- **The text of an answer**: what the response says, and the rest of it. -/
inductive AnswersWith (loop rest : List Exchange) : String → Prop
  /-- The last response asks for nothing, or there is nothing to ask for. -/
  | intro {c : Completion} (last : (responses loop).getLast? = some c)
      (answers : q.offered = none ∨ c.hasToolCalls = false) :
      AnswersWith loop rest
        (c.content ++ String.join ((responses rest).map Completion.content))

/-- **What a turn says in place of an answer**, having executed the last calls there
were to be. -/
inductive ExcusesWith (t : Turn) (loop : List Exchange) : String → Prop
  /-- The last response asks for calls. -/
  | intro {c : Completion} (last : (responses loop).getLast? = some c)
      (offered : q.offered ≠ none) (asks : c.hasToolCalls = true) :
      ExcusesWith t loop t.guard.fallbackText

/-- **What becomes of the form of a turn** `schema` in its requests for responses and
the one for the rest of its answer. -/
inductive SeesToForm (schema : Json) (loop rest : List Exchange) (report : Turn.Report) : Prop
  /-- It is kept. The answer is a value, if it is one, and what is said in place of an
  answer has the form of one. -/
  | kept (keeps : KeepsForm (some schema) loop)
      (further : ∀ e ∈ rest, e.request.responseSchema = some schema)
      (fails : ∀ e ∈ loop ++ rest, ∀ f, e.outcome = some (.error f) →
        report.outcome = .error (.request f))
      (payload : ∀ g, report.outcome = .ok g →
        (∃ text, AnswersWith q loop rest text ∧ Fence.ReadsAs text g.payload)
          ∨ ∃ text, ExcusesWith q report.turn loop text ∧ g.payload = Answer.plain text)
  /-- It is given up. All that is said is text. -/
  | givenUp {before after : List Exchange} {refused again : Exchange}
      (split : loop = before ++ refused :: again :: after)
      (givesUp : GivesUpForm schema before refused again after)
      (further : ∀ e ∈ rest, e.request.responseSchema = none)
      (fails : ∀ e ∈ again :: after ++ rest, ∀ f, e.outcome = some (.error f) →
        report.outcome = .error (.request f))
      (payload : ∀ g, report.outcome = .ok g →
        ∃ text, (AnswersWith q loop rest text ∨ ExcusesWith q report.turn loop text)
          ∧ g.payload = .str text)

variable {b q} {t t' : Turn} {outcome : Outcome} {f : Provider.Failure} {c : Completion}
variable {wanted form : Option Json} {schema : Json} {loop rest before after : List Exchange}
variable {e refused again : Exchange}

/-! ## Refusals -/

theorem not_refusesForm_of_ok (h : e.outcome = some (.ok c)) : ¬ e.RefusesForm := by
  rintro ⟨-, f, hf, -⟩
  simp [h] at hf

/-- A failure is a refusal because of a form exactly if there is one and the failure
says so. -/
theorem refusesForm_iff (h : e.outcome = some (.error f)) :
    e.RefusesForm ↔ (e.request.responseSchema.isSome && f.rejectsSchema) = true := by
  simp [Exchange.RefusesForm, h]

/-- A failure that is final is none. -/
theorem not_refusesForm_of_final (h : e.outcome = some (.error f))
    (hfinal : (e.request.responseSchema.isSome && f.rejectsSchema) = false) :
    ¬ e.RefusesForm := by
  rw [refusesForm_iff h, hfinal]
  exact Bool.false_ne_true

/-! ## What is asked for -/

/-- One request more keeps to a form if it asks for it and is not refused. -/
theorem KeepsForm.concat (h : KeepsForm wanted loop) (he : e.request.responseSchema = wanted)
    (haccepted : ¬ e.RefusesForm) : KeepsForm wanted (loop ++ [e]) where
  carried e' he' := by
    rcases List.mem_append.mp he' with he' | he'
    · exact h.carried e' he'
    · exact List.mem_singleton.mp he' ▸ he
  accepted e' he' := by
    rcases List.mem_append.mp he' with he' | he'
    · exact h.accepted e' he'
    · exact List.mem_singleton.mp he' ▸ haccepted

/-- One request more without a form changes nothing once the form is given up. -/
theorem GivesUpForm.concat (h : GivesUpForm schema before refused again after)
    (he : e.request.responseSchema = none) :
    GivesUpForm schema before refused again (after ++ [e]) where
  keeps := h.keeps
  carried := h.carried
  refuses := h.refuses
  repeats := h.repeats
  formless e' he' := by
    rcases List.mem_append.mp he' with he' | he'
    · exact h.formless e' he'
    · exact List.mem_singleton.mp he' ▸ he

/-- **One request more asks for what was asked for before**, if it is not refused
because of it. -/
theorem AsksFor.concat (h : AsksFor wanted loop form) (he : e.request.responseSchema = form)
    (haccepted : ¬ e.RefusesForm) : AsksFor wanted (loop ++ [e]) form := by
  cases h with
  | keeps h => exact .keeps (h.concat he haccepted)
  | @givesUp schema before after refused again given split h =>
    have hsplit : loop ++ [e] = before ++ refused :: again :: (after ++ [e]) := by
      rw [split, List.append_assoc]
      rfl
    exact .givesUp given hsplit (h.concat he)

/-- **A refused request is made again without its form**, and the form is given up. -/
theorem AsksFor.concat_refused (h : AsksFor wanted loop form)
    (he : e.request.responseSchema = form) (hrefuses : e.RefusesForm)
    (hagain : again.request = { e.request with responseSchema := none }) :
    AsksFor wanted (loop ++ [e] ++ [again]) none := by
  cases h with
  | keeps h =>
    obtain ⟨schema, hschema⟩ := Option.isSome_iff_exists.mp hrefuses.1
    have hwanted : wanted = some schema := he.symm.trans hschema
    refine .givesUp hwanted (List.append_assoc loop [e] [again]) ?_
    exact ⟨hwanted ▸ h, hschema, hrefuses, hagain, fun e' he' => by cases he'⟩
  | givesUp given split h =>
    -- there is no form that could be refused
    have hform := hrefuses.1
    rw [he] at hform
    cases hform

/-- **A form is asked for in the end exactly if it was wanted and never refused.** -/
theorem AsksFor.eq_none_iff (h : AsksFor wanted loop form) :
    form = none ↔ wanted = none ∨ ∃ e ∈ loop, e.RefusesForm := by
  cases h with
  | keeps h =>
    refine ⟨.inl, fun hnone => hnone.resolve_right ?_⟩
    rintro ⟨e, he, hrefuses⟩
    exact h.accepted e he hrefuses
  | givesUp given split h =>
    refine iff_of_true rfl (.inr ⟨_, ?_, h.refuses⟩)
    rw [split]
    exact List.mem_append_right _ List.mem_cons_self

/-! ## Asking for a response -/

/-- **Asking for a response asks for what was asked for before**, or gives it up. -/
theorem Completes.asksFor (h : b.Completes q t t' outcome)
    (ht : AsksFor wanted t.exchanges t.schema) : AsksFor wanted t'.exchanges t'.schema := by
  cases h with
  | heard reply => exact ht.concat rfl (not_refusesForm_of_ok rfl)
  | refused reply final => exact ht.concat rfl (not_refusesForm_of_final rfl final)
  | heardFormless reply rejects again =>
    exact ht.concat_refused rfl ((refusesForm_iff rfl).mpr rejects) rfl
  | refusedFormless reply rejects again =>
    exact ht.concat_refused rfl ((refusesForm_iff rfl).mpr rejects) rfl

/-- An exchange that is new is refused because of the form, or the last one. -/
theorem Completes.mem_exchanges (h : b.Completes q t t' outcome) (he : e ∈ t'.exchanges) :
    e ∈ t.exchanges ∨ e.RefusesForm ∨ e.outcome = some outcome := by
  cases h with
  | heard reply =>
    rcases List.mem_append.mp he with he | he
    · exact .inl he
    · exact .inr (.inr (List.mem_singleton.mp he ▸ rfl))
  | refused reply final =>
    rcases List.mem_append.mp he with he | he
    · exact .inl he
    · exact .inr (.inr (List.mem_singleton.mp he ▸ rfl))
  | heardFormless reply rejects again =>
    rcases List.mem_append.mp he with he | he
    · rcases List.mem_append.mp he with he | he
      · exact .inl he
      · exact .inr (.inl (List.mem_singleton.mp he ▸ (refusesForm_iff rfl).mpr rejects))
    · exact .inr (.inr (List.mem_singleton.mp he ▸ rfl))
  | refusedFormless reply rejects again =>
    rcases List.mem_append.mp he with he | he
    · rcases List.mem_append.mp he with he | he
      · exact .inl he
      · exact .inr (.inl (List.mem_singleton.mp he ▸ (refusesForm_iff rfl).mpr rejects))
    · exact .inr (.inr (List.mem_singleton.mp he ▸ rfl))

/-- **Every failure but the last is a refusal because of a form.** -/
theorem Completes.failures (h : b.Completes q t t' outcome)
    (ht : ∀ e ∈ t.exchanges, ∀ f, e.outcome = some (.error f) → e.RefusesForm) :
    ∀ e ∈ t'.exchanges, ∀ f, e.outcome = some (.error f) →
      e.RefusesForm ∨ outcome = .error f := by
  intro e he f hf
  rcases h.mem_exchanges he with he | hrefuses | hlast
  · exact .inl (ht e he f hf)
  · exact .inl hrefuses
  · exact .inr (Option.some.inj (hlast.symm.trans hf))

/-- **The last failure is none**: a form that is refused is given up, and another one
there is not. -/
theorem Completes.last_of_error (h : b.Completes q t t' (.error f)) :
    ∃ e, t'.exchanges.getLast? = some e ∧ e.outcome = some (.error f) ∧ ¬ e.RefusesForm := by
  cases h with
  | refused reply final =>
    exact ⟨_, List.getLast?_concat, rfl, not_refusesForm_of_final rfl final⟩
  | refusedFormless reply rejects again =>
    exact ⟨_, List.getLast?_concat, rfl, fun hrefuses => nomatch hrefuses.1⟩

/-! ## Rounds and the end -/

variable (b q)

/-- **A turn at the beginning of a round** has failed only where its form was
refused. -/
structure Sustains (t : Turn) : Prop where
  /-- It asks for what it wants, or has given it up. -/
  asks : AsksFor q.responseSchema t.exchanges t.schema
  /-- What failed was refused because of the form. -/
  failures : ∀ e ∈ t.exchanges, ∀ f, e.outcome = some (.error f) → e.RefusesForm

/-- **A turn that has ended**, with what it has asked for and whether it was refused. -/
structure Ends (loop rest : List Exchange) (report : Turn.Report) : Prop where
  /-- What it has asked. -/
  exchanges : report.turn.exchanges = loop ++ rest
  /-- At last perhaps for the rest of its answer. -/
  appends : b.Appends q report.turn loop rest
  /-- It asks for what it wants, or has given it up. -/
  asks : AsksFor q.responseSchema loop report.turn.schema
  /-- A failure that is not seen to is that of the turn. -/
  failures : ∀ e ∈ loop ++ rest, ∀ f, e.outcome = some (.error f) →
    e ∈ loop ∧ e.RefusesForm ∨ report.outcome = .error (.request f)
  /-- The turn fails only with its last request, which is refused because of a form only
  if it asks for the rest of an answer. -/
  fails : ∀ g, report.outcome = .error g → ∃ e f, (loop ++ rest).getLast? = some e
    ∧ e.outcome = some (.error f) ∧ g = .request f ∧ (rest = [] → ¬ e.RefusesForm)
  /-- What it says goes by what is asked for in the end. -/
  payload : ∀ g, report.outcome = .ok g →
    (∃ text, AnswersWith q loop rest text ∧ g.payload = report.turn.payload text)
      ∨ ∃ text, ExcusesWith q report.turn loop text
          ∧ g.payload = Answer.ownText report.turn.schema.isSome text

variable {b q} {report : Turn.Report}

theorem Sustains.start (b : Responder) (q : Question) : Sustains q (b.start q) where
  asks := .keeps ⟨fun e he => (by cases he), fun e he => (by cases he)⟩
  failures e he := by cases he

/-- A response that is heard leaves no failure unseen. -/
theorem Sustains.completes (ht : Sustains q t) (h : b.Completes q t t' (.ok c)) :
    Sustains q t' where
  asks := h.asksFor ht.asks
  failures e he f hf := (h.failures ht.failures e he f hf).resolve_right (by simp)

/-- **A round leaves no failure unseen.** -/
theorem Sustains.roundsTo (ht : Sustains q t) (h : b.RoundsTo q t t') : Sustains q t' := by
  cases h with
  | @calls registry t' c offered completes asks guard =>
    have hcompletes := ht.completes completes
    have hexchanges : (b.afterRound q registry t' c).exchanges = t'.exchanges :=
      exchanges_carryOn b _ c _
    have hschema : (b.afterRound q registry t' c).schema = t'.schema := schema_carryOn b _ c _
    refine ⟨?_, ?_⟩
    · rw [hexchanges, hschema]
      exact hcompletes.asks
    · rw [hexchanges]
      exact hcompletes.failures

/-- The last response of exchanges is the one that was heard. -/
theorem Completes.getLast?_responses (h : b.Completes q t t' (.ok c)) :
    (responses t'.exchanges).getLast? = some c := by
  rw [h.exchanges_of_ok.2, List.getLast?_concat]

/-- **A turn that fails for want of a response** has ended. -/
theorem Sustains.fails (ht : Sustains q t) (h : b.Completes q t t' (.error f)) :
    b.Ends q t'.exchanges [] (t'.fails f) where
  exchanges := (List.append_nil _).symm
  appends := .nothing
  asks := h.asksFor ht.asks
  failures e he f' hf' := by
    rw [List.append_nil] at he
    rcases h.failures ht.failures e he f' hf' with hrefuses | houtcome
    · exact .inl ⟨he, hrefuses⟩
    · cases houtcome
      exact .inr rfl
  fails g hg := by
    cases hg
    obtain ⟨e, hlast, he, hrefuses⟩ := h.last_of_error
    exact ⟨e, f, (List.append_nil _).symm ▸ hlast, he, rfl, fun _ => hrefuses⟩
  payload g hg := by cases hg

/-- **A turn that is cut short** has ended. -/
theorem Sustains.cutShort (ht : Sustains q t) {registry : Registry}
    (hoffered : q.offered = some registry) (h : b.Completes q t t' (.ok c))
    (hasks : c.hasToolCalls = true) :
    b.Ends q t'.exchanges [] ((t'.executed (b.execute q registry t' c)).cutShort c) where
  exchanges := (List.append_nil _).symm
  appends := .nothing
  asks := h.asksFor ht.asks
  failures e he f hf := by
    rw [List.append_nil] at he
    exact .inl ⟨he, (ht.completes h).failures e he f hf⟩
  fails f hf := by cases hf
  payload g hg := by
    cases hg
    exact .inr ⟨_, .intro h.getLast?_responses (by simp [hoffered]) hasks, rfl⟩

/-- **A turn whose answer is complete** has ended. -/
theorem Sustains.concludes (ht : Sustains q t) (h : b.Completes q t t' (.ok c))
    (hanswers : q.offered = none ∨ c.hasToolCalls = false) :
    b.Ends q t'.exchanges [] (t'.conclude c.content c.responseId c) where
  exchanges := (List.append_nil _).symm
  appends := .nothing
  asks := h.asksFor ht.asks
  failures e he f hf := by
    rw [List.append_nil] at he
    exact .inl ⟨he, (ht.completes h).failures e he f hf⟩
  fails f hf := by cases hf
  payload g hg := by
    cases hg
    have htext : AnswersWith q t'.exchanges [] _ := .intro h.getLast?_responses hanswers
    rw [show c.content ++ String.join ((responses []).map Completion.content) = c.content from
      String.append_empty] at htext
    exact .inl ⟨_, htext, rfl⟩

/-- **A turn that has heard the rest of its answer** has ended. -/
theorem Sustains.continues (ht : Sustains q t) (h : b.Completes q t t' (.ok c))
    (hanswers : q.offered = none ∨ c.hasToolCalls = false) {id : String}
    (hid : c.unfinished? = some id) {more : Completion}
    (hreply : (b.provider.reply t'.exchanges.length (b.continuationRequest q t' id)).outcome
      = .ok more) :
    b.Ends q t'.exchanges [⟨b.continuationRequest q t' id, some (.ok more)⟩]
      ((t'.heard (b.continuationRequest q t' id) more).conclude (c.content ++ more.content)
        (more.responseId.or (some id)) more) where
  exchanges := rfl
  appends := by
    obtain ⟨⟨e, hlast, he⟩, -⟩ := h.exchanges_of_ok
    exact hreply ▸ .rest hlast he hanswers hid
  asks := h.asksFor ht.asks
  failures e he f hf := by
    rcases List.mem_append.mp he with he | he
    · exact .inl ⟨he, (ht.completes h).failures e he f hf⟩
    · cases List.mem_singleton.mp he
      cases hf
  fails f hf := by cases hf
  payload g hg := by
    cases hg
    have htext : AnswersWith q t'.exchanges
        [⟨b.continuationRequest q t' id, some (.ok more)⟩] _ :=
      .intro h.getLast?_responses hanswers
    rw [show String.join ((responses [⟨b.continuationRequest q t' id, some (.ok more)⟩]).map
        Completion.content) = more.content from String.empty_append] at htext
    exact .inl ⟨_, htext, rfl⟩

/-- **A turn that is refused the rest of its answer** has ended. Nobody asks why it is
refused. -/
theorem Sustains.breaksOff (ht : Sustains q t) (h : b.Completes q t t' (.ok c))
    (hanswers : q.offered = none ∨ c.hasToolCalls = false) {id : String}
    (hid : c.unfinished? = some id)
    (hreply : (b.provider.reply t'.exchanges.length (b.continuationRequest q t' id)).outcome
      = .error f) :
    b.Ends q t'.exchanges [⟨b.continuationRequest q t' id, some (.error f)⟩]
      ((t'.refused (b.continuationRequest q t' id) f).fails f) where
  exchanges := rfl
  appends := by
    obtain ⟨⟨e, hlast, he⟩, -⟩ := h.exchanges_of_ok
    exact hreply ▸ .rest hlast he hanswers hid
  asks := h.asksFor ht.asks
  failures e he f' hf' := by
    rcases List.mem_append.mp he with he | he
    · exact .inl ⟨he, (ht.completes h).failures e he f' hf'⟩
    · cases List.mem_singleton.mp he
      cases hf'
      exact .inr rfl
  fails g hg := by
    cases hg
    exact ⟨_, f, List.getLast?_concat, rfl, rfl, fun hnil => absurd hnil (List.cons_ne_nil _ _)⟩
  payload g hg := by cases hg

/-- **Whichever way a turn finishes, it ends so.** -/
theorem Sustains.finishes (ht : Sustains q t) (h : b.Finishes q t report) :
    ∃ loop rest, b.Ends q loop rest report := by
  cases h with
  | @failed t' f completes => exact ⟨t'.exchanges, [], ht.fails completes⟩
  | @cutShort registry t' c offered completes asks =>
    exact ⟨t'.exchanges, [], ht.cutShort offered completes asks⟩
  | @answered t' c completes answers =>
    rcases finish_cases b q t' c with ⟨-, heq⟩ | ⟨id, hid, ⟨more, hreply, heq⟩ | ⟨f, hreply, heq⟩⟩
    · exact heq ▸ ⟨t'.exchanges, [], ht.concludes completes answers⟩
    · exact heq ▸ ⟨t'.exchanges, _, ht.continues completes answers hid hreply⟩
    · exact heq ▸ ⟨t'.exchanges, _, ht.breaksOff completes answers hid hreply⟩

/-- **Every turn ends so.** -/
theorem ends_answer (b : Responder) (q : Question) :
    ∃ loop rest, b.Ends q loop rest (b.answer q) :=
  rounds_induction (P := Sustains q) (Q := fun report => ∃ loop rest, b.Ends q loop rest report)
    (fun _ _ ht hround => ht.roundsTo hround) (fun _ _ ht hfinish => ht.finishes hfinish) _
    (.start b q)

/-! ## What becomes of the form -/

/-- The request for the rest of an answer asks for what the turn asks for. -/
theorem Appends.responseSchema (h : b.Appends q t loop rest) :
    ∀ e ∈ rest, e.request.responseSchema = t.schema := by
  intro e he
  cases h with
  | nothing => cases he
  | rest last said answers unfinished =>
    cases List.mem_singleton.mp he
    rfl

/-- A turn that asks for a form reads its answer. -/
theorem readsAs_payload (h : t.schema = some schema) (text : String) :
    Fence.ReadsAs text (t.payload text) := by
  have hform : t.schema.isSome = true := h ▸ rfl
  unfold Turn.payload
  rw [if_pos hform]
  cases hread : Fence.readFenced text with
  | ok v => exact .value hread
  | error message => exact .text hread

/-- A turn that asks for none does not. -/
theorem payload_of_none (h : t.schema = none) (text : String) : t.payload text = .str text := by
  unfold Turn.payload
  rw [h]
  rfl

/-- **A turn that ends has seen to its form.** -/
theorem Ends.seesToForm (h : b.Ends q loop rest report) (hschema : q.responseSchema = some schema) :
    SeesToForm q schema loop rest report := by
  have hasks := h.asks
  have hfurther := h.appends.responseSchema
  rw [hschema] at hasks
  generalize hform : report.turn.schema = form at hasks hfurther
  cases hasks with
  | keeps hkeeps =>
    refine .kept hkeeps hfurther ?_ ?_
    · intro e he f hf
      refine (h.failures e he f hf).resolve_left fun hrefused => ?_
      exact hkeeps.accepted e hrefused.1 hrefused.2
    · intro g hg
      rcases h.payload g hg with ⟨text, htext, heq⟩ | ⟨text, htext, heq⟩
      · exact .inl ⟨text, htext, heq ▸ readsAs_payload hform text⟩
      · refine .inr ⟨text, htext, heq.trans ?_⟩
        rw [hform]
        rfl
  | @givesUp schema before after refused again given split hgivesUp =>
    cases given
    refine .givenUp split hgivesUp hfurther ?_ ?_
    · intro e he f hf
      -- from the repeated request on there is no form that could be refused
      have hformless : e.request.responseSchema = none := by
        rcases List.mem_append.mp he with he | he
        · rcases List.mem_cons.mp he with rfl | he
          · rw [hgivesUp.repeats]
          · exact hgivesUp.formless e he
        · exact hfurther e he
      have hmem : e ∈ loop ++ rest := by
        rw [split, List.append_assoc]
        exact List.mem_append_right _ (List.mem_cons_of_mem _ he)
      refine (h.failures e hmem f hf).resolve_left fun hrefused => ?_
      have hform := hrefused.2.1
      rw [hformless] at hform
      cases hform
    · intro g hg
      rcases h.payload g hg with ⟨text, htext, heq⟩ | ⟨text, htext, heq⟩
      · exact ⟨text, .inl htext, heq.trans (payload_of_none hform text)⟩
      · refine ⟨text, .inr htext, heq.trans ?_⟩
        rw [hform]
        rfl

/-- **A form is given up once and for good.** All requests of a turn ask for it, or
those up to the first that is refused because of it; that one is made again without
the form, and so are all after it, the one for the rest of the answer too. Another
refusal is the failure of the turn, which does not fail otherwise. What is answered is a
JSON value if the form was kept and the text is one, and what is said in place of an
answer has the form of one; if the form was given up both are plain text. -/
theorem form_answer (hschema : q.responseSchema = some schema) :
    let report := b.answer q
    b.provider.Replied report.turn.exchanges
      ∧ (∀ g, report.outcome = .error g → ∃ e f, report.turn.exchanges.getLast? = some e
          ∧ e.outcome = some (.error f) ∧ g = .request f)
      ∧ ∃ loop rest, report.turn.exchanges = loop ++ rest
          ∧ b.Appends q report.turn loop rest
          ∧ SeesToForm q schema loop rest report := by
  intro report
  obtain ⟨loop, rest, hends⟩ := ends_answer b q
  refine ⟨(books_answer b q).1.replied, fun g hg => ?_, loop, rest, hends.exchanges,
    hends.appends, hends.seesToForm hschema⟩
  obtain ⟨e, f, hlast, he, hrequest, -⟩ := hends.fails g hg
  exact ⟨e, f, hends.exchanges ▸ hlast, he, hrequest⟩

/-- A form that is refused at the first request of a turn that looks something up. -/
theorem form_answer_lookingUp :
    let b := hearing .responses
      [.error ⟨.schemaUnsupported, "No."⟩, .ok (.lookUp (some "first")), .ok { content := "Here." }]
    let q := Question.whereIsIt (some (.obj []))
    ∃ loop rest, (b.answer q).turn.exchanges = loop ++ rest
      ∧ SeesToForm q (.obj []) loop rest (b.answer q)
      ∧ (b.answer q).turn.exchanges.map (fun e => e.request.responseSchema.isSome)
          = [true, false, false] := by
  intro b q
  obtain ⟨-, -, loop, rest, hsplit, -, hform⟩ := form_answer (b := b) (q := q) rfl
  exact ⟨loop, rest, hsplit, hform, by decide +kernel⟩

/-- **What a turn fails with when a form is refused.** The failure is the reply to its
last request. That one asks for a form only if it is for the rest of an answer, and
then it does, unless none was wanted or it was given up before. -/
theorem refused_answer {f : Provider.Failure}
    (h : (b.answer q).outcome = .error (.request f)) (hrejects : f.rejectsSchema = true) :
    let t := (b.answer q).turn
    b.provider.Replied t.exchanges
      ∧ ∃ loop rest e, t.exchanges = loop ++ rest
          ∧ b.Appends q t loop rest
          ∧ t.exchanges.getLast? = some e
          ∧ e.outcome = some (.error f)
          ∧ (e.request.responseSchema = none
              ↔ rest = [] ∨ q.responseSchema = none ∨ ∃ e' ∈ loop, e'.RefusesForm) := by
  intro t
  obtain ⟨loop, rest, hends⟩ := ends_answer b q
  obtain ⟨e, f', hlast, he, hrequest, hformless⟩ := hends.fails _ h
  cases hrequest
  refine ⟨(books_answer b q).1.replied, loop, rest, e, hends.exchanges, hends.appends,
    hends.exchanges ▸ hlast, he, ?_⟩
  rw [← hends.asks.eq_none_iff]
  by_cases hrest : rest = []
  · have hunasked : e.request.responseSchema.isSome = false := by
      have hnot := hformless hrest
      rw [refusesForm_iff he, hrejects, Bool.and_true] at hnot
      exact Bool.eq_false_iff.mpr hnot
    exact iff_of_true (Option.not_isSome_iff_eq_none.mp (Bool.eq_false_iff.mp hunasked))
      (.inl hrest)
  · have hmem : e ∈ rest := by
      rw [List.getLast?_append_of_ne_nil _ hrest] at hlast
      exact List.mem_of_getLast? hlast
    rw [hends.appends.responseSchema e hmem]
    exact (or_iff_right hrest).symm

/-- A completion that is cut off at its limit. -/
def cutOff : Completion where
  content := "It is"
  responseId := some "first"
  usage := { status := some "incomplete", incompleteReason := some "max_tokens" }

/-- The rest of an answer is refused because of the form, which was never given up. -/
theorem refused_answer_cutOff :
    let f : Provider.Failure := ⟨.schemaUnsupported, "No."⟩
    let b := hearing .responses [.ok cutOff, .error f]
    let q := Question.whereIsIt (some (.obj []))
    ∃ loop rest, (b.answer q).turn.exchanges = loop ++ rest
      ∧ b.Appends q (b.answer q).turn loop rest
      ∧ rest ≠ []
      ∧ ∀ e ∈ loop, ¬ e.RefusesForm := by
  intro f b q
  obtain ⟨-, loop, rest, e, hsplit, happends, hlast, -, hform⟩ :=
    refused_answer (b := b) (q := q) (f := f) rfl rfl
  have hcarried : ((b.answer q).turn.exchanges.getLast?.map fun e => e.request.responseSchema)
      = some (some (.obj [])) := rfl
  rw [hlast] at hcarried
  have hne : ¬ e.request.responseSchema = none := by simp [Option.some.inj hcarried]
  rw [hform, not_or, not_or] at hne
  exact ⟨loop, rest, hsplit, happends, hne.1, fun e he hrefuses => hne.2.2 ⟨e, he, hrefuses⟩⟩

/-- **So a refusal fails a turn that has a form to give up.** The request for the rest
of its answer asks for the form, and is not made again without it. -/
theorem not_formless_cutOff :
    let f : Provider.Failure := ⟨.schemaUnsupported, "No."⟩
    let b := hearing .responses [.ok cutOff, .error f]
    let q := Question.whereIsIt (some (.obj []))
    ¬ ((b.answer q).outcome = .error (.request f) → f.rejectsSchema = true →
      ∀ e, (b.answer q).turn.exchanges.getLast? = some e → e.outcome = some (.error f) →
        e.request.responseSchema = none) := by
  intro f b q h
  have hformless := h rfl rfl _ rfl rfl
  cases hformless

end Responder

end Colloquy
