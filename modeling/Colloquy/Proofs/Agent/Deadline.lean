import Colloquy.Proofs.Agent.Budget
import Colloquy.Proofs.Tool.Instant

/-!
# Runs and time

Time passes in a run while it waits for replies and while handlers sleep, and
nothing in a run looks at the clock but the deadline. So there are two runs to
compare a run with. One has no deadline: as long as its clock does not go beyond
the deadline the run is the same, and a run is late exactly if that clock does
(`steps_of_clock_le`, `ending_steps_of_lt`). The other takes no time at all, with a
provider that replies at once and handlers that do not sleep (`Agent.instant`): it
makes the same steps, and what it comes to differs in nothing but the times
(`Run.Report.timeless`).

Where no deadline is missed, a run fails only if the provider does. Everything
that goes wrong with a call ends up in its record.
-/

namespace Colloquy

open Provider (Completion Request)
open Tool (Batch)

/-- A provider that replies at once. -/
def Provider.instant (p : Provider) : Provider :=
  { p with reply := fun n request => { outcome := (p.reply n request).outcome } }

/-- **How long a provider takes** for requests that are made one after the other. -/
def Provider.waiting (p : Provider) (requests : List Request) : Nat :=
  (requests.mapIdx fun n request => (p.reply n request).delay).sum

theorem Provider.waiting_concat (p : Provider) (requests : List Request) (request : Request) :
    p.waiting (requests ++ [request])
      = p.waiting requests + (p.reply requests.length request).delay := by
  unfold waiting
  rw [List.mapIdx_concat, List.sum_append, List.sum_singleton]

/-- **A run without the times of it.** -/
def Run.timeless (r : Run) : Run :=
  { r with batches := r.batches.map Batch.timeless, clock := 0, timeline := [] }

/-- **A report without the times of its run.** -/
def Run.Report.timeless (report : Run.Report) : Run.Report :=
  { report with run := report.run.timeless }

/-- **The clock of a run is right**: it shows how long the provider has taken, and
the batches. -/
def Run.KeepsTime (p : Provider) (r : Run) : Prop :=
  r.clock = p.waiting r.requests + (r.batches.map Batch.duration).sum

/-- **The provider has failed none of the requests of a run.** -/
def Run.Served (p : Provider) (r : Run) : Prop :=
  ∀ n request, r.requests[n]? = some request → ∃ c, (p.reply n request).outcome = .ok c

/-- A request of one more is one of those before it, or the new one. -/
theorem getElem?_concat_eq_some {requests : List Request} {new request : Request} {n : Nat}
    (h : (requests ++ [new])[n]? = some request) :
    requests[n]? = some request ∨ n = requests.length ∧ request = new := by
  rw [List.getElem?_append] at h
  split at h
  · exact .inl h
  · obtain ⟨hlt, rfl⟩ := List.getElem?_eq_some_iff.mp h
    rw [List.length_singleton] at hlt
    exact .inr ⟨by omega, by simp⟩

/-- One request more is served if it is. -/
theorem Run.Served.concat {p : Provider} {r r' : Run} {request : Request} (h : r.Served p)
    (hrequests : r'.requests = r.requests ++ [request])
    (hserved : ∃ c, (p.reply r.requests.length request).outcome = .ok c) : r'.Served p := by
  intro n request' hn
  rw [hrequests] at hn
  rcases getElem?_concat_eq_some hn with hn | ⟨rfl, rfl⟩
  · exact h n request' hn
  · exact hserved

namespace Agent

variable (a : Agent) (t : Task)

/-- **An agent for which nothing takes any time.** -/
def instant : Agent :=
  { a with provider := a.provider.instant, registry := a.registry.instant }

/-- **The batch of a response takes as long as its handlers sleep**: the sum of
their times, or the longest of them where several calls are executed at once. -/
def Lasts (c : Completion) (batch : Batch) : Prop :=
  ∃ past sleeps, Tool.AccountFor a.provider.mode a.registry t.context past c.toolCalls
      batch.invoked sleeps batch.records
    ∧ batch.duration
      = if a.parallel = true ∧ 1 < c.toolCalls.length then sleeps.foldl max 0 else sleeps.sum

/-- **A run fails as its provider fails.** -/
structure FailsAsProvider (report : Run.Report) : Prop where
  /-- It fails exactly if one of its requests does, and with the failure of it. -/
  ending : ∀ f, report.ending = .error f ↔ ∃ n request failure,
    report.run.requests[n]? = some request
      ∧ (a.provider.reply n request).outcome = .error failure ∧ f = .request failure
  /-- No request is made after one that fails. -/
  last : ∀ n request failure, report.run.requests[n]? = some request →
    (a.provider.reply n request).outcome = .error failure →
    report.run.requests.length = n + 1

variable {a t} {d : Nat} {messages : List Message} {r r' r₀ : Run} {c : Completion}
variable {report : Run.Report}

/-! ## Being late -/

/-- What is there after the deadline is late. -/
theorem missed?_of_lt {deadline time : Nat} (h : deadline < time) :
    missed? (some deadline) time = some deadline := by
  unfold missed?
  rw [Option.filter_some, if_pos (by simpa using h)]

theorem Hears.of_le (h : a.Hears t none r c) (hd : r.clock + (a.replyTo t r).delay ≤ d) :
    a.Hears t (some d) r c where
  reply := h.reply
  intime := missed?_of_le hd

/-- **A step that is done by the deadline is the same with one.** -/
theorem StepsTo.of_clock_le (h : a.StepsTo t none r c r') (hd : r'.clock ≤ d) :
    a.StepsTo t (some d) r c r' := by
  cases h with
  | calls hears asks within intime =>
    have hheard : r.clock + (a.replyTo t r).delay ≤ d := (Nat.le_add_right _ _).trans hd
    exact .calls (hears.of_le hheard) asks within (missed?_of_le hd)
  | rejected hears asks validator verdict =>
    exact .rejected (hears.of_le hd) asks validator verdict

/-- **Without a deadline an end is there when the reply is**, and nothing is
executed for it. -/
theorem Closes.clock_eq (h : a.Closes t none r report) :
    report.run.clock = r.clock + (a.replyTo t r).delay := by
  cases h with
  | late missed => cases missed
  | abandoned hears asks within missed => cases missed
  | failed | tooMany | answered | accepted | gaveUp => rfl

/-- **An end that comes by the deadline is the same with one.** -/
theorem Closes.of_clock_le (h : a.Closes t none r report) (hd : report.run.clock ≤ d) :
    a.Closes t (some d) r report := by
  rw [h.clock_eq] at hd
  cases h with
  | late missed => cases missed
  | failed reply intime => exact .failed reply (missed?_of_le hd)
  | tooMany hears asks beyond => exact .tooMany (hears.of_le hd) asks beyond
  | abandoned hears asks within missed => cases missed
  | answered hears asks validator => exact .answered (hears.of_le hd) asks validator
  | accepted hears asks validator verdict =>
    exact .accepted (hears.of_le hd) asks validator verdict
  | gaveUp hears asks validator verdict => exact .gaveUp (hears.of_le hd) asks validator verdict

/-- **A reply that does not come in time ends a run.** -/
theorem exists_closes_of_late (hd : d < r.clock + (a.replyTo t r).delay) :
    ∃ report, a.Closes t (some d) r report ∧ report.ending = .error a.tooLate :=
  ⟨_, .late (missed?_of_lt hd), rfl⟩

/-- **A step that is not done in time ends a run.** -/
theorem StepsTo.exists_closes_of_lt (h : a.StepsTo t none r c r') (hd : d < r'.clock) :
    ∃ report, a.Closes t (some d) r report ∧ report.ending = .error a.tooLate := by
  by_cases hheard : r.clock + (a.replyTo t r).delay ≤ d
  · cases h with
    | calls hears asks within intime =>
      exact ⟨_, .abandoned (hears.of_le hheard) asks within (missed?_of_lt hd), rfl⟩
    | rejected hears asks validator verdict => exact absurd hheard (Nat.not_le.mpr hd)
  · exact exists_closes_of_late (Nat.lt_of_not_le hheard)

theorem StepsTo.clock_le {d : Option Nat} (h : a.StepsTo t d r c r') : r.clock ≤ r'.clock := by
  cases h with
  | calls hears asks within intime => exact (Nat.le_add_right _ _).trans (Nat.le_add_right _ _)
  | rejected hears asks validator verdict => exact Nat.le_add_right _ _

theorem clock_le_steps (n : Nat) (r : Run) : r.clock ≤ (a.steps t none n r).run.clock := by
  induction n generalizing r with
  | zero => exact Nat.le_refl _
  | succ n ih =>
    rcases stepsTo_or_closes a t none r with ⟨c, r', h⟩ | ⟨report, h⟩
    · rw [h.steps_eq]
      exact h.clock_le.trans (ih r')
    · rw [h.steps_eq, h.clock_eq]
      exact Nat.le_add_right _ _

/-- **Steps that are done by the deadline are the same with one.** -/
theorem steps_of_clock_le (n : Nat) {r : Run} (hd : (a.steps t none n r).run.clock ≤ d) :
    a.steps t (some d) n r = a.steps t none n r := by
  induction n generalizing r with
  | zero => rfl
  | succ n ih =>
    rcases stepsTo_or_closes a t none r with ⟨c, r', h⟩ | ⟨report, h⟩
    · rw [h.steps_eq] at hd ⊢
      rw [(h.of_clock_le ((clock_le_steps n r').trans hd)).steps_eq, ih hd]
    · rw [h.steps_eq] at hd ⊢
      exact (h.of_clock_le hd).steps_eq n

/-- **Steps that are not done by the deadline come to nothing**, whatever they
would have come to. -/
theorem ending_steps_of_lt (n : Nat) {r : Run} (hr : r.clock ≤ d)
    (hd : d < (a.steps t none n r).run.clock) :
    (a.steps t (some d) n r).ending = .error a.tooLate := by
  induction n generalizing r with
  | zero => exact absurd hr (Nat.not_le.mpr hd)
  | succ n ih =>
    rcases stepsTo_or_closes a t none r with ⟨c, r', h⟩ | ⟨report, h⟩
    · rw [h.steps_eq] at hd
      -- the step is in time and the rest is late, or the step is
      by_cases hr' : r'.clock ≤ d
      · rw [(h.of_clock_le hr').steps_eq]
        exact ih hr' hd
      · obtain ⟨report, hlate, hending⟩ := h.exists_closes_of_lt (Nat.lt_of_not_le hr')
        rw [hlate.steps_eq, hending]
    · rw [h.steps_eq, h.clock_eq] at hd
      obtain ⟨report, hlate, hending⟩ := exists_closes_of_late hd
      rw [hlate.steps_eq, hending]

/-! ## The clock -/

/-- The reply to one request more. -/
theorem reply_length_requests (r : Run) :
    a.provider.reply r.requests.length (a.request t r) = a.replyTo t r := by
  rw [Run.requests, List.length_map]
  rfl

theorem StepsTo.keepsTime (h : a.StepsTo t none r c r') (hr : r.KeepsTime a.provider) :
    r'.KeepsTime a.provider := by
  unfold Run.KeepsTime at hr ⊢
  rw [h.requests_eq, Provider.waiting_concat, reply_length_requests]
  cases h with
  | calls hears asks within intime =>
    show r.clock + (a.replyTo t r).delay + (a.execute t r c).duration
      = _ + ((r.batches ++ [a.execute t r c]).map Batch.duration).sum
    rw [List.map_append, List.sum_append, List.map_singleton, List.sum_singleton]
    omega
  | rejected hears asks validator verdict =>
    show r.clock + (a.replyTo t r).delay = _ + (r.batches.map Batch.duration).sum
    omega

theorem Closes.keepsTime (h : a.Closes t none r report) (hr : r.KeepsTime a.provider) :
    report.run.KeepsTime a.provider := by
  unfold Run.KeepsTime at hr ⊢
  rw [h.requests_eq, Provider.waiting_concat, reply_length_requests, h.clock_eq, h.batches_eq]
  omega

/-- **Without a deadline the clock shows how long everything has taken.** -/
theorem keepsTime_runUntil (a : Agent) (t : Task) (messages : List Message) :
    (a.runUntil none t messages).run.KeepsTime a.provider :=
  steps_induction (P := Run.KeepsTime a.provider)
    (Q := fun report => report.run.KeepsTime a.provider)
    (fun _ _ _ hr hstep => hstep.keepsTime hr) (fun _ _ hr hclose => hclose.keepsTime hr)
    (fun _ hr => hr) _ rfl

/-- **What is executed for responses takes as long as it says.** -/
theorem forall₂_lasts_executedFor (a : Agent) (t : Task) (cs : List Completion) :
    List.Forall₂ (a.Lasts t) (cs.filter Completion.hasToolCalls) (a.executedFor t cs) := by
  induction cs using List.reverseRecOn with
  | nil => exact .nil
  | append_singleton cs c ih =>
    rw [executedFor_concat, List.filter_append, List.filter_singleton]
    refine List.rel_append ih ?_
    cases c.hasToolCalls with
    | false => exact .nil
    | true =>
      refine .cons ?_ .nil
      exact ⟨_, Tool.accountFor_execute a.provider.mode a.parallel a.registry t.context
        (a.invokedFor t cs) c.toolCalls⟩

/-! ## Failures -/

theorem Hears.served {d : Option Nat} (h : a.Hears t d r c) :
    ∃ c, (a.provider.reply r.requests.length (a.request t r)).outcome = .ok c :=
  ⟨c, reply_length_requests r ▸ h.reply⟩

theorem StepsTo.served {d : Option Nat} (h : a.StepsTo t d r c r') (hr : r.Served a.provider) :
    r'.Served a.provider := by
  refine hr.concat h.requests_eq ?_
  cases h with
  | calls hears asks within intime => exact hears.served
  | rejected hears asks validator verdict => exact hears.served

/-- A run that is served and has come to an end does not fail. -/
theorem failsAsProvider_of_served {e : Run.Ending} (hr : report.run.Served a.provider)
    (hok : report.ending = .ok e) : a.FailsAsProvider report where
  ending f := by
    refine iff_of_false (by rw [hok]; nofun) ?_
    rintro ⟨n, request, failure, hn, hfailure, -⟩
    obtain ⟨c, hc⟩ := hr n request hn
    rw [hc] at hfailure
    cases hfailure
  last n request failure hn hfailure := by
    obtain ⟨c, hc⟩ := hr n request hn
    rw [hc] at hfailure
    cases hfailure

/-- A run whose last request fails, fails with it. -/
theorem failsAsProvider_of_failed {f : Provider.Failure} (hr : r.Served a.provider)
    (hrequests : report.run.requests = r.requests ++ [a.request t r])
    (hreply : (a.replyTo t r).outcome = .error f) (hending : report.ending = .error (.request f)) :
    a.FailsAsProvider report := by
  have honly {n : Nat} {request : Request} {failure : Provider.Failure}
      (hn : report.run.requests[n]? = some request)
      (hfailure : (a.provider.reply n request).outcome = .error failure) :
      n = r.requests.length ∧ failure = f := by
    rw [hrequests] at hn
    rcases getElem?_concat_eq_some hn with hn | ⟨rfl, rfl⟩
    · -- those before it were served
      obtain ⟨c, hc⟩ := hr n request hn
      rw [hc] at hfailure
      cases hfailure
    · rw [reply_length_requests, hreply] at hfailure
      exact ⟨rfl, (Except.error.inj hfailure).symm⟩
  refine ⟨fun f' => ⟨fun h => ?_, ?_⟩, fun n request failure hn hfailure => ?_⟩
  · rw [hending] at h
    refine ⟨r.requests.length, a.request t r, f, ?_, ?_, (Except.error.inj h).symm⟩
    · rw [hrequests, List.getElem?_concat_length]
    · rw [reply_length_requests, hreply]
  · rintro ⟨n, request, failure, hn, hfailure, rfl⟩
    rw [hending, (honly hn hfailure).2]
  · rw [hrequests, (honly hn hfailure).1, List.length_append]
    rfl

/-- **Without a deadline nothing but the provider fails a run.** -/
theorem Closes.failsAsProvider (h : a.Closes t none r report) (hr : r.Served a.provider) :
    a.FailsAsProvider report := by
  have hrequests := h.requests_eq
  cases h with
  | late missed => cases missed
  | failed reply intime => exact failsAsProvider_of_failed hr hrequests reply rfl
  | tooMany hears asks beyond =>
    exact failsAsProvider_of_served (hr.concat hrequests hears.served) rfl
  | abandoned hears asks within missed => cases missed
  | answered hears asks validator =>
    exact failsAsProvider_of_served (hr.concat hrequests hears.served) rfl
  | accepted hears asks validator verdict =>
    exact failsAsProvider_of_served (hr.concat hrequests hears.served) rfl
  | gaveUp hears asks validator verdict =>
    exact failsAsProvider_of_served (hr.concat hrequests hears.served) rfl

theorem failsAsProvider_runUntil (a : Agent) (t : Task) (messages : List Message) :
    a.FailsAsProvider (a.runUntil none t messages) :=
  steps_induction (P := Run.Served a.provider) (Q := a.FailsAsProvider)
    (fun _ _ _ hr hstep => hstep.served hr) (fun _ _ hr hclose => hclose.failsAsProvider hr)
    (fun _ hr => failsAsProvider_of_served hr rfl) _ (by simp [Run.Served, Run.requests, Run.start])

/-! ## Taking no time -/

/-- A run asks the same whatever its times are. -/
theorem request_instant (hr : r₀.timeless = r.timeless) :
    a.instant.request t r₀ = a.request t r := by
  have htimeless : a.request t r₀.timeless = a.request t r.timeless := congrArg _ hr
  refine Eq.trans ?_ htimeless
  unfold request
  rw [show a.instant.registry.definitions = a.registry.definitions from
    Tool.Registry.definitions_instant a.registry]
  rfl

/-- It gets the same reply, and at once. -/
theorem replyTo_instant (hr : r₀.timeless = r.timeless) :
    a.instant.replyTo t r₀ = { outcome := (a.replyTo t r).outcome } := by
  have hexchanges : r₀.timeless.exchanges = r.timeless.exchanges := congrArg _ hr
  show ({ outcome := (a.provider.reply r₀.timeless.exchanges.length _).outcome } :
    Provider.Reply) = _
  rw [request_instant hr, hexchanges]
  rfl

theorem invoked_timeless (r : Run) : r.timeless.invoked = r.invoked := by
  unfold Run.invoked Run.timeless
  rw [List.flatMap_map]
  rfl

/-- It executes the same calls. -/
theorem timeless_execute (hr : r₀.timeless = r.timeless) (c : Completion) :
    (a.instant.execute t r₀ c).timeless = (a.execute t r c).timeless := by
  unfold execute
  rw [← invoked_timeless r₀, hr, invoked_timeless]
  exact Tool.timeless_execute_instant _ _ _ _ _ _

theorem duration_execute_instant (a : Agent) (t : Task) (r : Run) (c : Completion) :
    (a.instant.execute t r c).duration = 0 :=
  Tool.duration_execute_instant _ _ _ _ _ _

theorem timeless_heard (hr : r₀.timeless = r.timeless) (c : Completion) :
    (a.instant.heard t r₀ c).timeless = (a.heard t r c).timeless := by
  unfold heard
  rw [request_instant hr]
  show (r₀.timeless.await _ _ 0).account c = (r.timeless.await _ _ 0).account c
  rw [hr]

theorem timeless_finishCalls (r : Run) (batch : Batch) (messages : List Message)
    (items : List Provider.Item) :
    (r.finishCalls batch messages items).timeless
      = { r.timeless.push messages with
          followUp := some items
          batches := r.timeless.batches ++ [batch.timeless] } := by
  unfold Run.finishCalls Run.timeless
  simp only [List.map_append]
  rfl

/-- It says the same of the calls. -/
theorem timeless_afterCalls (hr : r₀.timeless = r.timeless) (c : Completion) :
    (a.instant.afterCalls t r₀ c).timeless = (a.afterCalls t r c).timeless := by
  have hbatch : (a.instant.execute t r₀ c).timeless = (a.execute t r c).timeless :=
    timeless_execute hr c
  have hrecords : (a.instant.execute t r₀ c).records = (a.execute t r c).records :=
    (Batch.mk.inj hbatch).1
  have hheard : ((a.instant.heard t r₀ c).countCalls c).timeless
      = ((a.heard t r c).countCalls c).timeless :=
    congrArg (fun r : Run => r.countCalls c) (timeless_heard hr c)
  unfold afterCalls callMessages
  rw [timeless_finishCalls, timeless_finishCalls, hheard, hbatch, hrecords]
  rfl

/-- It says the same of a candidate. -/
theorem timeless_afterCandidate (hr : r₀.timeless = r.timeless) (c : Completion)
    (w : Answer.Validator) :
    (a.instant.afterCandidate t r₀ c w).timeless = (a.afterCandidate t r c w).timeless :=
  congrArg (fun r : Run =>
    { r.push [.assistant c.content] with validator := some (w.receive c.content).1 })
    (timeless_heard hr c)

/-- What takes no time is never late. -/
theorem intime_instant (hr : r₀.timeless = r.timeless) (hclock : r₀.clock = 0) :
    missed? (some d) (r₀.clock + (a.instant.replyTo t r₀).delay) = none := by
  rw [replyTo_instant hr, hclock]
  exact missed?_of_le (Nat.zero_le d)

theorem Hears.instant (h : a.Hears t none r c) (hr : r₀.timeless = r.timeless)
    (hclock : r₀.clock = 0) : a.instant.Hears t (some d) r₀ c where
  reply := by
    rw [replyTo_instant hr]
    exact h.reply
  intime := intime_instant hr hclock

/-- **A step is the same step where nothing takes any time**, and no time passes. -/
theorem StepsTo.instant (h : a.StepsTo t none r c r') (hr : r₀.timeless = r.timeless)
    (hclock : r₀.clock = 0) :
    ∃ r₀', a.instant.StepsTo t (some d) r₀ c r₀' ∧ r₀'.timeless = r'.timeless
      ∧ r₀'.clock = 0 := by
  have hused : r₀.timeless.callsUsed = r.timeless.callsUsed := congrArg _ hr
  have hvalidator : r₀.timeless.validator = r.timeless.validator := congrArg _ hr
  have hdelay : (a.instant.replyTo t r₀).delay = 0 := by rw [replyTo_instant hr]
  cases h with
  | calls hears asks within intime =>
    have hdone : r₀.clock + (a.instant.replyTo t r₀).delay + (a.instant.execute t r₀ c).duration
        = 0 := by rw [hclock, hdelay, duration_execute_instant]
    refine ⟨_, .calls (hears.instant hr hclock) asks (hused ▸ within) ?_,
      timeless_afterCalls hr c, hdone⟩
    rw [hdone]
    exact missed?_of_le (Nat.zero_le d)
  | @rejected w rejection n hears asks validator verdict =>
    refine ⟨_, .rejected (hears.instant hr hclock) asks (hvalidator.trans validator) verdict,
      congrArg (fun r : Run => a.askAgain r rejection) (timeless_afterCandidate hr c w), ?_⟩
    show r₀.clock + (a.instant.replyTo t r₀).delay = 0
    rw [hclock, hdelay]

/-- **An end is the same end.** -/
theorem Closes.instant (h : a.Closes t none r report) (hr : r₀.timeless = r.timeless)
    (hclock : r₀.clock = 0) :
    ∃ report₀, a.instant.Closes t (some d) r₀ report₀
      ∧ report₀.timeless = report.timeless := by
  have hused : r₀.timeless.callsUsed = r.timeless.callsUsed := congrArg _ hr
  have hvalidator : r₀.timeless.validator = r.timeless.validator := congrArg _ hr
  cases h with
  | late missed => cases missed
  | @failed f reply intime =>
    have hreply : (a.instant.replyTo t r₀).outcome = .error f := by
      rw [replyTo_instant hr]
      exact reply
    refine ⟨_, .failed hreply (intime_instant hr hclock), ?_⟩
    rw [request_instant hr]
    exact congrArg (fun r : Run => (⟨_, r.await _ _ 0⟩ : Run.Report)) hr
  | @tooMany c hears asks beyond =>
    exact ⟨_, .tooMany (hears.instant hr hclock) asks (hused ▸ beyond),
      congrArg (fun r : Run => (⟨_, r.countCalls c⟩ : Run.Report)) (timeless_heard hr c)⟩
  | abandoned hears asks within missed => cases missed
  | @answered c hears asks validator =>
    exact ⟨_, .answered (hears.instant hr hclock) asks (hvalidator.trans validator),
      congrArg (fun r : Run => (⟨_, r.push _⟩ : Run.Report)) (timeless_heard hr c)⟩
  | @accepted c w answer n hears asks validator verdict =>
    exact ⟨_, .accepted (hears.instant hr hclock) asks (hvalidator.trans validator) verdict,
      congrArg (Run.Report.mk _) (timeless_afterCandidate hr c w)⟩
  | @gaveUp c w rejection n history hears asks validator verdict =>
    exact ⟨_, .gaveUp (hears.instant hr hclock) asks (hvalidator.trans validator) verdict,
      congrArg (Run.Report.mk _) (timeless_afterCandidate hr c w)⟩

/-- **Steps come to the same where nothing takes any time.** -/
theorem timeless_steps_instant (n : Nat) {r r₀ : Run} (hr : r₀.timeless = r.timeless)
    (hclock : r₀.clock = 0) :
    (a.steps t none n r).timeless = (a.instant.steps t (some d) n r₀).timeless := by
  induction n generalizing r r₀ with
  | zero => exact congrArg (Run.Report.mk _) hr.symm
  | succ n ih =>
    rcases stepsTo_or_closes a t none r with ⟨c, r', h⟩ | ⟨report, h⟩
    · obtain ⟨r₀', h₀, hr', hclock'⟩ := h.instant (d := d) hr hclock
      rw [h.steps_eq, h₀.steps_eq]
      exact ih hr' hclock'
    · obtain ⟨report₀, h₀, hreport⟩ := h.instant (d := d) hr hclock
      rw [h.steps_eq, h₀.steps_eq, hreport]

/-- **A run without a deadline comes to the same as one that takes no time.** -/
theorem timeless_run_instant (a : Agent) (t : Task) (messages : List Message) :
    (a.runUntil none t messages).timeless = (a.instant.run t messages).timeless :=
  timeless_steps_instant (r := .start a t messages) a.limits.maxSteps rfl rfl

/-! ## Runs with a deadline -/

/-- **What the deadline does to a run.** Let the run go on without one: its clock
then shows how long the provider and the handlers have taken, in milliseconds. If that
is not beyond the seconds of the limits the run is the same, as it would also be, but
for the times, if nothing took any time; and it fails only as its provider fails. If it
is, the run is late, whatever it would have come to. -/
theorem deadline_run (a : Agent) (t : Task) (messages : List Message) :
    let free := a.runUntil none t messages
    let report := a.run t messages
    (free.run.clock
        = a.provider.waiting free.run.requests + (free.run.batches.map Batch.duration).sum
      ∧ ∃ executed, List.Forall₂ (a.Lasts t) (executed.filter Completion.hasToolCalls)
            free.run.batches
          ∧ (free.run.completions = executed ∨ ∃ c, free.run.completions = executed ++ [c]))
      ∧ (free.run.clock ≤ a.limits.timeoutSecs * 1000 →
          report = free ∧ report.timeless = (a.instant.run t messages).timeless
            ∧ a.FailsAsProvider report)
      ∧ (a.limits.timeoutSecs * 1000 < free.run.clock →
          report.ending = .error (.timeout a.limits.timeoutSecs)) := by
  intro free report
  have hdeadline : a.limits.timeoutSecs * 1000 = a.limits.deadline := rfl
  rw [hdeadline]
  refine ⟨⟨keepsTime_runUntil a t messages, ?_⟩, fun hd => ?_, fun hd => ?_⟩
  · obtain ⟨executed, hbatches, hcompletions⟩ := exists_batches_eq a t none messages
    exact ⟨executed, hbatches ▸ forall₂_lasts_executedFor a t executed, hcompletions⟩
  · have hreport : report = free := steps_of_clock_le _ hd
    rw [hreport]
    exact ⟨rfl, timeless_run_instant a t messages, failsAsProvider_runUntil a t messages⟩
  · exact ending_steps_of_lt _ (Nat.zero_le _) hd

/-- An agent with a minute for a run, whose provider takes half of it but for a second for
each reply, and whose tool sleeps for a while. -/
def lookingUpSlowly (sleep : Nat) : Agent where
  provider := .ofScript .responses 29000
    { outcomes := [.ok (.lookUp none), .ok { content := "Here." }] }
  registry := ⟨[{ Tool.lookUp with handler := fun i => { Tool.lookUp.handler i with sleep } }]⟩

/-- A run that takes just the minute it may take is in time, and one that takes a
millisecond more is late. -/
theorem deadline_run_lookingUpSlowly :
    let messages := [Message.user "Where is it?"]
    let inTime := lookingUpSlowly 2000
    let late := lookingUpSlowly 2001
    ((inTime.runUntil none {} messages).run.clock = inTime.limits.timeoutSecs * 1000
        ∧ (inTime.run {} messages).ending = .ok (.answered "Here.")
        ∧ inTime.run {} messages = inTime.runUntil none {} messages
        ∧ (inTime.run {} messages).timeless = (inTime.instant.run {} messages).timeless
        ∧ inTime.FailsAsProvider (inTime.run {} messages))
      ∧ (late.runUntil none {} messages).run.clock = late.limits.timeoutSecs * 1000 + 1
        ∧ (late.runUntil none {} messages).ending = .ok (.answered "Here.")
        ∧ (late.run {} messages).ending = .error (.timeout 60) := by
  intro messages inTime late
  have hinTime : (inTime.runUntil none {} messages).run.clock
      = inTime.limits.timeoutSecs * 1000 := by decide +kernel
  have hlate : (late.runUntil none {} messages).run.clock
      = late.limits.timeoutSecs * 1000 + 1 := by decide +kernel
  obtain ⟨hsame, hinstant⟩ := (deadline_run inTime {} messages).2.1 hinTime.le
  refine ⟨⟨hinTime, congrArg Run.Report.ending hsame, hsame, hinstant⟩, hlate, rfl, ?_⟩
  exact (deadline_run late {} messages).2.2 (hlate ▸ Nat.lt_succ_self _)

end Agent

end Colloquy
