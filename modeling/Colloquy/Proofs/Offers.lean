import Colloquy.Proofs.Agent.Course
import Colloquy.Proofs.Tool.Listing
import Colloquy.Proofs.Turn.Thread

/-!
# What requests offer

A provider that keeps the beginning of a prompt for the next request can do so only if the
tools on offer look the same each time. They do: every request of a run offers the tools of
its agent as the registry lists them (`Agent.tools_of_mem_requests`), and so does every
request of a turn that may be answered with calls (`Responder.tools_of_mem_requests`). The
list depends on the last tool of each name only, and not on the order in which the tools were
registered or on those that were replaced. Neither does anything else that becomes of a run,
of a turn or of a call (`Tool.Registry.canonical_ofList`).
-/

namespace Colloquy

open Provider (Outcome Request)
open Tool (Registry)

/-- **Every request of a run offers the tools of the agent**, as its registry lists them. -/
theorem Agent.tools_of_mem_requests {a : Agent} {t : Task} {deadline : Option Nat}
    {messages : List Message} {request : Request}
    (h : request ∈ (a.runUntil deadline t messages).run.requests) :
    request.tools = a.registry.definitions := by
  rw [requests_runUntil] at h
  obtain ⟨r, -, rfl⟩ := List.mem_map.mp h
  rfl

/-- **What a question offers.** -/
def Question.definitions (q : Question) : List Tool.Definition :=
  (q.tools.map Registry.definitions).getD []

/-- A registry without tools is as good as none. -/
theorem Question.definitions_offered (q : Question) :
    (q.offered.map Registry.definitions).getD [] = q.definitions := by
  unfold offered definitions
  cases q.tools with
  | none => rfl
  | some registry =>
    rw [Option.filter_some]
    split_ifs with hfilled
    · rfl
    · have hnil : registry.tools = [] := by simpa [Registry.isEmpty] using hfilled
      simp [Registry.definitions, hnil]

namespace Responder

variable {b : Responder} {q : Question} {t t' : Turn} {outcome : Outcome} {request : Request}

/-- **All that was asked offers the tools of the question.** -/
def Offers (q : Question) (t : Turn) : Prop :=
  ∀ request ∈ t.requests, request.tools = q.definitions

/-- One request more. -/
theorem Offers.asks (h : Offers q t) (hrequest : request.tools = q.definitions)
    (ht : t'.requests = t.requests ++ [request]) : Offers q t' := by
  rw [Offers, ht]
  exact List.forall_mem_append.mpr ⟨h, List.forall_mem_singleton.mpr hrequest⟩

/-- **Asking for a response offers the tools**, with and without a form. -/
theorem Offers.completes (h : Offers q t) (ht : b.Completes q t t' outcome) : Offers q t' := by
  have hround : (b.roundRequest q t).tools = q.definitions := q.definitions_offered
  have hagain : (b.formlessRequest q t).tools = q.definitions := hround
  have hformless (f : Provider.Failure) : Offers q (b.formless q t f) :=
    h.asks hround List.map_append
  cases ht with
  | heard _ => exact h.asks hround List.map_append
  | refused _ _ => exact h.asks hround List.map_append
  | heardFormless _ _ _ => exact (hformless _).asks hagain List.map_append
  | refusedFormless _ _ _ => exact (hformless _).asks hagain List.map_append

/-- **So do all rounds.** -/
theorem Offers.roundsTo (h : Offers q t) (ht : b.RoundsTo q t t') : Offers q t' := by
  cases ht with
  | calls _ completes _ _ =>
    have ht' := h.completes completes
    unfold Offers Turn.requests afterRound at *
    rw [exchanges_carryOn]
    exact ht'

/-- **What a turn has asked when it ends** offers the tools of the question, but for the rest of
an answer, which is asked for without any. -/
theorem Offers.finishes {report : Turn.Report} (h : Offers q t) (ht : b.Finishes q t report)
    (hrequest : request ∈ report.turn.requests) :
    request.tools = q.definitions
      ∨ request.tools = [] ∧ request.messages = [.ofText .user continuationPrompt] := by
  cases ht with
  | failed completes => exact .inl (h.completes completes request hrequest)
  | cutShort _ completes _ => exact .inl (h.completes completes request hrequest)
  | @answered t' c completes answers =>
    have ht' := h.completes completes
    rcases finish_cases b q t' c with ⟨-, heq⟩ | ⟨id, -, hrest⟩
    · rw [heq] at hrequest
      exact .inl (ht' request hrequest)
    · have hmore : (b.finish q t' c).turn.requests
          = t'.requests ++ [b.continuationRequest q t' id] := by
        rcases hrest with ⟨rest, -, heq⟩ | ⟨f, -, heq⟩ <;> rw [heq] <;> exact List.map_append
      rw [hmore] at hrequest
      rcases List.mem_append.mp hrequest with hround | hlast
      · exact .inl (ht' request hround)
      · rw [List.mem_singleton.mp hlast]
        exact .inr ⟨rfl, rfl⟩

/-- **Every request of a turn offers the tools of the question**, unless it asks for the rest of
an answer. -/
theorem tools_of_mem_requests (h : request ∈ (b.answer q).turn.requests) :
    request.tools = q.definitions
      ∨ request.tools = [] ∧ request.messages = [.ofText .user continuationPrompt] :=
  rounds_induction (P := Offers q)
    (Q := fun report => ∀ request ∈ report.turn.requests, request.tools = q.definitions
      ∨ request.tools = [] ∧ request.messages = [.ofText .user continuationPrompt])
    (fun _ _ h hround => h.roundsTo hround) (fun _ _ h hreport _ => h.finishes hreport) _
    (fun _ hnone => absurd hnone List.not_mem_nil) request h

end Responder

/-- **What is registered is what is offered, in whatever order.** A registry lists the last tool
of each name, once and in the order of the bytes of the names, and finds it and no other under
its name. Every request that offers tools offers this list. Registrations that end with the
same tool for each name can therefore not be told apart: runs and turns with them ask the same
and come to the same, and every call is brought to the same handler. -/
theorem Tool.Registry.canonical_ofList (ts : List Tool) :
    (Registry.ofList ts).Lists ts
    ∧ (∀ (a : Agent) (deadline : Option Nat) (t : Task) (messages : List Message),
      a.registry = .ofList ts → ∀ request ∈ (a.runUntil deadline t messages).run.requests,
        request.tools = (Registry.ofList ts).definitions)
    ∧ (∀ (b : Responder) (q : Question), q.tools = some (.ofList ts) →
      ∀ request ∈ (b.answer q).turn.requests, request.tools = (Registry.ofList ts).definitions
        ∨ request.tools = []
          ∧ request.messages = [.ofText .user Responder.continuationPrompt])
    ∧ ∀ us : List Tool, (∀ tool, IsLast us tool ↔ IsLast ts tool) →
      (∀ (a : Agent) (deadline : Option Nat) (t : Task) (messages : List Message),
        { a with registry := .ofList us : Agent }.runUntil deadline t messages
          = { a with registry := .ofList ts : Agent }.runUntil deadline t messages)
      ∧ (∀ (b : Responder) (q : Question),
        b.answer { q with tools := some (.ofList us) }
          = b.answer { q with tools := some (.ofList ts) })
      ∧ ∀ (context : Context) (past : List String) (call : ToolCall),
        dispatch (.ofList us) context past call = dispatch (.ofList ts) context past call := by
  refine ⟨lists_ofList ts, ?_, ?_, ?_⟩
  · rintro a deadline t messages hregistry request hrequest
    rw [Agent.tools_of_mem_requests hrequest, hregistry]
  · rintro b q htools request hrequest
    have hdefinitions : q.definitions = (Registry.ofList ts).definitions := by
      rw [Question.definitions, htools]
      rfl
    exact hdefinitions ▸ Responder.tools_of_mem_requests hrequest
  · intro us hlast
    rw [ofList_congr hlast]
    exact ⟨fun _ _ _ _ => rfl, fun _ _ => rfl, fun _ _ _ => rfl⟩

end Colloquy
