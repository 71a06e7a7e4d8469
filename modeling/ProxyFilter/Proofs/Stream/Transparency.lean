import ProxyFilter.Proofs.Behavior.Bodies
import ProxyFilter.Proofs.Behavior.Failures
import ProxyFilter.Proofs.Dialogue.Buffering
import ProxyFilter.Proofs.Stream.Resumption

/-!
# Failures at the end of a body

At the end of a buffered body a stream makes two or three calls, each of which may fail. A
failure is always the last call: the stream goes on with its response body as it was, has
answered nothing and is finished, so that nothing is called behind it either.
-/

namespace ProxyFilter

open Dialogue TraceEntry

namespace TraceEntry

/-- Whether nothing fails in a trace, and no response body is replaced. -/
structure Clean (trace : List TraceEntry) : Prop where
  /-- No call fails. -/
  failures_eq : failures trace = []
  /-- No body is replaced. -/
  replaces_eq : replaces trace = false

/-- A trace that breaks off: it is clean up to a call that fails, and behind that comes nothing
but its record. -/
inductive BreaksOff : List TraceEntry → Prop where
  /-- The clean part, and the call that fails. -/
  | intro (opening : List TraceEntry) (made : Call) (status : Status) (record : Record)
      (hclean : Clean opening) :
    BreaksOff (opening ++ [.asked made (.error status), .noted record])

section

variable {opening ending trace : List TraceEntry}

/-- A trace without entries is clean. -/
theorem Clean.nil : Clean [] := ⟨rfl, rfl⟩

/-- Two clean traces are clean one behind the other. -/
theorem Clean.append (hopening : Clean opening) (hending : Clean ending) :
    Clean (opening ++ ending) where
  failures_eq := by
    rw [failures_append, hopening.failures_eq, hending.failures_eq, List.append_nil]
  replaces_eq := by
    rw [replaces_append, hopening.replaces_eq, hending.replaces_eq, Bool.or_self]

/-- A record may stand before a clean trace. -/
theorem Clean.noted (h : Clean trace) (record : Record) : Clean (.noted record :: trace) :=
  ⟨h.1, h.2⟩

/-- Whichever call fails in a trace that breaks off, nothing has failed before it and nothing
is called behind it: it does not stand within the clean part, so it is the one at the end. -/
theorem BreaksOff.last (h : BreaksOff trace) {call : Call} {status : Status}
    (hsplit : trace = opening ++ .asked call (.error status) :: ending) :
    failures opening = [] ∧ calls ending = [] := by
  obtain ⟨clean, made, refused, record, hclean⟩ := h
  have hfailed : failures (.asked call (.error status) :: ending) =
      (call, status) :: failures ending := rfl
  rcases List.append_eq_append_iff.mp hsplit with ⟨between, rfl, htail⟩ | ⟨between, rfl, htail⟩
  · rcases between with _ | ⟨first, _ | ⟨second, rest⟩⟩
    · cases htail
      rw [List.append_nil]
      exact ⟨hclean.failures_eq, rfl⟩
    · cases htail
    · simp at htail
  · rcases between with _ | ⟨first, rest⟩
    · cases htail
      rw [List.append_nil] at hclean
      exact ⟨hclean.failures_eq, rfl⟩
    · obtain ⟨rfl, -⟩ := List.cons.inj htail
      have hnone := hclean.failures_eq
      rw [failures_append] at hnone
      cases (List.append_eq_nil_iff.mp hnone).2

/-- A trace that breaks off replaces no body. -/
theorem BreaksOff.replaces_eq (h : BreaksOff trace) : replaces trace = false := by
  obtain ⟨opening, made, status, record, hclean⟩ := h
  have hlast : replaces [.asked made (.error status), .noted record] = false := by
    simp only [replaces, List.any_cons, isReplacement_error, List.any_nil, Bool.or_false]
    rfl
  rw [replaces_append, hclean.replaces_eq, hlast, Bool.or_self]

end

end TraceEntry

section

variable {id : UInt32} {task : Task} {made : Call} {trace opening : List TraceEntry}

/-- An attempt that succeeds is clean, unless it replaces the response body. -/
theorem Dialogue.Attempt.clean {answer : made.Answer}
    (h : Attempt id task made trace (.ok answer)) (hkind : made.kind ≠ .replaceResponseBody) :
    Clean trace := by
  cases h
  cases made with
  | replaceResponseBody => exact absurd rfl hkind
  | _ => exact ⟨rfl, rfl⟩

/-- Behind a clean part, an attempt in which something fails breaks off. -/
theorem Dialogue.Attempt.breaksOff {reply : made.Reply} (h : Attempt id task made trace reply)
    (hclean : Clean opening) (hfail : failures (opening ++ trace) ≠ []) :
    BreaksOff (opening ++ trace) := by
  cases h with
  | success answer =>
    rw [failures_append, hclean.failures_eq] at hfail
    exact absurd rfl hfail
  | failure status => exact .intro opening made status _ hclean

/-- A reading that succeeds is clean. -/
theorem Dialogue.Reading.clean {buffer : Buffer} {size : Nat} {body : Bytes}
    (h : Reading id buffer size trace (.ok body)) : Clean trace := by
  cases h <;> exact ⟨rfl, rfl⟩

end

namespace Behavior

variable {id : UInt32} {counters : Counters} {behavior : Behavior} {phase : Phase}
  {trace : List TraceEntry} {reaction : Reaction} {buffer : Buffer} {size : Nat}

/-- At the end of a buffered body a phase in which something fails breaks off, and the behavior
is finished as it was. -/
theorem breaksOff_of_reacts (h : Reacts id counters behavior phase trace reaction)
    (hlast : behavior.buffered? phase = some (buffer, size, true)) (hfail : failures trace ≠ []) :
    BreaksOff trace ∧ reaction = ⟨.finished, behavior, counters⟩ := by
  cases h with
  | passed _ _ _ hbody =>
    rw [hbody] at hlast
    cases hlast
  | held _ _ _ _ hbuffer =>
    rw [hbuffer] at hlast
    cases hlast
  | unread _ _ buffer size status _ _ hread =>
    cases hread with
    | unread status => exact ⟨.intro [] _ status _ .nil, rfl⟩
  | dispatched self size body token opening ending hread hcall =>
    exact absurd (hread.clean.append ((hcall.clean nofun).noted _)).failures_eq hfail
  | undispatched self size body status opening ending hread hcall =>
    rw [List.append_cons] at hfail ⊢
    exact ⟨hcall.breaksOff (hread.clean.append (.noted .nil _)) hfail, rfl⟩
  | unapplied self phase name buffer size body status opening ending happlies hread hcall =>
    rw [List.append_cons] at hfail ⊢
    exact ⟨hcall.breaksOff (hread.clean.append (.noted .nil _)) hfail, rfl⟩
  | answered self name size body result reply opening middle ending hmode hread hcall hsend =>
    have hclean : Clean (opening ++ .noted ⟨some id, .callingForeign name⟩ :: middle) :=
      hread.clean.append ((hcall.clean nofun).noted _)
    rw [← List.cons_append, ← List.append_assoc] at hfail ⊢
    refine ⟨hsend.breaksOff hclean hfail, ?_⟩
    cases reply with
    | error status => rfl
    | ok answer =>
      exact absurd (hclean.append (hsend.clean nofun)).failures_eq hfail
  | replaced self name size body result reply opening middle ending hmode hread hcall hset =>
    have hclean : Clean (opening ++ .noted ⟨some id, .callingForeign name⟩ :: middle) :=
      hread.clean.append ((hcall.clean nofun).noted _)
    rw [← List.cons_append, ← List.append_assoc] at hfail ⊢
    exact ⟨hset.breaksOff hclean hfail, rfl⟩
  | decided self =>
    obtain ⟨function, mode⟩ := self
    cases mode <;> cases hlast
  | _ => cases hlast

end Behavior

namespace Stream

variable {σ : Type} {stream : Stream} {phase : Phase} {buffer : Buffer} {size : Nat}
  {counters : Counters} {host : Host σ} {world : σ}

/-- A stream at the end of a buffered body in which something fails breaks off, goes on and is
finished, without an answer. -/
theorem breaksOff_onPhase (hopen : stream.state.gate? = none)
    (hlast : stream.behavior.buffered? phase = some (buffer, size, true))
    (hfail : failures ((stream.onPhase counters phase).run host world).trace ≠ []) :
    let run := (stream.onPhase counters phase).run host world
    BreaksOff run.trace ∧ run.value = (.proceed, { stream with state := .completed }, counters) ∧
      answered run.trace = false := by
  simp only [run_onPhase_of_open hopen] at hfail ⊢
  have hreacts := Behavior.reacts_of_course
    (course_run host (stream.behavior.onPhase stream.id counters phase) world)
  obtain ⟨hbreaks, hreaction⟩ := Behavior.breaksOff_of_reacts hreacts hlast hfail
  refine ⟨hbreaks, ?_, ?_⟩
  · rw [hreaction]
    rfl
  · rw [← Bool.not_eq_true, Behavior.answered_of_reacts hreacts, hreaction]
    exact nofun

/-- Failures at the end of a body are transparent. Where a stream is told of the end of a body
that it buffers, and one of its calls fails, that call is the last one. The stream goes on and is
finished, the response body is as it was, no answer has been sent, and whatever the stream meets
later, nothing is called any more. -/
theorem body_failures_are_transparent
    (hstate : stream.state = .running ∨ stream.state = .awaitingBody)
    (hlast : stream.behavior.buffered? phase = some (buffer, size, true))
    (hfail : failures ((stream.onPhase counters phase).run host world).trace ≠ []) :
    let run := (stream.onPhase counters phase).run host world
    (∀ (opening ending : List TraceEntry) (call : Call) (status : Status),
      run.trace = opening ++ .asked call (.error status) :: ending →
        failures opening = [] ∧ calls ending = []) ∧
    run.value = (.proceed, { stream with state := .completed }, counters) ∧
    (∀ view, host.BuffersResponse view → view run.world = view world) ∧
    answered run.trace = false ∧
    ∀ (τ : Type) (later : List (Delivery τ)),
      ∀ moment ∈ run.value.2.1.history later, moment.calls = [] := by
  intro run
  have hopen : stream.state.gate? = none := StreamState.gate?_eq_none hstate
  obtain ⟨hbreaks, hvalue, hunsent⟩ := breaksOff_onPhase hopen hlast hfail
  refine ⟨fun _ _ _ _ hsplit => hbreaks.last hsplit, hvalue, fun view hview => ?_, hunsent, ?_⟩
  · exact hview.run_of_replaces (stream.onPhase counters phase) world hbreaks.replaces_eq
  · intro τ later moment hmoment
    have hdone : run.value.2.1.state = .completed := by
      rw [show run.value = (.proceed, { stream with state := .completed }, counters) from hvalue]
    exact (history_of_completed hdone later moment hmoment).2

/-- A stream whose response body is to be reversed. -/
def sampleReversing : Stream := ⟨1, .bodyTransform ⟨"reverse", .response "reverse"⟩, .awaitingBody⟩

/-- A proxy that holds a response body and reverses it, but refuses to replace it. -/
def sampleRefusing : World :=
  ⟨{ Proxy.blank with
    responseBody := [0x61, 0x62]
    functions := [("reverse", .reverse)]
    failures := [⟨.replaceResponseBody, none, .badArgument⟩] }, 1⟩

/-- In the sample the body is read and reversed, and stays as it is since the proxy refuses to
replace it. -/
theorem sample_body_failures_are_transparent :
    let phase : Phase := .responseBody 2 true
    let run := (sampleReversing.onPhase .zero phase).run Proxy.host sampleRefusing
    (sampleReversing.state = .running ∨ sampleReversing.state = .awaitingBody) ∧
      sampleReversing.behavior.buffered? phase = some (.response, 2, true) ∧
      failures run.trace = [(.replaceResponseBody 0 2 [0x62, 0x61], .badArgument)] ∧
      run.value = (.proceed, { sampleReversing with state := .completed }, .zero) ∧
      run.world.proxy.responseBody = [0x61, 0x62] ∧ answered run.trace = false := by
  intro phase run
  have hstate : sampleReversing.state = .running ∨ sampleReversing.state = .awaitingBody := .inr rfl
  have hlast : sampleReversing.behavior.buffered? phase = some (.response, 2, true) := rfl
  have hfail : failures run.trace = [(.replaceResponseBody 0 2 [0x62, 0x61], .badArgument)] := by
    decide
  have hsome : failures run.trace ≠ [] := by
    rw [hfail]
    exact List.cons_ne_nil _ _
  obtain ⟨-, hvalue, hkept, hunsent, -⟩ := body_failures_are_transparent hstate hlast hsome
  exact ⟨hstate, hlast, hfail, hvalue, hkept _ Proxy.host_buffersResponse, hunsent⟩

end Stream

end ProxyFilter
