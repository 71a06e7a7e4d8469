import ProxyFilter.Proofs.Dialogue.Agreement
import ProxyFilter.Stream

/-!
# Whole bodies

Every behavior that buffers a body does the same at the end of it: it reads the body, gives up
if that fails, and otherwise makes something of what it has read. What it makes is stated apart
from the reading, so that it can be told what a body is taken for.
-/

namespace ProxyFilter

open Dialogue TraceEntry

/-- A phase that is let through is met by the behavior, whose outcome decides what becomes of the
stream. -/
theorem Stream.run_onPhase_of_open {σ : Type} {stream : Stream}
    (hopen : stream.state.gate? = none) (counters : Counters) (phase : Phase) (host : Host σ)
    (world : σ) :
    let run := (stream.behavior.onPhase stream.id counters phase).run host world
    (stream.onPhase counters phase).run host world =
      ⟨(run.value.outcome.action, { stream with
          behavior := run.value.behavior, state := run.value.outcome.state },
        run.value.counters), run.world, run.trace⟩ := by
  intro run
  simp only [onPhase, hopen, run_bind_pure, run]

/-- A phase that is not let through is met by the gate alone. -/
theorem Stream.run_onPhase_of_closed {σ : Type} {stream : Stream} {action : Action}
    (hclosed : stream.state.gate? = some action) (counters : Counters) (phase : Phase)
    (host : Host σ) (world : σ) :
    (stream.onPhase counters phase).run host world = ⟨(action, stream, counters), world, []⟩ := by
  simp only [onPhase, hclosed, run_pure]

/-- A body that is not empty is read with one call. -/
theorem Dialogue.run_readBody {σ : Type} {size : Nat} (hsize : size ≠ 0) (buffer : Buffer)
    (host : Host σ) (world : σ) :
    let reply : Except Status (Option Bytes) := (host (.body buffer 0 size) world).1
    (readBody buffer size).run host world =
      ⟨reply.map fun body => body.getD [], (host (.body buffer 0 size) world).2,
        [.asked (.body buffer 0 size) reply]⟩ := by
  intro reply
  rw [readBody, if_neg hsize, run_call_bind]
  rfl

/-- Reading a body of a known size is one call, and that of an empty one none. -/
theorem Dialogue.calls_readBody {σ : Type} (buffer : Buffer) (size : Nat) (host : Host σ)
    (world : σ) :
    calls ((readBody buffer size).run host world).trace =
      if size = 0 then [] else [.body buffer 0 size] := by
  by_cases hsize : size = 0
  · rw [hsize]
    rfl
  · rw [run_readBody hsize, if_neg hsize]
    rfl

/-- Start the cluster call with a body. -/
def CallRelay.send (id : UInt32) (self : CallRelay) (body : Bytes) : Dialogue Outcome := do
  say id (.dispatching self.cluster body.length)
  let reply : Except Status UInt32 ←
    call (.dispatch self.cluster self.headers body [] timeout)
  match reply with
  | .ok token => return .awaitCall token
  | .error status =>
    sayFailed id .dispatch status
    return .finished

namespace BodyTransform

/-- Answer with the function of a body. -/
def answerWith (id : UInt32) (name : String) (body : Bytes) : Dialogue Outcome := do
  match ← apply id name body with
  | some result => respond id result
  | none => return .finished

/-- Replace the response body, of a given size, by the function of what was read of it. -/
def replaceWith (id : UInt32) (name : String) (size : Nat) (body : Bytes) :
    Dialogue Outcome := do
  match ← apply id name body with
  | none => return .finished
  | some result =>
    let reply : Except Status Unit ← call (.replaceResponseBody 0 size result)
    if let .error status := reply then sayFailed id .replaceResponse status
    return .finished

end BodyTransform

namespace Behavior

/-- What a behavior makes of a whole body that it has read, which had a given size. -/
def spend (id : UInt32) (behavior : Behavior) (size : Nat) (body : Bytes) : Dialogue Outcome :=
  match behavior with
  | .callRelay self => self.send id body
  | .bodyTransform ⟨_, .request name⟩ => BodyTransform.answerWith id name body
  | .bodyTransform ⟨_, .response name⟩ => BodyTransform.replaceWith id name size body
  | _ => return .proceed

/-- The call that a behavior makes with a whole body. -/
def use? (behavior : Behavior) (body : Bytes) : Option Call :=
  match behavior with
  | .callRelay self => some (.dispatch self.cluster self.headers body [] CallRelay.timeout)
  | .bodyTransform ⟨_, .request name⟩ => some (.foreignFunction name body)
  | .bodyTransform ⟨_, .response name⟩ => some (.foreignFunction name body)
  | _ => none

/-- The rest of a phase behind the reading of a whole body. -/
def afterReading (id : UInt32) (behavior : Behavior) (counters : Counters) (buffer : Buffer)
    (size : Nat) : Except Status Bytes → Dialogue Reaction
  | .error status => do
    sayFailed id (readTask buffer) status
    return ⟨.finished, behavior, counters⟩
  | .ok body => do
    let outcome ← behavior.spend id size body
    return ⟨outcome, behavior, counters⟩

variable {id : UInt32} {behavior : Behavior} {counters : Counters} {phase : Phase}
  {buffer : Buffer} {size : Nat}

/-- At its end a buffered body is read, and the rest follows from what is read. -/
theorem onPhase_of_buffered (hlast : behavior.buffered? phase = some (buffer, size, true)) :
    behavior.onPhase id counters phase =
      readBody buffer size >>= behavior.afterReading id counters buffer size := by
  unfold buffered? at hlast
  split at hlast <;> cases hlast
  all_goals
    refine (bind_assoc _ _ _).trans (congrArg _ (funext fun read => ?_))
    cases read <;> rfl

/-- A behavior that buffers a body makes a call with it. -/
theorem use?_of_buffered {isLast : Bool}
    (hbuffer : behavior.buffered? phase = some (buffer, size, isLast)) (body : Bytes) :
    ∃ made, behavior.use? body = some made := by
  unfold buffered? at hbuffer
  split at hbuffer <;> cases hbuffer <;> exact ⟨_, rfl⟩

/-- The call with a body is the first one that is made of it. -/
theorem calls_spend {σ : Type} {body : Bytes} {made : Call} (huse : behavior.use? body = some made)
    (host : Host σ) (world : σ) :
    ∃ rest, calls ((behavior.spend id size body).run host world).trace = made :: rest := by
  unfold use? at huse
  split at huse <;> cases huse <;> exact ⟨_, rfl⟩

end Behavior

namespace Stream

variable {σ : Type} {stream : Stream} {counters : Counters} {phase : Phase} {buffer : Buffer}
  {size : Nat} {host : Host σ} {world after : σ} {opening : List TraceEntry}

/-- A body that cannot be read is left alone. -/
theorem run_onPhase_of_unread {status : Status} (hopen : stream.state.gate? = none)
    (hlast : stream.behavior.buffered? phase = some (buffer, size, true))
    (hread : (readBody buffer size).run host world = ⟨.error status, after, opening⟩) :
    (stream.onPhase counters phase).run host world =
      ⟨(.proceed, { stream with state := .completed }, counters), after,
        opening ++ [.noted ⟨some stream.id, .failed (readTask buffer) status⟩]⟩ := by
  rw [run_onPhase_of_open hopen, Behavior.onPhase_of_buffered hlast, run_bind, hread]
  rfl

/-- A body that has been read is spent. -/
theorem run_onPhase_of_read {body : Bytes} (hopen : stream.state.gate? = none)
    (hlast : stream.behavior.buffered? phase = some (buffer, size, true))
    (hread : (readBody buffer size).run host world = ⟨.ok body, after, opening⟩) :
    let spent := (stream.behavior.spend stream.id size body).run host after
    (stream.onPhase counters phase).run host world =
      ⟨(spent.value.action, { stream with state := spent.value.state }, counters), spent.world,
        opening ++ spent.trace⟩ := by
  intro spent
  rw [run_onPhase_of_open hopen, Behavior.onPhase_of_buffered hlast, run_bind, hread]
  simp only [Behavior.afterReading, run_bind_pure]
  rfl

/-- Behind a body that has been read and spent, the stream stands where the outcome leads. -/
theorem run_onPhase_of_spent {body : Bytes} {outcome : Outcome} {last : σ}
    {ending : List TraceEntry} (hopen : stream.state.gate? = none)
    (hlast : stream.behavior.buffered? phase = some (buffer, size, true))
    (hread : (readBody buffer size).run host world = ⟨.ok body, after, opening⟩)
    (hspent : (stream.behavior.spend stream.id size body).run host after =
      ⟨outcome, last, ending⟩) :
    (stream.onPhase counters phase).run host world =
      ⟨(outcome.action, { stream with state := outcome.state }, counters), last,
        opening ++ ending⟩ := by
  rw [run_onPhase_of_read hopen hlast hread, hspent]

end Stream

end ProxyFilter
