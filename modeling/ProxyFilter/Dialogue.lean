import ProxyFilter.Log

/-!
# Dialogues with the proxy

A dialogue is all that a callback may do: ask the proxy, write a log record, and
end with a value. It says nothing about what the proxy replies, so one dialogue
can be run against any proxy, and its run keeps every question, reply and record
in order.
-/

namespace ProxyFilter

/-- A callback as questions and records up to its value. -/
inductive Dialogue (α : Type) where
  /-- The value at the end. -/
  | done (value : α)
  /-- A call, and what follows each reply. -/
  | ask (call : Call) (next : call.Reply → Dialogue α)
  /-- A log record, and what follows it. -/
  | note (record : Record) (next : Dialogue α)

/-- One thing that happened in a run. -/
inductive TraceEntry where
  /-- A call with its reply. -/
  | asked (call : Call) (reply : call.Reply)
  /-- A log record. -/
  | noted (record : Record)

namespace TraceEntry

/-- The call of an entry that is one. -/
def call? : TraceEntry → Option Call
  | .asked call _ => some call
  | .noted _ => none

/-- The record of an entry that is one. -/
def record? : TraceEntry → Option Record
  | .asked .. => none
  | .noted record => some record

/-- The status of a call that failed. -/
def failure? : TraceEntry → Option (Call × Status)
  | .asked call (.error status) => some (call, status)
  | _ => none

end TraceEntry

/-- A finished run of a dialogue against a proxy. -/
structure Run (σ α : Type) where
  /-- The value of the dialogue. -/
  value : α
  /-- The state of the proxy afterwards. -/
  world : σ
  /-- All that happened, in order. -/
  trace : List TraceEntry

namespace Run

variable {σ α : Type}

/-- The calls of a run in order, failed ones included. -/
def calls (run : Run σ α) : List Call := run.trace.filterMap TraceEntry.call?

/-- The log records of a run in order. -/
def records (run : Run σ α) : List Record := run.trace.filterMap TraceEntry.record?

end Run

namespace Dialogue

variable {α β σ : Type}

/-- Continue a dialogue with its value. -/
def bind : Dialogue α → (α → Dialogue β) → Dialogue β
  | .done value, rest => rest value
  | .ask call next, rest => .ask call fun reply => (next reply).bind rest
  | .note record next, rest => .note record (next.bind rest)

instance : Monad Dialogue where
  pure := .done
  bind := bind

/-- Ask one call for its reply. -/
def call (call : Call) : Dialogue call.Reply := .ask call .done

/-- Write one log record. -/
def write (record : Record) : Dialogue Unit := .note record (.done ())

/-- Write one log record of a stream. -/
def say (id : UInt32) (notice : Notice) : Dialogue Unit := write ⟨some id, notice⟩

/-- Run a dialogue against a proxy. -/
def run (host : Host σ) : Dialogue α → σ → Run σ α
  | .done value, world => ⟨value, world, []⟩
  | .ask call next, world =>
    let (reply, world) := host call world
    let rest := run host (next reply) world
    { rest with trace := .asked call reply :: rest.trace }
  | .note record next, world =>
    let rest := run host next world
    { rest with trace := .noted record :: rest.trace }

/-- A value by itself is run without any trace. -/
@[simp] theorem run_pure (host : Host σ) (value : α) (world : σ) :
    run host (pure value) world = ⟨value, world, []⟩ := rfl

/-- One call is run as the reply of the proxy. -/
@[simp] theorem run_call (host : Host σ) (made : Call) (world : σ) :
    run host (call made) world =
      ⟨(host made world).1, (host made world).2, [.asked made (host made world).1]⟩ := rfl

/-- One record is run without any question. -/
@[simp] theorem run_write (host : Host σ) (record : Record) (world : σ) :
    run host (write record) world = ⟨(), world, [.noted record]⟩ := rfl

/-- The continuation runs from the world that the first part leaves, and the
traces follow each other. -/
theorem run_bind (host : Host σ) (first : Dialogue α) (rest : α → Dialogue β) (world : σ) :
    run host (first >>= rest) world =
      let begun := run host first world
      let ended := run host (rest begun.value) begun.world
      { ended with trace := begun.trace ++ ended.trace } := by
  induction first generalizing world with
  | done value => rfl
  | ask call next ih =>
    have h := ih (host call world).1 (host call world).2
    simp only [Bind.bind] at h ⊢
    simp [bind, run, h]
  | note record next ih =>
    have h := ih world
    simp only [Bind.bind] at h ⊢
    simp [bind, run, h]

/-- A dialogue that begins with a call goes on with the reply of the proxy. -/
theorem run_call_bind (host : Host σ) (made : Call) (rest : made.Reply → Dialogue β)
    (world : σ) :
    (call made >>= rest).run host world =
      let ended := (rest (host made world).1).run host (host made world).2
      { ended with trace := .asked made (host made world).1 :: ended.trace } := rfl

/-- A dialogue that begins with a record goes on behind it. -/
theorem run_say_bind (host : Host σ) (id : UInt32) (notice : Notice) (rest : Unit → Dialogue β)
    (world : σ) :
    (say id notice >>= rest).run host world =
      let ended := (rest ()).run host world
      { ended with trace := .noted ⟨some id, notice⟩ :: ended.trace } := rfl

/-- Of three dialogues in a row the first two or the last two may be taken as one. -/
theorem bind_assoc {γ : Type} (first : Dialogue α) (second : α → Dialogue β)
    (third : β → Dialogue γ) :
    first >>= second >>= third = first >>= fun value => second value >>= third := by
  induction first with
  | done value => rfl
  | ask call next ih => exact congrArg (Dialogue.ask call) (funext ih)
  | note record next ih => exact congrArg (Dialogue.note record) ih

end Dialogue

end ProxyFilter
