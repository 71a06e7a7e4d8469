import ProxyFilter.Proofs.Behavior.Effects
import ProxyFilter.Proxy

/-!
# Proxies that cannot be told apart

A dialogue only learns of a proxy what its own calls are replied. So it suffices that two
proxies agree on the calls that one run makes: the other run is the same. This is used for
scripted proxies that differ in their next token, or in a body that a run does not read.
-/

namespace ProxyFilter

open TraceEntry

namespace Dialogue

variable {α β σ τ : Type}

/-- Two proxies that are related before a dialogue, and that reply the same and stay related
whenever a reply is of the given sort, let the dialogue run the same way if all replies of
the one run are of that sort. -/
theorem run_agree {host : Host σ} {other : Host τ} {Related : σ → τ → Prop}
    {Plain : TraceEntry → Prop}
    (hstep : ∀ (call : Call) (world : σ) (away : τ), Related world away →
      Plain (.asked call (host call world).1) →
        (other call away).1 = (host call world).1 ∧
          Related (host call world).2 (other call away).2)
    (dialogue : Dialogue α) (world : σ) (away : τ) (hrelated : Related world away)
    (hsort : ∀ entry ∈ (dialogue.run host world).trace, Plain entry) :
    (dialogue.run other away).value = (dialogue.run host world).value ∧
      (dialogue.run other away).trace = (dialogue.run host world).trace ∧
      Related (dialogue.run host world).world (dialogue.run other away).world := by
  induction dialogue generalizing world away with
  | done value => exact ⟨rfl, rfl, hrelated⟩
  | ask call next ih =>
    have hfirst : Plain (.asked call (host call world).1) := hsort _ List.mem_cons_self
    obtain ⟨hreply, hnext⟩ := hstep call world away hrelated hfirst
    have hrest := ih (host call world).1 _ _ hnext fun entry hentry =>
      hsort entry (List.mem_cons_of_mem _ hentry)
    simp only [run, hreply]
    exact ⟨hrest.1, congrArg _ hrest.2.1, hrest.2.2⟩
  | note record next ih =>
    have hrest := ih _ _ hrelated fun entry hentry => hsort entry (List.mem_cons_of_mem _ hentry)
    exact ⟨hrest.1, congrArg _ hrest.2.1, hrest.2.2⟩

/-- A dialogue whose value is only rewritten afterwards runs as before. -/
@[simp] theorem run_bind_pure (host : Host σ) (dialogue : Dialogue α) (f : α → β) (world : σ) :
    run host (dialogue >>= fun value => pure (f value)) world =
      ⟨f (run host dialogue world).value, (run host dialogue world).world,
        (run host dialogue world).trace⟩ := by
  rw [run_bind]
  simp only [run_pure, List.append_nil]

end Dialogue

namespace Proxy

/-- Unless it starts a cluster call, a call does not see the next token and keeps it. -/
theorem host_of_dispatched? {call : Call} {proxy : Proxy} {token : UInt32}
    (h : dispatched? (.asked call (host call ⟨proxy, token⟩).1) = none) (other : UInt32) :
    (host call ⟨proxy, other⟩).1 = (host call ⟨proxy, token⟩).1 ∧
      (host call ⟨proxy, other⟩).2.proxy = (host call ⟨proxy, token⟩).2.proxy ∧
      (host call ⟨proxy, token⟩).2.nextToken = token ∧
      (host call ⟨proxy, other⟩).2.nextToken = other := by
  unfold host at h ⊢
  dsimp only at h ⊢
  split at h
  · exact ⟨rfl, rfl, rfl, rfl⟩
  · cases call with
    | dispatch => cases h
    | foreignFunction name argument =>
      simp only [reply]
      split <;> exact ⟨rfl, rfl, rfl, rfl⟩
    | _ => exact ⟨rfl, rfl, rfl, rfl⟩

variable {α : Type} {proxy : Proxy} {token : UInt32}

/-- Unless it starts a cluster call, a run does not see the next token and keeps it. -/
theorem run_of_dispatched {dialogue : Dialogue α}
    (h : dispatched (dialogue.run host ⟨proxy, token⟩).trace = []) (other : UInt32) :
    dialogue.run host ⟨proxy, other⟩ =
        { dialogue.run host ⟨proxy, token⟩ with
          world := ⟨(dialogue.run host ⟨proxy, token⟩).world.proxy, other⟩ } ∧
      (dialogue.run host ⟨proxy, token⟩).world.nextToken = token := by
  have hstep : ∀ (call : Call) (world away : World),
      (away.proxy = world.proxy ∧ world.nextToken = token ∧ away.nextToken = other) →
      dispatched? (.asked call (host call world).1) = none →
        (host call away).1 = (host call world).1 ∧
          ((host call away).2.proxy = (host call world).2.proxy ∧
            (host call world).2.nextToken = token ∧ (host call away).2.nextToken = other) := by
    rintro call ⟨_, _⟩ ⟨_, _⟩ ⟨rfl, rfl, rfl⟩ hplain
    exact host_of_dispatched? hplain _
  have hplain := List.filterMap_eq_nil_iff.mp h
  obtain ⟨hvalue, htrace, hproxy, hkept, hother⟩ := Dialogue.run_agree hstep dialogue
    (⟨proxy, token⟩ : World) (⟨proxy, other⟩ : World) ⟨rfl, rfl, rfl⟩ hplain
  refine ⟨?_, hkept⟩
  generalize dialogue.run host ⟨proxy, other⟩ = away at hvalue htrace hproxy hother ⊢
  obtain ⟨value, ⟨left, next⟩, trace⟩ := away
  cases hvalue
  cases htrace
  cases hproxy
  cases hother
  rfl

/-- A call takes a token if it starts a cluster call, and no other call does. -/
theorem nextToken_host (call : Call) (world : World) :
    (host call world).2.nextToken =
      world.nextToken + .ofNat (dispatched [.asked call (host call world).1]).length := by
  cases hplain : dispatched? (.asked call (host call world).1) with
  | none =>
    have hkept := (host_of_dispatched? hplain world.nextToken).2.2.1
    simp only [dispatched, List.filterMap_cons, hplain]
    exact hkept.trans (UInt32.add_zero _).symm
  | some taken =>
    unfold host at hplain ⊢
    split at hplain
    · cases call <;> cases hplain
    · cases call with
      | dispatch => rfl
      | _ => cases hplain

/-- A run takes one token for every cluster call that it starts. -/
theorem nextToken_run (dialogue : Dialogue α) (world : World) :
    (dialogue.run host world).world.nextToken =
      world.nextToken + .ofNat (dispatched (dialogue.run host world).trace).length := by
  induction dialogue generalizing world with
  | done value => exact (UInt32.add_zero _).symm
  | note record next ih => exact ih world
  | ask call next ih =>
    have hrest := ih (host call world).1 (host call world).2
    have hfirst := nextToken_host call world
    have hsplit : dispatched ((Dialogue.ask call next).run host world).trace =
        dispatched [.asked call (host call world).1] ++
          dispatched ((next (host call world).1).run host (host call world).2).trace :=
      dispatched_append [_] _
    rw [hsplit, List.length_append, UInt32.ofNat_add, ← UInt32.add_assoc, ← hfirst]
    exact hrest

end Proxy

end ProxyFilter
