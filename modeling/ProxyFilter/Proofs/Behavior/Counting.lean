import ProxyFilter.Proofs.Dialogue.Agreement

/-!
# What a phase has to do with the counters

Two phases look at the counters at all: the request headers of a stream that numbers
requests, which take a number, and those of timer control, which may report the firings.
Under any other counters that agree on what is looked at, a phase runs the same way, and
what it leaves behind differs by the same amount.
-/

namespace ProxyFilter

open Dialogue

/-- Counters with the number of requests that other counters were left with, if a number
was taken there. -/
def Counters.withRequests (counters left : Counters) (taken : Bool) : Counters :=
  { counters with requests := if taken then left.requests else counters.requests }

/-- Request headers are stamped the same way under counters that give the same number. -/
theorem RequestNumbering.run_onRequestHeaders_counters {σ : Type} {self : RequestNumbering}
    {counters other : Counters} (hnumber : (self.take other).1 = (self.take counters).1)
    (host : Host σ) (id : UInt32) (world : σ) :
    (self.onRequestHeaders id other).run host world =
      { (self.onRequestHeaders id counters).run host world with
        value := (.proceed, ⟨some (self.take counters).1⟩, (self.take other).2) } := by
  unfold RequestNumbering.onRequestHeaders
  generalize self.take counters = taken at hnumber ⊢
  generalize self.take other = retaken at hnumber ⊢
  obtain ⟨number, left⟩ := taken
  obtain ⟨_, leftOther⟩ := retaken
  cases hnumber
  rw [run_bind, run_bind]
  generalize run host (call _) world = asked
  obtain ⟨reply, after, trace⟩ := asked
  cases reply <;> rfl

/-- Counters with the same number of requests give the same number, and are left alike. -/
theorem RequestNumbering.take_counters (self : RequestNumbering) {counters other : Counters}
    (hrequests : other.requests = counters.requests) :
    (self.take other).1 = (self.take counters).1 ∧
      (self.take other).2 = other.withRequests (self.take counters).2 true := by
  obtain ⟨requests, ticks⟩ := counters
  obtain ⟨otherRequests, otherTicks⟩ := other
  cases hrequests
  obtain ⟨_ | number⟩ := self <;> exact ⟨rfl, rfl⟩

namespace Behavior

/-- Whether a phase takes a number from the counters. -/
def takesNumber (behavior : Behavior) (phase : Phase) : Bool :=
  behavior.kind == .requestNumbering && phase == .requestHeaders

/-- Whether a phase looks at the number of firings. -/
def readsTicks (behavior : Behavior) (phase : Phase) : Bool :=
  behavior.kind == .timerControl && phase == .requestHeaders

variable {σ : Type} {behavior : Behavior} {phase : Phase} {counters other : Counters}

/-- Under counters that agree on what a phase looks at, the phase runs the same way. -/
theorem run_onPhase_counters
    (hrequests : behavior.takesNumber phase = true → other.requests = counters.requests)
    (hticks : behavior.readsTicks phase = true → other.ticks = counters.ticks)
    (host : Host σ) (id : UInt32) (world : σ) :
    let run := (onPhase id behavior counters phase).run host world
    (onPhase id behavior other phase).run host world =
      { run with value := { run.value with
        counters := other.withRequests run.value.counters (behavior.takesNumber phase) } } := by
  cases behavior with
  | requestNumbering self =>
    cases phase with
    | requestHeaders =>
      obtain ⟨hnumber, hleft⟩ := self.take_counters (hrequests rfl)
      have hother := RequestNumbering.run_onRequestHeaders_counters hnumber host id world
      have hself := RequestNumbering.run_onRequestHeaders_counters
        (Eq.refl (self.take counters).1) host id world
      simp only [onPhase, run_bind_pure, hother, hleft]
      rw [hself]
      rfl
    | responseHeaders =>
      simp only [onPhase, run_bind_pure]
      rfl
    | _ => rfl
  | timerControl =>
    cases phase with
    | requestHeaders =>
      have hsame : TimerControl.onRequestHeaders id other =
          TimerControl.onRequestHeaders id counters := by
        simp only [TimerControl.onRequestHeaders, hticks rfl]
      simp only [onPhase, run_bind_pure, hsame]
      rfl
    | _ => rfl
  | callRelay self =>
    cases phase with
    | requestHeaders | requestBody =>
      simp only [onPhase, run_bind_pure]
      rfl
    | _ => rfl
  | bodyTransform self =>
    cases phase with
    | requestHeaders | requestBody | responseBody =>
      simp only [onPhase, run_bind_pure]
      rfl
    | _ => rfl

end Behavior

end ProxyFilter
