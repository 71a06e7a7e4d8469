import ProxyFilter.Proofs.Behavior.Sight
import ProxyFilter.Proofs.Session.Independence

/-!
# The gate before a behavior

A stream is its behavior behind a gate. Beside a session with a stream runs another one in
which the bare behavior stands in its place, and only what the stream lets through arrives
there. Step by step the two sessions make the same calls and stay the same, but for the
gate itself and for what has arrived at the proxy of the stream in vain.
-/

namespace ProxyFilter

open Dialogue TraceEntry

/-- Whether a stream lets an input through: a phase while it runs or waits for a body, and
the answer to the cluster call that it waits for. -/
def Stream.accepts (stream : Stream) : Input → Bool
  | .arrival _ => stream.state == .running || stream.state == .awaitingBody
  | .response answer => stream.state == .awaitingCall answer.token

/-- A stream lets phases through whenever its state tells the proxy nothing at once. -/
theorem Stream.accepts_arrival (stream : Stream) (part : Arrival) :
    stream.accepts (.arrival part) = stream.state.gate?.isNone := by
  obtain ⟨id, behavior, state⟩ := stream
  cases state <;> rfl

/-- A stream lets an answer through exactly when it waits for that. -/
theorem Stream.accepts_response {stream : Stream} {answer : CallResponse} :
    stream.accepts (.response answer) = true ↔ stream.state = .awaitingCall answer.token :=
  beq_iff_eq

/-- What a stream in some state never looks at again: what answered an earlier cluster call,
and, once it waits for a call or is finished, both bodies. -/
def StreamState.hides (state : StreamState) : Buffer → Bool
  | .callResponse => true
  | _ => state.gate?.isSome

/-- The outcomes that hold a stream. -/
theorem Outcome.pause_iff (outcome : Outcome) :
    outcome.action = .pause ↔
      outcome = .awaitBody ∨ (∃ token, outcome = .awaitCall token) ∨ outcome = .responded := by
  cases outcome <;> simp [Outcome.action]

/-- The state that an answer of a bare behavior leads to, from another state. -/
def Answer.stateFrom (state : StreamState) : Answer → StreamState
  | .outcome _ reached => reached.state
  | .completion .. => .completed
  | _ => state

namespace SessionStep

/-- The input that a step lets arrive under a number. -/
def input? (id : UInt32) : SessionStep → Option Input
  | .common (.arrival target part) => if target = id then some (.arrival part) else none
  | .common (.callResponse target answer) => if target = id then some (.response answer) else none
  | _ => none

/-- A step that lets an input arrive under a number is the step of that input. -/
theorem eq_of_input? {id : UInt32} {step : SessionStep} {input : Input}
    (h : step.input? id = some input) : step = .common (input.step id) := by
  unfold input? at h
  split at h
  · split at h
    · next htarget =>
      cases h
      rw [htarget]
      rfl
    · cases h
  · split at h
    · next htarget =>
      cases h
      rw [htarget]
      rfl
    · cases h
  · cases h

/-- The number of a stream that a step is about. -/
def stream? : SessionStep → Option UInt32
  | .common (.stream _ id _) => some id
  | .common (.drop id) => some id
  | .common (.script id _) => some id
  | .common (.inspect id) => some id
  | .common (.arrival id _) => some id
  | .common (.callResponse id _) => some id
  | .behavior id .. => some id
  | _ => none

/-- The state of the stream under a number after a step of the bare behavior, by what that
reports. -/
def stateFrom (id : UInt32) (state : StreamState) (step : SessionStep) (report : Report) :
    StreamState :=
  if (step.input? id).isSome then report.answer.stateFrom state else state

/-- Whether a step leaves what is live under a number in its place. -/
def keeps (id : UInt32) : SessionStep → Bool
  | .common (.stream _ target _) => target != id
  | .common (.drop target) => target != id
  | .behavior target .. => target != id
  | _ => true

end SessionStep

namespace Session

/-- Two sessions agree on everything but what is live under one number. -/
structure AgreeOff (id : UInt32) (session other : Session) : Prop where
  /-- The plugins are the same. -/
  plugin : ∀ number, other.plugin number = session.plugin number
  /-- The counters of the streams without plugin are the same. -/
  shared : other.shared = session.shared
  /-- The next token is the same. -/
  nextToken : other.nextToken = session.nextToken
  /-- What is live under other numbers is the same. -/
  streams : ∀ found, found ≠ id → other.streams.get? found = session.streams.get? found

namespace AgreeOff

variable {id : UInt32} {session other : Session}

/-- Sessions that agree have the same counters for every owner. -/
theorem counters (h : AgreeOff id session other) (owner : Owner) :
    other.counters owner = session.counters owner := by
  cases owner with
  | shared => exact h.shared
  | plugin number => exact congrArg Plugin.counters (h.plugin number)

/-- Sessions that agree do so after a change of a plugin. -/
theorem setPlugin (h : AgreeOff id session other) (number : UInt32) (plugin : Plugin) :
    AgreeOff id (session.setPlugin number plugin) (other.setPlugin number plugin) :=
  { h with plugin := fun found => by rw [plugin_setPlugin, plugin_setPlugin, h.plugin] }

/-- Sessions that agree do so after something is put under a number. -/
theorem setStream (h : AgreeOff id session other) (target : UInt32) (live : Live)
    (token : UInt32) :
    AgreeOff id { session.setStream target live with nextToken := token }
      { other.setStream target live with nextToken := token } where
  plugin := h.plugin
  shared := h.shared
  nextToken := rfl
  streams found hfound := by
    simp only [Session.setStream, Table.get?_insert, h.streams found hfound]

/-- Sessions that agree do so after an event that is the same for both, or that is about
what they do not agree on. -/
theorem keep (h : AgreeOff id session other) (target : UInt32) (live rival : Live)
    (howner : rival.owner = live.owner) (counters : Counters) {actor rivalActor : Actor}
    {world rivalWorld : World} (htoken : rivalWorld.nextToken = world.nextToken)
    (hsame : target = id ∨ (rivalActor = actor ∧ rivalWorld.proxy = world.proxy)) :
    AgreeOff id (session.keep target live actor world counters)
      (other.keep target rival rivalActor rivalWorld counters) where
  plugin number := by rw [plugin_keep, plugin_keep, howner, h.plugin]
  shared := by rw [shared_keep, shared_keep, howner, h.shared]
  nextToken := htoken
  streams found hfound := by
    rw [get?_streams_keep, get?_streams_keep]
    split
    · next htarget =>
      obtain hid | ⟨hactor, hproxy⟩ := hsame
      · exact absurd (htarget.trans hid) hfound
      · rw [hactor, hproxy, howner]
    · exact h.streams found hfound

/-- An event that leaves the counters and the token as they are leaves what it is about
alone. -/
theorem kept (h : AgreeOff id session other) (live : Live) (actor : Actor) (arrived : Proxy) :
    AgreeOff id (session.keep id live actor (session.world arrived)
      (session.counters live.owner)) other where
  plugin number := by
    rw [plugin_keep]
    split
    · next howner =>
      rw [howner]
      exact h.plugin number
    · exact h.plugin number
  shared := by
    rw [shared_keep]
    split
    · next howner =>
      rw [howner]
      exact h.shared
    · exact h.shared
  nextToken := h.nextToken
  streams found hfound := by rw [get?_streams_keep, if_neg hfound, h.streams found hfound]

/-- An event under another number is met the same way. -/
theorem meeting (h : AgreeOff id session other) (live : Live) (input : Input) :
    other.meeting live input = session.meeting live input := by
  simp only [Session.meeting, world, h.counters, h.nextToken]

/-- Steps that look at something live look at the same under another number. -/
theorem withLive (h : AgreeOff id session other) {target : UInt32} (htarget : target ≠ id)
    {action rivalAction : Live → Report × Session}
    (hstep : ∀ live, (rivalAction live).1 = (action live).1 ∧
      AgreeOff id (action live).2 (rivalAction live).2) :
    (other.withLive target rivalAction).1 = (session.withLive target action).1 ∧
      AgreeOff id (session.withLive target action).2 (other.withLive target rivalAction).2 := by
  rw [Session.withLive, Session.withLive, h.streams target htarget]
  cases session.streams.get? target with
  | none => exact ⟨rfl, h⟩
  | some live => exact hstep live

/-- Sessions that agree do so after something is created alike. -/
theorem create (h : AgreeOff id session other) (target : UInt32) (actor : Actor) (owner : Owner)
    (script : Script) :
    AgreeOff id (session.create target actor owner script)
      (other.create target actor owner script) := by
  unfold Session.create
  simp only [world, h.nextToken]
  exact h.setStream target _ _

/-- Sessions that agree do so after a removal. -/
theorem drop (h : AgreeOff id session other) (target : UInt32) :
    AgreeOff id { session with streams := session.streams.erase target }
      { other with streams := other.streams.erase target } :=
  { h with streams := fun found hfound => by simp only [Table.get?_erase, h.streams found hfound] }

/-- What arrives under another number is met the same way. -/
theorem input (h : AgreeOff id session other) {target : UInt32} (htarget : target ≠ id)
    (input : Input) :
    (other.commonStep Proxy.host (input.step target)).1 =
        (session.commonStep Proxy.host (input.step target)).1 ∧
      AgreeOff id (session.commonStep Proxy.host (input.step target)).2
        (other.commonStep Proxy.host (input.step target)).2 := by
  rw [commonStep_input, commonStep_input]
  refine h.withLive htarget fun live => ?_
  have hmeeting := h.meeting live input
  have hmet : AgreeOff id (session.met target live input) (other.met target live input) := by
    rw [met, met, hmeeting]
    exact h.keep target live live rfl _ rfl (.inr ⟨rfl, rfl⟩)
  have hreport : (other.receive Proxy.host target live input).1 =
      ⟨(other.meeting live input).value.answer (other.meeting live input).calls,
        (other.meeting live input).records⟩ := rfl
  rw [hmeeting] at hreport
  exact ⟨hreport, hmet⟩

/-- A step that is not about one number is the same in sessions that agree on everything
else, and they go on to agree. -/
theorem step (h : AgreeOff id session other) {step : SessionStep}
    (hother : step.stream? ≠ some id) :
    (other.step Proxy.host step).1 = (session.step Proxy.host step).1 ∧
      AgreeOff id (session.step Proxy.host step).2 (other.step Proxy.host step).2 := by
  cases step with
  | behavior target config gated script => exact ⟨rfl, h.create target _ _ script⟩
  | common step =>
    simp only [Session.step]
    cases step with
    | start number configuration =>
      simp only [commonStep, h.plugin]
      exact ⟨trivial, h.setPlugin _ _⟩
    | tick number times =>
      simp only [commonStep, h.plugin]
      exact ⟨trivial, h.setPlugin _ _⟩
    | plugin number =>
      simp only [commonStep, h.plugin]
      exact ⟨trivial, h⟩
    | stream number target script =>
      simp only [commonStep, h.plugin]
      cases (session.plugin number).newStream target with
      | none => exact ⟨rfl, h⟩
      | some stream => exact ⟨rfl, h.create target _ _ script⟩
    | drop target =>
      have htarget : target ≠ id := fun hsame => hother (congrArg some hsame)
      simp only [commonStep, h.streams target htarget]
      exact ⟨trivial, h.drop target⟩
    | script target script =>
      refine h.withLive (fun hsame => hother (congrArg some hsame)) fun live => ?_
      simp only [world, h.nextToken]
      exact ⟨trivial, h.setStream target _ _⟩
    | inspect target =>
      exact h.withLive (fun hsame => hother (congrArg some hsame)) fun live => ⟨rfl, h⟩
    | arrival target part =>
      exact h.input (fun hsame => hother (congrArg some hsame)) (.arrival part)
    | callResponse target answer =>
      exact h.input (fun hsame => hother (congrArg some hsame)) (.response answer)

end AgreeOff

variable {id : UInt32} {session other : Session} {stream : Stream}

/-- A step leaves alone what is live under numbers that it is not about. -/
theorem get?_streams_step (session : Session) {step : SessionStep}
    (hother : step.stream? ≠ some id) :
    (session.step Proxy.host step).2.streams.get? id = session.streams.get? id := by
  have hinput : ∀ target input, some target ≠ some id →
      (session.commonStep Proxy.host (Input.step target input)).2.streams.get? id =
        session.streams.get? id := by
    intro target input htarget
    cases hlive : session.streams.get? target with
    | none => rw [commonStep_input, withLive_of_none hlive]
    | some live =>
      rw [commonStep_of_live hlive]
      exact streams_met session live input fun hsame => htarget (congrArg some hsame)
  cases step with
  | behavior target config gated script =>
    exact (Table.get?_insert _ _ _ _).trans (if_neg fun hsame => hother (congrArg some hsame.symm))
  | common step =>
    cases step with
    | start | tick | plugin => rfl
    | stream number target script =>
      simp only [Session.step, commonStep]
      cases (session.plugin number).newStream target with
      | none => rfl
      | some stream =>
        exact (Table.get?_insert _ _ _ _).trans
          (if_neg fun hsame => hother (congrArg some hsame.symm))
    | drop target =>
      exact (Table.get?_erase _ _ _).trans (if_neg fun hsame => hother (congrArg some hsame.symm))
    | script target script =>
      simp only [Session.step, commonStep, withLive]
      split
      · rfl
      · exact (Table.get?_insert _ _ _ _).trans
          (if_neg fun hsame => hother (congrArg some hsame.symm))
    | inspect target =>
      simp only [Session.step, commonStep, withLive]
      split <;> rfl
    | arrival target part => exact hinput target (.arrival part) hother
    | callResponse target answer => exact hinput target (.response answer) hother

/-- Beside a session with a stream under a number stands one with the bare behavior of the
stream in its place. The proxies hold the same, but for what the stream never looks at
again. -/
structure Shadows (id : UInt32) (stream : Stream) (session other : Session) : Prop
    extends AgreeOff id session other where
  /-- The stream and its behavior are live, under proxies that hold the same. -/
  lives : ∃ owner proxy away, proxy.SameBut stream.state.hides away ∧
    session.streams.get? id = some ⟨.stream stream, owner, proxy⟩ ∧
    other.streams.get? id = some ⟨.bare stream.id stream.behavior, owner, away⟩

/-- Whether a step lets something arrive under a number that the stream there does not let
through. -/
def refuses (session : Session) (id : UInt32) (step : SessionStep) : Bool :=
  match step.input? id, session.streams.get? id with
  | some input, some ⟨.stream stream, _, _⟩ => !stream.accepts input
  | _, _ => false

/-- The steps of a row that a stream under a number lets through, and all steps that are
not for it to let through. -/
def admitted (session : Session) (id : UInt32) : List SessionStep → List SessionStep
  | [] => []
  | step :: rest =>
    let later := (session.step Proxy.host step).2.admitted id rest
    if session.refuses id step then later else step :: later

/-- What a report of a session with a stream and one of the session with its bare behavior
have to do with each other, when both take a step. -/
inductive Mirrors (id : UInt32) : SessionStep → Report → Report → Prop
  /-- A phase is let through. It makes the same calls and records, and its outcome decides
  whether the stream is held, and its state. -/
  | phase (part : Arrival) (calls : List Call) (action : Action) (outcome : Outcome)
      (log : List Record)
      (hpause : action = .pause ↔
        outcome = .awaitBody ∨ (∃ token, outcome = .awaitCall token) ∨ outcome = .responded) :
    Mirrors id (.common (.arrival id part)) ⟨.phase calls action outcome.state, log⟩
      ⟨.outcome calls outcome, log⟩
  /-- A completion is let through. It makes the same calls, and the same records behind one
  of the completion. -/
  | completion (answer : CallResponse) (calls : List Call) (record : Record) (log : List Record) :
    Mirrors id (.common (.callResponse id answer))
      ⟨.completion calls (some .completed), record :: log⟩ ⟨.completion calls none, log⟩
  /-- A look at the stream shows its behavior. -/
  | look (stream : Stream) :
    Mirrors id (.common (.inspect id)) ⟨.actor (.stream stream), []⟩
      ⟨.actor (.bare stream.id stream.behavior), []⟩
  /-- Everything else is reported alike. -/
  | same (step : SessionStep) (report : Report) (hinput : step.input? id = none)
      (hlook : step ≠ .common (.inspect id)) :
    Mirrors id step report report

/-- How a stream reports an input that it does not let through. -/
inductive Refuses (id : UInt32) (stream : Stream) : SessionStep → Report → Prop
  /-- A phase is held with the stream while that waits for a cluster call. -/
  | suspended (part : Arrival) (token : UInt32) (hstate : stream.state = .awaitingCall token) :
    Refuses id stream (.common (.arrival id part)) ⟨.phase [] .pause stream.state, []⟩
  /-- A phase passes a stream that is finished. -/
  | ended (part : Arrival) (hstate : stream.state = .completed) :
    Refuses id stream (.common (.arrival id part)) ⟨.phase [] .proceed stream.state, []⟩
  /-- A completion that the stream does not wait for is recorded. -/
  | stray (answer : CallResponse) (hstate : stream.state ≠ .awaitingCall answer.token) :
    Refuses id stream (.common (.callResponse id answer))
      ⟨.completion [] (some stream.state),
        [⟨some stream.id, .strayCompletion answer.token stream.state⟩]⟩

section

variable {owner : Owner} {proxy away : Proxy}

/-- A phase that is not let through comes to nothing. -/
theorem meeting_of_gate (session : Session) {action : Action}
    (hgate : stream.state.gate? = some action) (part : Arrival) :
    session.meeting ⟨.stream stream, owner, proxy⟩ (.arrival part) =
      ⟨⟨fun calls => .phase calls action stream.state, .stream stream, session.counters owner⟩,
        session.world (part.arrive proxy).1, []⟩ := by
  simp only [meeting, Input.arrive, Actor.meet, Stream.onPhase, hgate]
  rfl

/-- A completion that is not let through is only recorded. -/
theorem meeting_of_stray (session : Session) {answer : CallResponse}
    (hstate : stream.state ≠ .awaitingCall answer.token) :
    session.meeting ⟨.stream stream, owner, proxy⟩ (.response answer) =
      ⟨⟨fun calls => .completion calls (some stream.state), .stream stream,
          session.counters owner⟩, session.world (answer.arrive proxy).1,
        [.noted ⟨some stream.id, .strayCompletion answer.token stream.state⟩]⟩ := by
  have htoken : (answer.arrive proxy).2.token = answer.token := rfl
  simp only [meeting, Input.arrive, Actor.meet, Stream.onCompletion, htoken, if_neg hstate]
  rfl

/-- A phase that is let through is met by the behavior. -/
theorem meeting_of_open (session : Session) (hopen : stream.state.gate? = none)
    (part : Arrival) :
    let run := (stream.behavior.onPhase stream.id (session.counters owner)
      (part.arrive proxy).2).run Proxy.host (session.world (part.arrive proxy).1)
    session.meeting ⟨.stream stream, owner, proxy⟩ (.arrival part) =
      ⟨⟨fun calls => .phase calls run.value.outcome.action run.value.outcome.state,
          .stream ⟨stream.id, run.value.behavior, run.value.outcome.state⟩, run.value.counters⟩,
        run.world, run.trace⟩ := by
  simp only [meeting, Input.arrive, Actor.meet, Stream.onPhase, hopen, run_bind_pure]

/-- A completion that is let through is met by the behavior, behind a record of it. -/
theorem meeting_of_waiting (session : Session) {answer : CallResponse}
    (hstate : stream.state = .awaitingCall answer.token) :
    let completion := (answer.arrive proxy).2
    let run := (stream.behavior.onCompletion stream.id completion).run Proxy.host
      (session.world (answer.arrive proxy).1)
    session.meeting ⟨.stream stream, owner, proxy⟩ (.response answer) =
      ⟨⟨fun calls => .completion calls (some .completed),
          .stream { stream with state := .completed }, session.counters owner⟩, run.world,
        .noted ⟨some stream.id, .callCompleted completion.token completion.headers
          completion.bodySize⟩ :: run.trace⟩ := by
  have htoken : (answer.arrive proxy).2.token = answer.token := rfl
  simp only [meeting, Input.arrive, Actor.meet, Stream.onCompletion, htoken, if_pos hstate,
    say, run_bind, run_write, run_pure, List.append_nil]
  rfl

/-- The session after an input that leaves the stream, the counters and the token alone is
shadowed as before. -/
theorem Shadows.kept (h : Shadows id stream session other)
    (hlive : session.streams.get? id = some ⟨.stream stream, owner, proxy⟩) (arrived : Proxy)
    (harrived : ∀ away, proxy.SameBut stream.state.hides away →
      arrived.SameBut stream.state.hides away) :
    Shadows id stream (session.keep id ⟨.stream stream, owner, proxy⟩ (.stream stream)
      (session.world arrived) (session.counters owner)) other := by
  obtain ⟨held, found, away, hsame, hfound, hrival⟩ := h.lives
  cases hlive.symm.trans hfound
  refine { h.toAgreeOff.kept _ _ _ with lives := ?_ }
  exact ⟨owner, arrived, away, harrived away hsame,
    (get?_streams_keep ..).trans (if_pos rfl), hrival⟩

/-- What is not let through is refused, and changes nothing that the other session would
show. -/
theorem Shadows.refused (h : Shadows id stream session other) {input : Input}
    (hrefused : stream.accepts input = false) :
    Refuses id stream (.common (input.step id))
        (session.commonStep Proxy.host (input.step id)).1 ∧
      Shadows id stream (session.commonStep Proxy.host (input.step id)).2 other := by
  obtain ⟨owner, proxy, away, hsame, hlive, hrival⟩ := h.lives
  rw [commonStep_of_live hlive]
  cases input with
  | response answer =>
    have hstate : stream.state ≠ .awaitingCall answer.token := fun hwaits =>
      Bool.eq_false_iff.mp hrefused (Stream.accepts_response.mpr hwaits)
    rw [met, meeting_of_stray session hstate]
    exact ⟨.stray answer hstate, h.kept hlive _ fun away hsame => hsame.response_hidden answer rfl⟩
  | arrival part =>
    have hgate : stream.state.gate?.isSome = true := by
      rw [Stream.accepts_arrival] at hrefused
      exact Option.isNone_eq_false_iff.mp hrefused
    have hkept : ∀ away, proxy.SameBut stream.state.hides away →
        (part.arrive proxy).1.SameBut stream.state.hides away := fun away hsame =>
      hsame.arrival_hidden part hgate hgate
    cases hstate : stream.state with
    | running | awaitingBody =>
      rw [hstate] at hgate
      cases hgate
    | awaitingCall token =>
      have hpause : stream.state.gate? = some .pause := by rw [hstate]; rfl
      rw [met, meeting_of_gate session hpause]
      exact ⟨.suspended part token hstate, h.kept hlive _ hkept⟩
    | completed =>
      have hproceed : stream.state.gate? = some .proceed := by rw [hstate]; rfl
      rw [met, meeting_of_gate session hproceed]
      exact ⟨.ended part hstate, h.kept hlive _ hkept⟩

/-- A phase without gate is met by the behavior. -/
theorem meeting_bare_arrival (session : Session) (speaker : UInt32) (behavior : Behavior)
    (part : Arrival) :
    let run := (behavior.onPhase speaker (session.counters owner)
      (part.arrive proxy).2).run Proxy.host (session.world (part.arrive proxy).1)
    session.meeting ⟨.bare speaker behavior, owner, proxy⟩ (.arrival part) =
      ⟨⟨fun calls => .outcome calls run.value.outcome, .bare speaker run.value.behavior,
        run.value.counters⟩, run.world, run.trace⟩ := by
  simp only [meeting, Input.arrive, Actor.meet, run_bind_pure]

/-- A completion without gate is met by the behavior. -/
theorem meeting_bare_response (session : Session) (speaker : UInt32) (behavior : Behavior)
    (answer : CallResponse) :
    let run := (behavior.onCompletion speaker (answer.arrive proxy).2).run Proxy.host
      (session.world (answer.arrive proxy).1)
    session.meeting ⟨.bare speaker behavior, owner, proxy⟩ (.response answer) =
      ⟨⟨fun calls => .completion calls none, .bare speaker behavior, session.counters owner⟩,
        run.world, run.trace⟩ := by
  simp only [meeting, Input.arrive, Actor.meet, run_bind_pure]

/-- A phase that is let through is mirrored. -/
theorem Shadows.accepted_arrival (h : Shadows id stream session other) {part : Arrival}
    (hopen : stream.state.gate? = none) :
    let step := Input.step id (.arrival part)
    let report := (other.commonStep Proxy.host step).1
    Mirrors id (.common step) (session.commonStep Proxy.host step).1 report ∧
      ∃ after : Stream, after.state = report.answer.stateFrom stream.state ∧
        Shadows id after (session.commonStep Proxy.host step).2
          (other.commonStep Proxy.host step).2 := by
  intro step report
  obtain ⟨owner, proxy, away, hsame, hlive, hrival⟩ := h.lives
  have hseen : stream.state.gate?.isSome = false := by rw [hopen]; rfl
  obtain ⟨harrived, hphase⟩ := hsame.arrival part hseen hseen
  let dialogue :=
    stream.behavior.onPhase stream.id (session.counters owner) (part.arrive proxy).2
  let run := dialogue.run Proxy.host ⟨(part.arrive proxy).1, session.nextToken⟩
  let beside := dialogue.run Proxy.host ⟨(part.arrive away).1, session.nextToken⟩
  have hrun : beside.value = run.value ∧ beside.trace = run.trace ∧
      Proxy.SameBut stream.state.hides run.world.proxy beside.world.proxy ∧
      beside.world.nextToken = run.world.nextToken :=
    Behavior.run_onPhase_sameBut harrived hseen hseen _ _ _ _ _
  obtain ⟨hvalue, htrace, hleft, htoken⟩ := hrun
  have hgated : session.meeting ⟨.stream stream, owner, proxy⟩ (.arrival part) = _ :=
    meeting_of_open session hopen part
  have hbare : other.meeting ⟨.bare stream.id stream.behavior, owner, away⟩ (.arrival part) =
      ⟨⟨fun calls => .outcome calls run.value.outcome, .bare stream.id run.value.behavior,
        run.value.counters⟩, beside.world, run.trace⟩ := by
    rw [meeting_bare_arrival, h.counters, hphase, world, h.nextToken, ← hvalue, ← htrace]
  let after : Stream := ⟨stream.id, run.value.behavior, run.value.outcome.state⟩
  have hafter : ∀ buffer, after.state.hides buffer = false →
      stream.state.hides buffer = false := by
    intro buffer hbuffer
    cases buffer with
    | callResponse => cases hbuffer
    | request | response => exact hseen
  simp only [step, report, commonStep_of_live hlive, commonStep_of_live hrival, met, hgated, hbare]
  refine ⟨.phase part _ _ _ _ (Outcome.pause_iff _), after, rfl, ?_⟩
  refine { h.toAgreeOff.keep _ _ _ rfl _ htoken (.inl rfl) with lives := ?_ }
  exact ⟨owner, run.world.proxy, beside.world.proxy, hleft.hide hafter,
    (get?_streams_keep ..).trans (if_pos rfl), (get?_streams_keep ..).trans (if_pos rfl)⟩

/-- A completion that is let through is mirrored. -/
theorem Shadows.accepted_response (h : Shadows id stream session other) {answer : CallResponse}
    (hstate : stream.state = .awaitingCall answer.token) :
    let step := Input.step id (.response answer)
    let report := (other.commonStep Proxy.host step).1
    Mirrors id (.common step) (session.commonStep Proxy.host step).1 report ∧
      ∃ after : Stream, after.state = report.answer.stateFrom stream.state ∧
        Shadows id after (session.commonStep Proxy.host step).2
          (other.commonStep Proxy.host step).2 := by
  intro step report
  obtain ⟨owner, proxy, away, hsame, hlive, hrival⟩ := h.lives
  let unseen (buffer : Buffer) : Bool := buffer != .callResponse
  have harrived : Proxy.SameBut unseen (answer.arrive proxy).1 (answer.arrive away).1 :=
    hsame.response answer fun buffer hbuffer => .inr (by simpa [unseen] using hbuffer)
  let dialogue := stream.behavior.onCompletion stream.id (answer.arrive proxy).2
  let run := dialogue.run Proxy.host ⟨(answer.arrive proxy).1, session.nextToken⟩
  let beside := dialogue.run Proxy.host ⟨(answer.arrive away).1, session.nextToken⟩
  have hrun : beside.trace = run.trace ∧
      Proxy.SameBut unseen run.world.proxy beside.world.proxy ∧
      beside.world.nextToken = run.world.nextToken :=
    Behavior.run_onCompletion_sameBut harrived rfl _ _ _ _
  obtain ⟨htrace, hleft, htoken⟩ := hrun
  have hgated : session.meeting ⟨.stream stream, owner, proxy⟩ (.response answer) = _ :=
    meeting_of_waiting session hstate
  have hbare : other.meeting ⟨.bare stream.id stream.behavior, owner, away⟩ (.response answer) =
      ⟨⟨fun calls => .completion calls none, .bare stream.id stream.behavior,
        session.counters owner⟩, beside.world, run.trace⟩ := by
    rw [meeting_bare_response, h.counters, world, h.nextToken, ← htrace]
    rfl
  simp only [step, report, commonStep_of_live hlive, commonStep_of_live hrival, met, hgated, hbare]
  refine ⟨.completion answer _ _ _, { stream with state := .completed }, rfl, ?_⟩
  refine { h.toAgreeOff.keep _ _ _ rfl _ htoken (.inl rfl) with lives := ?_ }
  have hhidden : ∀ buffer, StreamState.completed.hides buffer = false →
      unseen buffer = false := by
    intro buffer hbuffer
    cases buffer <;> cases hbuffer
  exact ⟨owner, run.world.proxy, beside.world.proxy, hleft.hide hhidden,
    (get?_streams_keep ..).trans (if_pos rfl), (get?_streams_keep ..).trans (if_pos rfl)⟩

/-- New contents for the proxy of the stream come to both proxies. -/
theorem Shadows.script (h : Shadows id stream session other) (script : Script) :
    let step := Step.script id script
    (other.commonStep Proxy.host step).1 = (session.commonStep Proxy.host step).1 ∧
      Shadows id stream (session.commonStep Proxy.host step).2
        (other.commonStep Proxy.host step).2 := by
  intro step
  obtain ⟨owner, proxy, away, hsame, hlive, hrival⟩ := h.lives
  simp only [step, commonStep, withLive_of_some hlive, withLive_of_some hrival, world,
    h.nextToken, true_and]
  have hagree := h.toAgreeOff
  refine { plugin := h.plugin, shared := h.shared, nextToken := rfl, streams := ?_, lives := ?_ }
  · intro found hfound
    simp only [setStream, Table.get?_insert, if_neg hfound, h.streams found hfound]
  · exact ⟨owner, _, _, hsame.script script session.nextToken,
      (Table.get?_insert ..).trans (if_pos rfl), (Table.get?_insert ..).trans (if_pos rfl)⟩

/-- A step that is not for the stream under a number is reported alike. -/
theorem Shadows.apart (h : Shadows id stream session other) {step : SessionStep}
    (hother : step.stream? ≠ some id) :
    (other.step Proxy.host step).1 = (session.step Proxy.host step).1 ∧
      Shadows id stream (session.step Proxy.host step).2 (other.step Proxy.host step).2 := by
  obtain ⟨hreport, hagree⟩ := h.toAgreeOff.step hother
  refine ⟨hreport, { hagree with lives := ?_ }⟩
  rw [get?_streams_step session hother, get?_streams_step other hother]
  exact h.lives

/-- A step that the stream has nothing to let through of is mirrored, and leaves the stream
as it is. -/
theorem Shadows.passed (h : Shadows id stream session other) {step : SessionStep}
    (hkeeps : step.keeps id = true) (hinput : step.input? id = none) :
    Mirrors id step (session.step Proxy.host step).1 (other.step Proxy.host step).1 ∧
      Shadows id stream (session.step Proxy.host step).2 (other.step Proxy.host step).2 := by
  by_cases hother : step.stream? = some id
  · cases step with
    | behavior target config gated script =>
      exact absurd (Option.some.inj hother) (bne_iff_ne.mp hkeeps)
    | common step =>
      cases step with
      | start | tick | plugin => cases hother
      | stream | drop => exact absurd (Option.some.inj hother) (bne_iff_ne.mp hkeeps)
      | script target script =>
        cases hother
        obtain ⟨hreport, hshadows⟩ := h.script script
        refine ⟨?_, hshadows⟩
        rw [Session.step, Session.step, hreport]
        refine .same _ _ hinput ?_
        intro hlook
        cases hlook
      | inspect target =>
        cases hother
        obtain ⟨owner, proxy, away, -, hlive, hrival⟩ := h.lives
        simp only [Session.step, commonStep, withLive_of_some hlive, withLive_of_some hrival]
        exact ⟨.look stream, h⟩
      | arrival target part => 
        cases hother
        simp [SessionStep.input?] at hinput
      | callResponse target answer =>
        cases hother
        simp [SessionStep.input?] at hinput
  · obtain ⟨hreport, hshadows⟩ := h.apart hother
    refine ⟨?_, hshadows⟩
    rw [hreport]
    refine .same _ _ hinput ?_
    rintro rfl
    exact hother rfl

/-- A step of an input is refused exactly if the stream does not let the input through. -/
theorem Shadows.refuses_eq (h : Shadows id stream session other) {step : SessionStep}
    {input : Input} (hinput : step.input? id = some input) :
    session.refuses id step = !stream.accepts input := by
  obtain ⟨owner, proxy, away, -, hlive, -⟩ := h.lives
  simp only [refuses, hinput, hlive]

/-- A step that is refused changes nothing that the other session would show. -/
theorem Shadows.step_refused (h : Shadows id stream session other) {step : SessionStep}
    (hrefuses : session.refuses id step = true) :
    Refuses id stream step (session.step Proxy.host step).1 ∧
      Shadows id stream (session.step Proxy.host step).2 other := by
  cases hinput : step.input? id with
  | none =>
    rw [refuses, hinput] at hrefuses
    cases hrefuses
  | some input =>
    rw [h.refuses_eq hinput, Bool.not_eq_true'] at hrefuses
    cases SessionStep.eq_of_input? hinput
    exact h.refused hrefuses

/-- A step that is not refused is mirrored by the other session. -/
theorem Shadows.step_mirrored (h : Shadows id stream session other) {step : SessionStep}
    (hkeeps : step.keeps id = true) (hrefuses : session.refuses id step = false) :
    let report := (other.step Proxy.host step).1
    Mirrors id step (session.step Proxy.host step).1 report ∧
      ∃ after : Stream, after.state = step.stateFrom id stream.state report ∧
        Shadows id after (session.step Proxy.host step).2 (other.step Proxy.host step).2 := by
  intro report
  rw [SessionStep.stateFrom]
  cases hinput : step.input? id with
  | none =>
    obtain ⟨hmirrors, hshadows⟩ := h.passed hkeeps hinput
    exact ⟨hmirrors, stream, rfl, hshadows⟩
  | some input =>
    rw [h.refuses_eq hinput, Bool.not_eq_false'] at hrefuses
    cases SessionStep.eq_of_input? hinput
    cases input with
    | arrival part =>
      rw [Stream.accepts_arrival] at hrefuses
      exact h.accepted_arrival (Option.isNone_iff_eq_none.mp hrefuses)
    | response answer => exact h.accepted_response (Stream.accepts_response.mp hrefuses)

/-- Reports that mirror each other show the same calls. -/
theorem Mirrors.calls_eq {step : SessionStep} {report bare : Report}
    (h : Mirrors id step report bare) : report.answer.calls = bare.answer.calls := by
  cases h <;> rfl

/-- A report of what is refused shows no calls. -/
theorem Refuses.calls_eq {step : SessionStep} {report : Report}
    (h : Refuses id stream step report) : report.answer.calls = [] := by
  cases h <;> rfl

end

/-- The state of the stream under a number behind a row of steps of its bare behavior, by what
they report. -/
def stateThrough (id : UInt32) (state : StreamState) : List SessionStep → List Report → StreamState
  | step :: steps, report :: reports =>
    stateThrough id (step.stateFrom id state report) steps reports
  | _, _ => state

/-- The calls that a row of reports shows. -/
def callsOf (reports : List Report) : List Call := reports.flatMap (·.answer.calls)

/-- A run is shadowed by the run of the steps that the stream lets through, with the same
calls, and what that reports tells the state of the stream. -/
theorem Shadows.run (h : Shadows id stream session other) {steps : List SessionStep}
    (hkeeps : ∀ step ∈ steps, step.keeps id = true) :
    let beside := other.run Proxy.host (session.admitted id steps)
    callsOf (session.run Proxy.host steps).1 = callsOf beside.1 ∧
      ∃ after : Stream,
        after.state = stateThrough id stream.state (session.admitted id steps) beside.1 ∧
        Shadows id after (session.run Proxy.host steps).2 beside.2 := by
  induction steps generalizing stream session other with
  | nil => exact ⟨rfl, stream, rfl, h⟩
  | cons step rest ih =>
    obtain ⟨hstep, hrest⟩ := List.forall_mem_cons.mp hkeeps
    cases hrefuses : session.refuses id step with
    | true =>
      obtain ⟨hreport, hshadows⟩ := h.step_refused hrefuses
      obtain ⟨hcalls, after, hstate, hafter⟩ := ih hshadows hrest
      simp only [admitted, hrefuses, if_true, Session.run]
      refine ⟨?_, after, hstate, hafter⟩
      rw [callsOf, List.flatMap_cons, hreport.calls_eq]
      exact hcalls
    | false =>
      obtain ⟨hreport, next, hnext, hshadows⟩ := h.step_mirrored hstep hrefuses
      obtain ⟨hcalls, after, hstate, hafter⟩ := ih hshadows hrest
      simp only [admitted, hrefuses, Session.run]
      refine ⟨?_, after, ?_, hafter⟩
      · rw [callsOf, List.flatMap_cons, hreport.calls_eq]
        exact congrArg (_ ++ ·) hcalls
      · rw [hstate, hnext]
        rfl

/-- A new stream is its behavior behind a gate. Beside any run of a session with the stream
goes the run with the bare behavior, in which only what the stream lets through arrives: both
make the same calls, and end with the same plugins, counters and other streams and with the
same behavior. The state of the stream is what the latest outcome or completion of the
behavior leads to. Whatever comes next is mirrored, or else refused and without effect. -/
theorem gate_transparent (session : Session) (id : UInt32) (config : Config) (owner : Owner)
    (script : Script) {steps : List SessionStep}
    (hkeeps : ∀ step ∈ steps, step.keeps id = true) :
    let behavior := Behavior.ofConfig config
    let gated := session.create id (.stream (.new id behavior)) owner script
    let bare := session.create id (.bare id behavior) owner script
    let passed := gated.admitted id steps
    let run := gated.run Proxy.host steps
    let beside := bare.run Proxy.host passed
    callsOf run.1 = callsOf beside.1 ∧
      ∃ stream : Stream, Shadows id stream run.2 beside.2 ∧
        stream.state = stateThrough id .running passed beside.1 ∧
        ∀ step, (run.2.refuses id step = true →
            Refuses id stream step (run.2.step Proxy.host step).1 ∧
              Shadows id stream (run.2.step Proxy.host step).2 beside.2) ∧
          (step.keeps id = true → run.2.refuses id step = false →
            Mirrors id step (run.2.step Proxy.host step).1 (beside.2.step Proxy.host step).1) := by
  intro behavior gated bare passed run beside
  let world := script.apply (session.world .blank)
  have hbegin : Shadows id (.new id behavior) gated bare := by
    constructor
    case lives =>
      exact ⟨owner, world.proxy, world.proxy, .refl _ _,
        (Table.get?_insert ..).trans (if_pos rfl), (Table.get?_insert ..).trans (if_pos rfl)⟩
    case toAgreeOff =>
      refine ⟨fun _ => rfl, rfl, rfl, fun found hfound => ?_⟩
      simp only [gated, bare, create, setStream, Table.get?_insert, if_neg hfound]
  obtain ⟨hcalls, stream, hstate, hshadows⟩ := hbegin.run hkeeps
  refine ⟨hcalls, stream, hshadows, hstate, fun step => ⟨hshadows.step_refused, ?_⟩⟩
  exact fun hstep hrefuses => (hshadows.step_mirrored hstep hrefuses).1

/-- A request whose end starts a cluster call, with a late chunk and a stray completion while
it waits, and one more chunk behind the completion of the call. -/
def sampleSteps : List SessionStep :=
  [.common (.arrival 7 (.requestBody [1] true none)),
    .common (.arrival 7 (.requestBody [2] true none)),
    .common (.callResponse 7 ⟨2, [], [], none, none, 0⟩),
    .common (.callResponse 7 ⟨1, [], [3], none, none, 0⟩),
    .common (.arrival 7 (.requestBody [4] true none))]

/-- In the sample two of the five steps are let through, and they make all calls. -/
theorem sample_gate_transparent :
    let behavior := Behavior.ofConfig ⟨.callRelay, "", "/", "cluster"⟩
    let gated := new.create 7 (.stream (.new 7 behavior)) .shared .blank
    let bare := new.create 7 (.bare 7 behavior) .shared .blank
    let passed := gated.admitted 7 sampleSteps
    (∀ step ∈ sampleSteps, step.keeps 7 = true) ∧ passed.length = 2 ∧
      (callsOf (gated.run Proxy.host sampleSteps).1).length = 5 ∧
      callsOf (gated.run Proxy.host sampleSteps).1 = callsOf (bare.run Proxy.host passed).1 := by
  intro behavior gated bare passed
  have hkeeps : ∀ step ∈ sampleSteps, step.keeps 7 = true := by decide
  exact ⟨hkeeps, by decide, by decide,
    (gate_transparent new 7 ⟨.callRelay, "", "/", "cluster"⟩ .shared .blank hkeeps).1⟩

end Session

end ProxyFilter
