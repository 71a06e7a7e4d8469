import ProxyFilter.Proofs.Session.Independence

/-!
# Bodies in chunks

A stream that buffers a body is told of it chunk by chunk. Until the last chunk it is held and
nothing is read, counted or changed; and what the last chunk comes to depends on the whole body
only. So a body may be cut into chunks anywhere, with the same calls, the same answer and the
same session in the end.
-/

namespace ProxyFilter

open Dialogue

/-- Which of the two bodies of a stream is meant. -/
inductive Side where
  /-- The body of the request. -/
  | request
  /-- The body of the response. -/
  | response
  deriving DecidableEq, Repr

namespace Side

/-- The phase that tells of a body. -/
def phase (side : Side) (size : Nat) (isLast : Bool) : Phase :=
  match side with
  | .request => .requestBody size isLast
  | .response => .responseBody size isLast

/-- A chunk of a body, told with the size that is buffered. -/
def chunk (side : Side) (bytes : Bytes) (isLast : Bool) : Arrival :=
  match side with
  | .request => .requestBody bytes isLast none
  | .response => .responseBody bytes isLast none

/-- A proxy with more of a body. -/
def extend (side : Side) (proxy : Proxy) (bytes : Bytes) : Proxy :=
  match side with
  | .request => { proxy with requestBody := proxy.requestBody ++ bytes }
  | .response => { proxy with responseBody := proxy.responseBody ++ bytes }

/-- The size of a body that is buffered. -/
def size (side : Side) (proxy : Proxy) : Nat :=
  match side with
  | .request => proxy.requestBody.length
  | .response => proxy.responseBody.length

/-- A chunk is buffered as it arrives, and the phase tells the size by then. -/
theorem arrive_chunk (side : Side) (proxy : Proxy) (bytes : Bytes) (isLast : Bool) :
    (side.chunk bytes isLast).arrive proxy =
      (side.extend proxy bytes, side.phase (side.size (side.extend proxy bytes)) isLast) := by
  cases side <;> rfl

/-- Nothing more of a body changes nothing. -/
theorem extend_nil (side : Side) (proxy : Proxy) : side.extend proxy [] = proxy := by
  cases side <;> simp only [extend, List.append_nil]

/-- Two pieces of a body are buffered like one. -/
theorem extend_append (side : Side) (proxy : Proxy) (first second : Bytes) :
    side.extend proxy (first ++ second) = side.extend (side.extend proxy first) second := by
  cases side <;> simp only [extend, List.append_assoc]

end Side

/-- The body that a behavior buffers. -/
def Behavior.side? : Behavior → Option Side
  | .callRelay _ => some .request
  | .bodyTransform ⟨_, .request _⟩ => some .request
  | .bodyTransform ⟨_, .response _⟩ => some .response
  | _ => none

/-- A chunk of a buffered body that is not the last one is waited for without a question. -/
theorem Behavior.run_onPhase_held {σ : Type} {behavior : Behavior} {side : Side}
    (hside : behavior.side? = some side) (host : Host σ) (world : σ) (id : UInt32)
    (counters : Counters) (size : Nat) :
    (behavior.onPhase id counters (side.phase size false)).run host world =
      ⟨⟨.awaitBody, behavior, counters⟩, world, []⟩ := by
  unfold side? at hside
  split at hside <;> cases hside <;> rfl

/-- Wherever its gate is open, a stream meets a phase the same way. -/
theorem Stream.onPhase_of_open {speaker : UInt32} {behavior : Behavior} {state next : StreamState}
    (hopen : state.gate? = none) (hnext : next.gate? = none) (counters : Counters) (phase : Phase) :
    Stream.onPhase ⟨speaker, behavior, state⟩ counters phase =
      Stream.onPhase ⟨speaker, behavior, next⟩ counters phase := by
  simp only [onPhase, hopen, hnext]

/-- A body in one chunk or more. -/
structure Cut where
  /-- The chunks before the last one. -/
  early : List Bytes
  /-- The last chunk. -/
  last : Bytes

namespace Cut

/-- The body that is cut. -/
def body (cut : Cut) : Bytes := cut.early.flatten ++ cut.last

end Cut

/-- The steps that deliver the chunks before the last one. -/
def Side.earlySteps (side : Side) (id : UInt32) (early : List Bytes) : List SessionStep :=
  early.map fun bytes => .common (.arrival id (side.chunk bytes false))

/-- The step that delivers the last chunk. -/
def Side.lastStep (side : Side) (id : UInt32) (last : Bytes) : SessionStep :=
  .common (.arrival id (side.chunk last true))

namespace Session

variable {session : Session} {id speaker : UInt32} {behavior : Behavior} {state : StreamState}
  {owner : Owner} {proxy : Proxy} {side : Side}

/-- Of two events under one number the later one counts, if the owner is the same. -/
theorem keep_again (session : Session) (id : UInt32) {live next : Live}
    (howner : next.owner = live.owner) (actor nextActor : Actor) (world nextWorld : World)
    (left nextLeft : Counters) :
    (session.keep id live actor world left).keep id next nextActor nextWorld nextLeft =
      session.keep id live nextActor nextWorld nextLeft := by
  refine ext_get? (fun number => ?_) (fun found => ?_) ?_ rfl
  · simp only [get?_plugins_keep, plugin_keep, howner]
    split <;> rfl
  · simp only [get?_streams_keep, howner]
    split <;> rfl
  · simp only [shared_keep, howner]
    split <;> rfl

/-- What an early chunk leaves: the stream is held, and more of the body is buffered. -/
def held (session : Session) (id : UInt32) (stream : Stream) (owner : Owner) (proxy : Proxy)
    (side : Side) (bytes : Bytes) : Session :=
  session.keep id ⟨.stream stream, owner, proxy⟩ (.stream { stream with state := .awaitingBody })
    (session.world (side.extend proxy bytes)) (session.counters owner)

/-- Behind an early chunk the stream is found with the same behavior. -/
theorem get?_held (session : Session) (id speaker : UInt32) (behavior : Behavior)
    (state : StreamState) (owner : Owner) (proxy : Proxy) (side : Side) (bytes : Bytes) :
    (session.held id ⟨speaker, behavior, state⟩ owner proxy side bytes).streams.get? id =
      some ⟨.stream ⟨speaker, behavior, .awaitingBody⟩, owner, side.extend proxy bytes⟩ :=
  (get?_streams_keep _ _ _ _ _ _ _).trans (if_pos rfl)

/-- An early chunk leaves all counters as they are. -/
theorem counters_held (session : Session) (id : UInt32) (stream : Stream) (owner : Owner)
    (proxy : Proxy) (side : Side) (bytes : Bytes) (found : Owner) :
    (session.held id stream owner proxy side bytes).counters found = session.counters found := by
  rw [held, counters_keep]
  split
  · next howner => rw [howner]
  · rfl

/-- An early chunk pauses its stream, and calls nothing. -/
theorem commonStep_early
    (hlive : session.streams.get? id = some ⟨.stream ⟨speaker, behavior, state⟩, owner, proxy⟩)
    (hopen : state.gate? = none) (hside : behavior.side? = some side) (host : Host World)
    (bytes : Bytes) :
    session.commonStep host (.arrival id (side.chunk bytes false)) =
      (⟨.phase [] .pause .awaitingBody, []⟩,
        session.held id ⟨speaker, behavior, state⟩ owner proxy side bytes) := by
  simp only [commonStep_arrival hlive, side.arrive_chunk, Stream.onPhase, hopen, run_bind_pure,
    Behavior.run_onPhase_held hside]
  rfl

/-- Behind an early chunk the last one comes to what both come to as one. -/
theorem commonStep_last
    (hlive : session.streams.get? id = some ⟨.stream ⟨speaker, behavior, state⟩, owner, proxy⟩)
    (hopen : state.gate? = none) (host : Host World) (side : Side) (bytes last : Bytes) :
    (session.held id ⟨speaker, behavior, state⟩ owner proxy side bytes).commonStep host
        (.arrival id (side.chunk last true)) =
      session.commonStep host (.arrival id (side.chunk (bytes ++ last) true)) := by
  have hheld := session.get?_held id speaker behavior state owner proxy side bytes
  have hgate : StreamState.gate? .awaitingBody = none := rfl
  simp only [commonStep_arrival hlive, commonStep_arrival hheld, side.arrive_chunk, counters_held,
    ← side.extend_append, Stream.onPhase_of_open hgate hopen]
  exact congrArg (Prod.mk _) (session.keep_again id rfl _ _ _ _ _ _)

/-- A row of early chunks pauses its stream at each, and calls nothing. The behavior and all
counters stay as they are, the chunks are buffered, and the last chunk comes to what it would
come to with all of them before it. -/
theorem run_early
    (hlive : session.streams.get? id = some ⟨.stream ⟨speaker, behavior, state⟩, owner, proxy⟩)
    (hopen : state.gate? = none) (hside : behavior.side? = some side) (host : Host World)
    (early : List Bytes) (last : Bytes) :
    let left := session.run host (side.earlySteps id early)
    left.1 = List.replicate early.length ⟨.phase [] .pause .awaitingBody, []⟩ ∧
    (∃ next, left.2.streams.get? id =
      some ⟨.stream ⟨speaker, behavior, next⟩, owner, side.extend proxy early.flatten⟩) ∧
    (∀ found, left.2.counters found = session.counters found) ∧
    left.2.step host (side.lastStep id last) =
      session.step host (side.lastStep id (early.flatten ++ last)) := by
  induction early generalizing session state proxy with
  | nil =>
    refine ⟨rfl, ⟨state, ?_⟩, fun _ => rfl, rfl⟩
    rw [List.flatten_nil, side.extend_nil]
    exact hlive
  | cons bytes rest ih =>
    let next := session.held id ⟨speaker, behavior, state⟩ owner proxy side bytes
    have hstep : session.step host (.common (.arrival id (side.chunk bytes false))) =
        (⟨.phase [] .pause .awaitingBody, []⟩, next) :=
      commonStep_early hlive hopen hside host bytes
    have hheld := session.get?_held id speaker behavior state owner proxy side bytes
    obtain ⟨hreports, ⟨reached, hreached⟩, hcounters, hlast⟩ := ih hheld rfl
    have hrun : session.run host (side.earlySteps id (bytes :: rest)) =
        (⟨.phase [] .pause .awaitingBody, []⟩ :: (next.run host (side.earlySteps id rest)).1,
          (next.run host (side.earlySteps id rest)).2) := by
      simp only [Side.earlySteps, List.map_cons, run, hstep]
    rw [hrun]
    refine ⟨?_, ⟨reached, ?_⟩, fun found => ?_, ?_⟩
    · rw [hreports]
      rfl
    · rw [hreached, List.flatten_cons, side.extend_append]
    · rw [hcounters, counters_held]
    · rw [hlast, List.flatten_cons, List.append_assoc]
      exact commonStep_last hlive hopen host side bytes (rest.flatten ++ last)

/-- Chunking does not matter. A stream that buffers a body, and waits for nothing but more of
it, is delivered the same body in two ways. Each chunk before the last one pauses the stream
and calls nothing; behind any number of them the behavior and all counters are as they were;
and the last chunk comes to the same report and the same session both ways. -/
theorem chunking_does_not_matter (host : Host World) {stream : Stream}
    (hlive : session.streams.get? id = some ⟨.stream stream, owner, proxy⟩)
    (hstate : stream.state = .running ∨ stream.state = .awaitingBody)
    (hside : stream.behavior.side? = some side) {cut other : Cut} (hbody : other.body = cut.body) :
    let early := session.run host (side.earlySteps id cut.early)
    let otherEarly := session.run host (side.earlySteps id other.early)
    early.1 = List.replicate cut.early.length ⟨.phase [] .pause .awaitingBody, []⟩ ∧
    (∀ past, past <+: cut.early →
      let between := (session.run host (side.earlySteps id past)).2
      (∃ next, between.streams.get? id =
        some ⟨.stream { stream with state := next }, owner, side.extend proxy past.flatten⟩) ∧
      ∀ found, between.counters found = session.counters found) ∧
    otherEarly.2.step host (side.lastStep id other.last) =
      early.2.step host (side.lastStep id cut.last) := by
  have hopen : stream.state.gate? = none := by
    rcases hstate with h | h <;> rw [h] <;> rfl
  obtain ⟨speaker, behavior, state⟩ := stream
  have hearly := run_early hlive hopen hside host
  refine ⟨(hearly cut.early cut.last).1, fun past _ => ?_, ?_⟩
  · obtain ⟨-, hfound, hcounters, -⟩ := hearly past cut.last
    exact ⟨hfound, hcounters⟩
  · obtain ⟨-, -, -, hlast⟩ := hearly cut.early cut.last
    obtain ⟨-, -, -, hother⟩ := hearly other.early other.last
    have hwhole : other.early.flatten ++ other.last = cut.early.flatten ++ cut.last := hbody
    rw [hlast, hother, hwhole]

/-- In the sample a request body of two bytes may come in three chunks or in one. -/
theorem sample_chunking_does_not_matter :
    let stream := Stream.new 1 (.callRelay ⟨"cluster", "/", []⟩)
    let cut : Cut := ⟨[[0x31], []], [0x32]⟩
    let other : Cut := ⟨[], [0x31, 0x32]⟩
    let early := sample.run Proxy.host (Side.request.earlySteps 1 cut.early)
    sample.streams.get? 1 = some ⟨.stream stream, .shared, .blank⟩ ∧
      (stream.state = .running ∨ stream.state = .awaitingBody) ∧
      stream.behavior.side? = some .request ∧ other.body = cut.body ∧
      early.1 = List.replicate 2 ⟨.phase [] .pause .awaitingBody, []⟩ ∧
      sample.step Proxy.host (Side.request.lastStep 1 other.last) =
        early.2.step Proxy.host (Side.request.lastStep 1 cut.last) := by
  intro stream cut other early
  have hlive : sample.streams.get? 1 = some ⟨.stream stream, .shared, .blank⟩ := rfl
  have hbody : other.body = cut.body := rfl
  obtain ⟨hearly, -, hlast⟩ := chunking_does_not_matter Proxy.host hlive (.inl rfl) rfl hbody
  exact ⟨hlive, .inl rfl, rfl, rfl, hearly, hlast⟩

end Session

end ProxyFilter
