import ProxyFilter.Proofs.Session.Ledger
import ProxyFilter.Session

/-!
# Numbers of all streams of a plugin

The ledger of a plugin is kept along any run of a session, in which streams of any
plugins are created, receive events and go in any order. It agrees with the session
after every step, so the counters of the plugin, the numbers of its streams and the
headers they add can all be read off the order in which the streams asked.
-/

namespace ProxyFilter

/-- The calls that an answer tells of. -/
def Answer.calls : Answer → List Call
  | .phase calls _ _ => calls
  | .outcome calls _ => calls
  | .completion calls _ => calls
  | _ => []

/-- The stream that is live, if it belongs to a plugin. -/
def Live.member? (live : Live) (plugin : UInt32) : Option Stream :=
  match live.actor, live.owner with
  | .stream stream, .plugin number => if number = plugin then some stream else none
  | _, _ => none

namespace Session

/-- The stream of a plugin under a number. -/
def member? (session : Session) (plugin id : UInt32) : Option Stream :=
  (session.streams.get? id).bind (·.member? plugin)

/-- The number of requests in the counters of a plugin. -/
def requests (session : Session) (plugin : UInt32) : Nat :=
  (session.plugin plugin).counters.requests

/-- Whether everything that belongs to a plugin is a stream. -/
def Gated (session : Session) : Prop :=
  ∀ id live number, session.streams.get? id = some live → live.owner = .plugin number →
    ∃ stream, live.actor = .stream stream

end Session

namespace Ledger

/-- Enter what has met an event, if it is a stream of the plugin. -/
def attend (ledger : Ledger) (plugin id : UInt32) (live : Live) (event : Event)
    (calls : List Call) : Ledger :=
  match live.member? plugin, ledger.life id with
  | some stream, some life => ledger.meet life (stream.asks event) calls
  | _, _ => ledger

/-- Enter a step of a session, with the answer to it. -/
def next (plugin : UInt32) (session : Session) (ledger : Ledger) (step : SessionStep)
    (answer : Answer) : Ledger :=
  match step with
  | .common (.stream number id _) =>
    match answer with
    | .created true => if number = plugin then ledger.birth id else ledger.death id
    | _ => ledger
  | .common (.drop id) => ledger.death id
  | .common (.arrival id arrival) =>
    match session.streams.get? id with
    | some live =>
      ledger.attend plugin id live (.phase (arrival.arrive live.proxy).2) answer.calls
    | none => ledger
  | .common (.callResponse id response) =>
    match session.streams.get? id with
    | some live =>
      ledger.attend plugin id live (.completion (response.arrive live.proxy).2) answer.calls
    | none => ledger
  | .behavior id _ _ _ => ledger.death id
  | _ => ledger

/-- Enter all steps of a session, from a session and a ledger on. -/
def after (plugin : UInt32) (host : Host World) (session : Session) (ledger : Ledger) :
    List SessionStep → Ledger
  | [] => ledger
  | step :: rest =>
    let (report, next) := session.step host step
    (ledger.next plugin session step report.answer).after plugin host next rest

end Ledger

/-- Whether a ledger agrees with a plugin as it is in a session. -/
def Ledger.Follows (ledger : Ledger) (plugin : UInt32) (session : Session) : Prop :=
  ledger.Agrees (session.member? plugin) (session.requests plugin)

/-- A ledger follows a session whose streams and requests it agrees with. -/
theorem Ledger.Agrees.follows {ledger : Ledger} {members : UInt32 → Option Stream}
    {requests : Nat} (h : ledger.Agrees members requests) {plugin : UInt32} {session : Session}
    (hmembers : session.member? plugin = members)
    (hrequests : session.requests plugin = requests) : ledger.Follows plugin session := by
  rw [Ledger.Follows, hmembers, hrequests]
  exact h

namespace Session

variable {session : Session} {plugin id : UInt32} {live : Live} {ledger : Ledger}

/-- What is put under a number decides about that number only. -/
theorem member?_setStream (session : Session) (plugin id : UInt32) (live : Live) :
    (session.setStream id live).member? plugin =
      fun other => if other = id then live.member? plugin else session.member? plugin other := by
  funext other
  rw [member?, setStream, Table.get?_insert]
  split <;> rfl

/-- What belongs to another owner is no stream of the plugin. -/
theorem member?_of_owner (howner : live.owner ≠ .plugin plugin) : live.member? plugin = none := by
  unfold Live.member?
  split
  · next stream number hactor hnumber =>
    refine if_neg fun hsame => howner ?_
    rw [hnumber, hsame]
  · rfl

/-- What an event leaves behind decides about its number only. -/
theorem member?_keep (session : Session) (plugin id : UInt32) (live : Live) (actor : Actor)
    (world : World) (counters : Counters) :
    (session.keep id live actor world counters).member? plugin = fun other =>
      if other = id then Live.member? ⟨actor, live.owner, world.proxy⟩ plugin
      else session.member? plugin other := by
  rw [← member?_setStream]
  obtain ⟨_, owner, _⟩ := live
  cases owner <;> rfl

/-- Only new counters of the plugin itself change its number of requests. -/
theorem requests_keep (session : Session) (plugin id : UInt32) (live : Live) (actor : Actor)
    (world : World) (counters : Counters) :
    (session.keep id live actor world counters).requests plugin =
      if live.owner = .plugin plugin then counters.requests else session.requests plugin := by
  obtain ⟨held, owner, proxy⟩ := live
  cases owner with
  | shared => rfl
  | plugin number =>
    let kept := session.setStream id ⟨actor, .plugin number, world.proxy⟩
    change ((kept.setPlugin number { kept.plugin number with counters }).plugin
      plugin).counters.requests = _
    rw [plugin_setPlugin]
    by_cases hself : plugin = number
    · rw [if_pos hself, if_pos (congrArg Owner.plugin hself.symm)]
    · rw [if_neg hself, if_neg fun hsame => hself (Owner.plugin.inj hsame).symm]
      rfl

/-- An event that meets something of another owner is not entered. -/
theorem attend_of_owner (howner : live.owner ≠ .plugin plugin) (event : Event)
    (calls : List Call) : ledger.attend plugin id live event calls = ledger := by
  rw [Ledger.attend, member?_of_owner howner]

/-- An event that meets something of another owner leaves the plugin as it is. -/
theorem follows_keep_of_owner (h : ledger.Follows plugin session)
    (hlive : session.streams.get? id = some live) (howner : live.owner ≠ .plugin plugin)
    (actor : Actor) (world : World) (counters : Counters) :
    let kept := session.keep id live actor world counters
    ledger.Follows plugin kept := by
  intro kept
  have hmembers : kept.member? plugin = session.member? plugin := by
    rw [member?_keep]
    funext other
    split
    · next hself =>
      rw [hself, member?, hlive, Option.bind_some, member?_of_owner howner]
      exact member?_of_owner howner
    · rfl
  have hrequests : kept.requests plugin = session.requests plugin := by
    rw [requests_keep, if_neg howner]
  exact Ledger.Agrees.follows h hmembers hrequests

/-- An event that meets a stream of the plugin is entered as what the stream met. -/
theorem follows_keep_of_member {moment : Moment}
    (h : ledger.Follows plugin session)
    (hlive : session.streams.get? id = some live) (howner : live.owner = .plugin plugin)
    (hactor : live.actor = .stream moment.before)
    (harises : moment.Arises (session.counters live.owner)) (world : World) :
    let kept := session.keep id live (.stream moment.after) world moment.counters
    (ledger.attend plugin id live moment.event moment.calls).Follows plugin kept := by
  intro kept
  have hlocal : live.member? plugin = some moment.before := by
    rw [Live.member?, hactor, howner]
    exact if_pos rfl
  have hmember : session.member? plugin id = some moment.before := by
    rw [member?, hlive, Option.bind_some, hlocal]
  obtain ⟨life, hlife, -⟩ := h.member id moment.before hmember
  have hcounters : (session.counters live.owner).requests = session.requests plugin := by
    rw [howner]
    rfl
  have hmembers : kept.member? plugin = fun other =>
      if other = id then some moment.after else session.member? plugin other := by
    have hafter : Live.member? ⟨.stream moment.after, live.owner, world.proxy⟩ plugin =
        some moment.after := by
      rw [Live.member?, howner]
      exact if_pos rfl
    rw [member?_keep, hafter]
  have hrequests : kept.requests plugin = moment.counters.requests := by
    rw [requests_keep, if_pos howner]
  rw [Ledger.attend, hlocal, hlife]
  exact (h.meet harises hmember hlife hcounters).follows hmembers hrequests

/-- A phase leaves something behind, and a stream where a stream was. -/
theorem deliver_eq_keep (session : Session) (host : Host World) (id : UInt32) (live : Live)
    (arrival : Arrival) :
    ∃ actor world counters,
      (session.deliver host id live arrival).2 = session.keep id live actor world counters ∧
        ∀ stream, live.actor = .stream stream → ∃ next, actor = .stream next := by
  unfold deliver
  cases live.actor with
  | stream stream => exact ⟨_, _, _, rfl, fun _ _ => ⟨_, rfl⟩⟩
  | bare speaker behavior => exact ⟨_, _, _, rfl, nofun⟩

/-- A completion leaves something behind, and a stream where a stream was. -/
theorem complete_eq_keep (session : Session) (host : Host World) (id : UInt32) (live : Live)
    (response : CallResponse) :
    ∃ actor world counters,
      (session.complete host id live response).2 = session.keep id live actor world counters ∧
        ∀ stream, live.actor = .stream stream → ∃ next, actor = .stream next := by
  unfold complete
  cases live.actor with
  | stream stream => exact ⟨_, _, _, rfl, fun _ _ => ⟨_, rfl⟩⟩
  | bare speaker behavior => exact ⟨_, _, _, rfl, nofun⟩

/-- A phase that arrives is entered. -/
theorem follows_deliver (h : ledger.Follows plugin session)
    (hgated : session.Gated) (hlive : session.streams.get? id = some live) (host : Host World)
    (arrival : Arrival) :
    let delivered := session.deliver host id live arrival
    (ledger.attend plugin id live (.phase (arrival.arrive live.proxy).2)
      delivered.1.answer.calls).Follows plugin delivered.2 := by
  intro delivered
  by_cases howner : live.owner = .plugin plugin
  · have hdelivered : delivered = session.deliver host id live arrival := rfl
    obtain ⟨stream, hactor⟩ := hgated id live plugin hlive howner
    simp only [deliver, hactor] at hdelivered
    rw [hdelivered]
    exact follows_keep_of_member h hlive howner hactor (stream.arises_meet ⟨.phase _, _, host, _⟩) _
  · obtain ⟨actor, world, counters, hkeep, -⟩ := session.deliver_eq_keep host id live arrival
    rw [attend_of_owner howner, hkeep]
    exact follows_keep_of_owner h hlive howner actor world counters

/-- A completion that arrives is entered. -/
theorem follows_complete (h : ledger.Follows plugin session)
    (hgated : session.Gated) (hlive : session.streams.get? id = some live) (host : Host World)
    (response : CallResponse) :
    let completed := session.complete host id live response
    (ledger.attend plugin id live (.completion (response.arrive live.proxy).2)
      completed.1.answer.calls).Follows plugin completed.2 := by
  intro completed
  by_cases howner : live.owner = .plugin plugin
  · have hcompleted : completed = session.complete host id live response := rfl
    obtain ⟨stream, hactor⟩ := hgated id live plugin hlive howner
    simp only [complete, hactor] at hcompleted
    rw [hcompleted]
    exact follows_keep_of_member h hlive howner hactor
      (stream.arises_meet ⟨.completion _, _, host, _⟩) _
  · obtain ⟨actor, world, counters, hkeep, -⟩ := session.complete_eq_keep host id live response
    rw [attend_of_owner howner, hkeep]
    exact follows_keep_of_owner h hlive howner actor world counters

/-- A plugin may change in all but its number of requests. -/
theorem requests_setPlugin (session : Session) (plugin number : UInt32) {changed : Plugin}
    (hsame : changed.counters.requests = session.requests number) :
    (session.setPlugin number changed).requests plugin = session.requests plugin := by
  rw [requests, plugin_setPlugin]
  split
  · next hself => rw [hself, hsame]
  · rfl

/-- A start keeps the counters. -/
theorem counters_start (plugin : Plugin) (configuration : Option Bytes) :
    (plugin.start configuration).plugin.counters = plugin.counters := by
  unfold Plugin.start
  split <;> rfl

/-- New contents for its proxy change nothing about a stream. -/
theorem member?_script (session : Session) (plugin : UInt32) {id : UInt32} {live : Live}
    (hlive : session.streams.get? id = some live) (proxy : Proxy) :
    (session.setStream id { live with proxy }).member? plugin = session.member? plugin := by
  rw [member?_setStream]
  funext other
  split
  · next hself =>
    rw [hself, member?, hlive]
    rfl
  · rfl

/-- Where nothing is live, nothing is done. -/
theorem withLive_of_none (hlive : session.streams.get? id = none)
    (action : Live → Report × Session) :
    session.withLive id action = (⟨.noStream, []⟩, session) := by
  rw [withLive, hlive]

/-- Where something is live, it is done with that. -/
theorem withLive_of_some (hlive : session.streams.get? id = some live)
    (action : Live → Report × Session) : session.withLive id action = action live := by
  rw [withLive, hlive]

/-- A stream that is created is entered, as a birth or else as a death of the stream
in whose place it stands. -/
theorem follows_create (h : ledger.Follows plugin session)
    (number id : UInt32) (script : Script) (host : Host World) :
    let step : SessionStep := .common (.stream number id script)
    let stepped := session.step host step
    (ledger.next plugin session step stepped.1.answer).Follows plugin stepped.2 := by
  intro step stepped
  cases hstream : (session.plugin number).newStream id with
  | none =>
    have hstepped : stepped = (⟨.created false, []⟩, session) := by
      simp only [stepped, step, Session.step, commonStep, hstream]
    rw [hstepped]
    exact h
  | some stream =>
    have hstepped : stepped = (⟨.created true, []⟩,
        session.create id (.stream stream) (.plugin number) script) := by
      simp only [stepped, step, Session.step, commonStep, hstream]
    obtain ⟨factory, config, -, -, hnew⟩ := Plugin.newStream_eq_some_iff.mp hstream
    have hmembers : stepped.2.member? plugin = fun other =>
        if other = id then (if number = plugin then some stream else none)
        else session.member? plugin other := by
      rw [hstepped]
      exact member?_setStream session plugin id _
    have hrequests : stepped.2.requests plugin = session.requests plugin := by
      rw [hstepped]
      rfl
    have hledger : ledger.next plugin session step stepped.1.answer =
        if number = plugin then ledger.birth id else ledger.death id := by
      rw [hstepped]
      rfl
    rw [hledger]
    refine Ledger.Agrees.follows ?_ hmembers hrequests
    split
    · rw [hnew]
      exact h.birth id (Behavior.number?_make factory config) rfl
    · exact h.death id

/-- A behavior without plugin takes the place of what was live under its number. -/
theorem follows_behavior (h : ledger.Follows plugin session) (host : Host World) (id : UInt32)
    (config : Config) (gated : Bool) (script : Script) :
    (ledger.death id).Follows plugin
      (session.step host (.behavior id config gated script)).2 := by
  refine (h.death id).follows ?_ rfl
  refine (member?_setStream session plugin id _).trans ?_
  funext other
  split
  · exact member?_of_owner nofun
  · rfl

/-- A stream that is removed is entered as a death. -/
theorem follows_drop (h : ledger.Follows plugin session) (host : Host World) (id : UInt32) :
    (ledger.death id).Follows plugin (session.step host (.common (.drop id))).2 := by
  refine (h.death id).follows ?_ rfl
  funext other
  change ((session.streams.erase id).get? other).bind (·.member? plugin) = _
  rw [Table.get?_erase]
  split <;> rfl

/-- New contents for a proxy need no entry. -/
theorem follows_script (h : ledger.Follows plugin session) (host : Host World) (id : UInt32)
    (script : Script) :
    ledger.Follows plugin (session.step host (.common (.script id script))).2 := by
  simp only [Session.step, commonStep]
  cases hlive : session.streams.get? id with
  | none =>
    rw [withLive_of_none hlive]
    exact h
  | some live =>
    rw [withLive_of_some hlive]
    exact Ledger.Agrees.follows h (member?_script session plugin hlive _) rfl

/-- A look at something live needs no entry. -/
theorem follows_inspect (h : ledger.Follows plugin session) (host : Host World) (id : UInt32) :
    ledger.Follows plugin (session.step host (.common (.inspect id))).2 := by
  simp only [Session.step, commonStep]
  cases hlive : session.streams.get? id with
  | none =>
    rw [withLive_of_none hlive]
    exact h
  | some live =>
    rw [withLive_of_some hlive]
    exact h

/-- What a session does with a stream is entered by its ledger, step by step. -/
theorem follows_step (h : ledger.Follows plugin session) (hgated : session.Gated)
    (host : Host World) (step : SessionStep) :
    let stepped := session.step host step
    (ledger.next plugin session step stepped.1.answer).Follows plugin stepped.2 := by
  intro stepped
  cases step with
  | behavior id config gated script => exact follows_behavior h host id config gated script
  | common step =>
    cases step with
    | start number configuration =>
      have hcounters := counters_start (session.plugin number) configuration
      exact Ledger.Agrees.follows h rfl
        (requests_setPlugin session plugin number (congrArg Counters.requests hcounters))
    | tick number times =>
      have htick := Plugin.repeat_tick (session.plugin number) times
      exact Ledger.Agrees.follows h rfl
        (requests_setPlugin session plugin number (congrArg (·.counters.requests) htick))
    | plugin number => exact h
    | stream number id script => exact follows_create h number id script host
    | drop id => exact follows_drop h host id
    | script id script => exact follows_script h host id script
    | inspect id => exact follows_inspect h host id
    | arrival id arrival =>
      cases hlive : session.streams.get? id with
      | none =>
        have hstepped : stepped = (⟨.noStream, []⟩, session) := withLive_of_none hlive _
        simp only [hstepped, Ledger.next, hlive]
        exact h
      | some live =>
        have hstepped : stepped = session.deliver host id live arrival := withLive_of_some hlive _
        simp only [hstepped, Ledger.next, hlive]
        exact follows_deliver h hgated hlive host arrival
    | callResponse id response =>
      cases hlive : session.streams.get? id with
      | none =>
        have hstepped : stepped = (⟨.noStream, []⟩, session) := withLive_of_none hlive _
        simp only [hstepped, Ledger.next, hlive]
        exact h
      | some live =>
        have hstepped : stepped = session.complete host id live response :=
          withLive_of_some hlive _
        simp only [hstepped, Ledger.next, hlive]
        exact follows_complete h hgated hlive host response

/-- What is put under a number must be a stream if it belongs to a plugin. -/
theorem gated_insert {after : Session} (hgated : session.Gated)
    (hstreams : after.streams = session.streams.insert id live)
    (hlive : ∀ number, live.owner = .plugin number → ∃ stream, live.actor = .stream stream) :
    after.Gated := by
  intro other held number hheld howner
  rw [hstreams, Table.get?_insert] at hheld
  split at hheld
  · cases hheld
    exact hlive number howner
  · exact hgated other held number hheld howner

/-- An event that leaves a stream where a stream was keeps what belongs to plugins a
stream. -/
theorem gated_keep {after : Session} {actor : Actor} {world : World} {counters : Counters}
    (hgated : session.Gated) (hlive : session.streams.get? id = some live)
    (hkeep : after = session.keep id live actor world counters)
    (hactor : ∀ stream, live.actor = .stream stream → ∃ next, actor = .stream next) :
    after.Gated := by
  have hstreams : after.streams = session.streams.insert id ⟨actor, live.owner, world.proxy⟩ := by
    rw [hkeep]
    obtain ⟨_, owner, _⟩ := live
    cases owner <;> rfl
  refine gated_insert hgated hstreams fun number howner => ?_
  obtain ⟨stream, hstream⟩ := hgated id live number hlive howner
  exact hactor stream hstream

/-- A step on something live keeps what belongs to plugins a stream if it does so on
whatever is live. -/
theorem gated_withLive {action : Live → Report × Session} (hgated : session.Gated)
    (haction : ∀ live, session.streams.get? id = some live → (action live).2.Gated) :
    (session.withLive id action).2.Gated := by
  unfold withLive
  split
  · exact hgated
  · next live hlive => exact haction live hlive

/-- A step keeps what belongs to plugins a stream. -/
theorem gated_step (hgated : session.Gated) (host : Host World) (step : SessionStep) :
    (session.step host step).2.Gated := by
  cases step with
  | behavior speaker config gated script =>
    exact gated_insert hgated rfl fun number howner => nomatch howner
  | common step =>
    cases step with
    | start => exact hgated
    | tick => exact hgated
    | plugin => exact hgated
    | stream number id script =>
      simp only [Session.step, commonStep]
      split
      · exact hgated
      · exact gated_insert hgated rfl fun _ _ => ⟨_, rfl⟩
    | drop id =>
      intro other held number hheld howner
      change (session.streams.erase id).get? other = some held at hheld
      rw [Table.get?_erase] at hheld
      split at hheld
      · cases hheld
      · exact hgated other held number hheld howner
    | script id script =>
      refine gated_withLive hgated fun live hlive => ?_
      exact gated_insert hgated rfl fun number => hgated id live number hlive
    | inspect => exact gated_withLive hgated fun _ _ => hgated
    | arrival id arrival =>
      refine gated_withLive hgated fun live hlive => ?_
      obtain ⟨_, _, _, hkeep, hactor⟩ := session.deliver_eq_keep host id live arrival
      exact gated_keep hgated hlive hkeep hactor
    | callResponse id response =>
      refine gated_withLive hgated fun live hlive => ?_
      obtain ⟨_, _, _, hkeep, hactor⟩ := session.complete_eq_keep host id live response
      exact gated_keep hgated hlive hkeep hactor

/-- A ledger that is kept along a run agrees with the session at its end. -/
theorem follows_run (h : ledger.Follows plugin session) (hgated : session.Gated)
    (host : Host World) (steps : List SessionStep) :
    (ledger.after plugin host session steps).Follows plugin (session.run host steps).2 := by
  induction steps generalizing session ledger with
  | nil => exact h
  | cons step rest ih => exact ih (follows_step h hgated host step) (gated_step hgated host step)

/-- A number in a ledger stays through a step. -/
theorem number?_next {life number : Nat} (h : ledger.number? life = some number)
    (plugin : UInt32) (session : Session) (step : SessionStep) (answer : Answer) :
    (ledger.next plugin session step answer).number? life = some number := by
  have hattend : ∀ id live event calls,
      (ledger.attend plugin id live event calls).number? life = some number := by
    intro id live event calls
    unfold Ledger.attend
    split
    · exact Ledger.number?_meet_of_some h _ _ _
    · exact h
  unfold Ledger.next
  split
  · split
    · split <;> exact h
    · exact h
  · exact h
  · split
    · exact hattend _ _ _ _
    · exact h
  · split
    · exact hattend _ _ _ _
    · exact h
  · exact h
  · exact h

/-- A number in a ledger stays through a run. -/
theorem number?_after {life number : Nat} (h : ledger.number? life = some number)
    (plugin : UInt32) (host : Host World) (session : Session) (steps : List SessionStep) :
    (ledger.after plugin host session steps).number? life = some number := by
  induction steps generalizing session ledger with
  | nil => exact h
  | cons step rest ih => exact ih (number?_next h plugin session step _) _

/-- A ledger that is kept along two rows of steps is kept along one after the other. -/
theorem after_append (plugin : UInt32) (host : Host World) (session : Session) (ledger : Ledger)
    (steps further : List SessionStep) :
    ledger.after plugin host session (steps ++ further) =
      (ledger.after plugin host session steps).after plugin host (session.run host steps).2
        further := by
  induction steps generalizing session ledger with
  | nil => rfl
  | cons step rest ih => exact ih _ _

/-- Requests are numbered in the order in which their streams ask. After any steps the
counters of a plugin hold the number of its streams that have met request headers before
they were finished; each live stream, told from the others by its life, has the number of
its place among them, and none without such a place; everything that streams have added to
requests and responses, be they live or not, is this number; no stream has numbered two
responses; and whatever follows, a number once taken stays with its stream. -/
theorem numbers_in_order (plugin : UInt32) (host : Host World) (steps : List SessionStep) :
    let session := (Session.new.run host steps).2
    let ledger := Ledger.new.after plugin host .new steps
    ((session.plugin plugin).counters.requests = ledger.takers.length ∧ ledger.takers.Nodup) ∧
    (∀ id stream, session.member? plugin id = some stream →
      ∃ life, ledger.life id = some life ∧ stream.behavior.number? = ledger.number? life) ∧
    (∀ id other life, ledger.life id = some life → ledger.life other = some life → id = other) ∧
    (∀ stamp ∈ ledger.requestStamps ++ ledger.responseStamps,
      ∃ number, ledger.number? stamp.1 = some number ∧ stamp.2 = toString number) ∧
    (ledger.responseStamps.map (·.1)).Nodup ∧
    (∀ further life number, ledger.number? life = some number →
      (Ledger.new.after plugin host .new (steps ++ further)).number? life = some number) := by
  intro session ledger
  have hnew : Ledger.new.Follows plugin .new := Ledger.Agrees.new
  have hagrees : ledger.Follows plugin session := follows_run hnew nofun host steps
  refine ⟨⟨hagrees.counted, hagrees.distinct⟩, ?_, hagrees.apart, hagrees.stamped,
    hagrees.once, ?_⟩
  · intro id stream hmember
    obtain ⟨life, hlife, hfits⟩ := hagrees.member id stream hmember
    exact ⟨life, hlife, hfits.numbered⟩
  · intro further life number hnumber
    rw [after_append]
    exact number?_after hnumber plugin host session further

/-- Of two streams the later one asks first, and asking again gives it no second number. -/
example :
    let session := Session.new.setPlugin 0
      ⟨some ⟨.requestNumbering, "", "", ""⟩, some ⟨.requestNumbering⟩, .zero⟩
    let ledger := Ledger.new.after 0 Proxy.host session
      [.common (.stream 0 1 .blank), .common (.stream 0 2 .blank),
        .common (.arrival 2 .requestHeaders), .common (.arrival 1 .requestHeaders),
        .common (.arrival 2 .requestHeaders)]
    ledger.takers = [1, 0] ∧ ledger.requestStamps = [(1, "1"), (0, "2"), (1, "1")] := by
  decide

end Session

end ProxyFilter
