import ProxyFilter.Proofs.Stream.Numbering

/-!
# The ledger of one plugin

A ledger remembers of the streams of a plugin what no session keeps: which stream was
created as the how many-th, in which order streams have asked for a number, and every
number that was added as a header. It also remembers streams that are gone. A stream
is told from others by its life, the count of its creation, since the numbers by
which the proxy knows streams may be used again.
-/

namespace ProxyFilter

/-- What is remembered of the streams of a plugin. -/
structure Ledger where
  /-- How many streams have been created. -/
  births : Nat
  /-- The life of the stream under each number, if one is live there. -/
  life : UInt32 → Option Nat
  /-- The streams that have met request headers, each in the order of its first. -/
  takers : List Nat
  /-- The texts that streams have added to their requests. -/
  requestStamps : List (Nat × String)
  /-- The texts that streams have added to their responses. -/
  responseStamps : List (Nat × String)

namespace Ledger

/-- A ledger before the first stream. -/
def new : Ledger := ⟨0, fun _ => none, [], [], []⟩

/-- The number of a stream by its place among those that took one, counted from one. -/
def number? (ledger : Ledger) (life : Nat) : Option Nat :=
  (ledger.takers.idxOf? life).map (· + 1)

/-- Enter a new stream under a number. -/
def birth (ledger : Ledger) (id : UInt32) : Ledger :=
  { ledger with
    births := ledger.births + 1
    life := fun other => if other = id then some ledger.births else ledger.life other }

/-- Enter that no stream of the plugin is live under a number any more. -/
def death (ledger : Ledger) (id : UInt32) : Ledger :=
  { ledger with life := fun other => if other = id then none else ledger.life other }

/-- Enter what a stream has met: whether it asked for a number, and what it called. -/
def meet (ledger : Ledger) (life : Nat) (asks : Bool) (calls : List Call) : Ledger :=
  { ledger with
    takers := if asks ∧ life ∉ ledger.takers then ledger.takers ++ [life] else ledger.takers
    requestStamps := ledger.requestStamps ++ (calls.filterMap Call.requestStamp?).map (life, ·)
    responseStamps := ledger.responseStamps ++ (calls.filterMap Call.responseStamp?).map (life, ·) }

/-- A life that does not occur yet may stand at the end. -/
theorem nodup_concat {lives : List Nat} {life : Nat} (hlives : lives.Nodup)
    (hnew : life ∉ lives) : (lives ++ [life]).Nodup := by
  rw [List.nodup_append]
  refine ⟨hlives, List.pairwise_singleton _ life, ?_⟩
  intro held hheld _ hlast hsame
  rw [hsame, List.mem_singleton.mp hlast] at hheld
  exact hnew hheld

section

variable (ledger : Ledger) (life other : Nat) (asks : Bool) (calls : List Call)

/-- The place of a stream among the takers with one more at the end. -/
theorem idxOf?_concat (takers : List Nat) :
    (takers ++ [life]).idxOf? other =
      (takers.idxOf? other).or (if life = other then some takers.length else none) := by
  have hlast : [life].idxOf? other = if life = other then some 0 else none := by
    rw [List.idxOf?_singleton]
    simp only [beq_iff_eq]
  unfold List.idxOf? at hlast ⊢
  rw [List.findIdx?_append, hlast]
  split <;> simp

/-- Only what has taken no number has none. -/
theorem number?_eq_none_iff : ledger.number? life = none ↔ life ∉ ledger.takers := by
  rw [number?, Option.map_eq_none_iff, List.idxOf?_eq_none_iff]

/-- A stream that asks has a number afterwards: its own, or else the next one. No
other number changes. -/
theorem number?_meet :
    (ledger.meet life asks calls).number? other =
      if asks = true ∧ other = life then
        some ((ledger.number? life).getD (ledger.takers.length + 1))
      else ledger.number? other := by
  by_cases hnew : asks = true ∧ life ∉ ledger.takers
  · have hnone : ledger.number? life = none := (number?_eq_none_iff ledger life).mpr hnew.2
    rw [number?, meet, if_pos hnew, idxOf?_concat, hnone, number?]
    by_cases hself : other = life
    · have habsent : ledger.takers.idxOf? other = none :=
        List.idxOf?_eq_none_iff.mpr (hself ▸ hnew.2)
      rw [if_pos hself.symm, if_pos ⟨hnew.1, hself⟩, habsent]
      rfl
    · rw [if_neg (Ne.symm hself), if_neg fun hboth => hself hboth.2, Option.or_none]
  · have hsame : (ledger.meet life asks calls).number? other = ledger.number? other := by
      unfold number? meet
      rw [if_neg hnew]
    rw [hsame]
    split
    · next hself =>
      have htaken : life ∈ ledger.takers := by
        refine Decidable.byContradiction fun habsent => hnew ⟨hself.1, habsent⟩
      have hsome : ledger.number? life ≠ none := fun hnone =>
        (number?_eq_none_iff ledger life).mp hnone htaken
      obtain ⟨number, hnumber⟩ := Option.ne_none_iff_exists'.mp hsome
      rw [hself.2, hnumber, Option.getD_some]
    · rfl

/-- The takers grow by a stream that asks without having a number. -/
theorem length_takers_meet :
    (ledger.meet life asks calls).takers.length =
      if asks = true ∧ ledger.number? life = none then ledger.takers.length + 1
      else ledger.takers.length := by
  simp only [number?_eq_none_iff, meet]
  split
  · exact List.length_append
  · rfl

end

/-- A number stays. -/
theorem number?_meet_of_some {ledger : Ledger} {other number : Nat}
    (h : ledger.number? other = some number) (life : Nat) (asks : Bool) (calls : List Call) :
    (ledger.meet life asks calls).number? other = some number := by
  rw [number?_meet]
  split
  · next hself => rw [← hself.2, h, Option.getD_some]
  · exact h

/-- What a ledger knows of a live stream of the plugin. -/
structure Fits (ledger : Ledger) (stream : Stream) (life : Nat) : Prop where
  /-- The stream has the number of its place. -/
  numbered : stream.behavior.number? = ledger.number? life
  /-- A stream that numbers requests is not held. -/
  unheld : stream.behavior.kind = .requestNumbering →
    stream.state = .running ∨ stream.state = .completed
  /-- A stream that has stamped its response is finished. -/
  closed : life ∈ ledger.responseStamps.map (·.1) → stream.state = .completed

section

variable {ledger : Ledger} {counters : Counters} {moment : Moment} {life : Nat}

/-- A stream that has stamped its response by the end of a moment did so in it or
before. -/
theorem mem_responseStamps_meet {other : Nat} {asks : Bool} {calls : List Call}
    (h : other ∈ (ledger.meet life asks calls).responseStamps.map (·.1)) :
    other ∈ ledger.responseStamps.map (·.1) ∨
      (other = life ∧ calls.filterMap Call.responseStamp? ≠ []) := by
  rw [meet, List.map_append, List.mem_append] at h
  cases h with
  | inl hold => exact .inl hold
  | inr hnew =>
    rw [List.map_map, List.mem_map] at hnew
    obtain ⟨text, htext, rfl⟩ := hnew
    exact .inr ⟨rfl, List.ne_nil_of_mem htext⟩

/-- A stream fits behind the entry of its moment. -/
theorem Fits.meet_self (h : ledger.Fits moment.before life) (hentry : moment.Entry counters)
    (hcounted : counters.requests = ledger.takers.length) :
    (ledger.meet life (moment.before.asks moment.event) moment.calls).Fits moment.after life where
  numbered := by
    rw [number?_meet, hentry.number, h.numbered, hcounted]
    simp only [and_true]
  unheld := hentry.unheld
  closed hmem := by
    cases mem_responseStamps_meet hmem with
    | inl hold => exact hentry.finished (h.closed hold)
    | inr hnew =>
      cases hentry.responseStamps with
      | inl hnone => exact absurd hnone hnew.2
      | inr hsome =>
        obtain ⟨-, -, -, -, hfinished⟩ := hsome
        exact hfinished

/-- A stream fits behind the entry of another one's moment. -/
theorem Fits.meet_other {stream : Stream} {other : Nat} (h : ledger.Fits stream other)
    (hother : other ≠ life) (asks : Bool) (calls : List Call) :
    (ledger.meet life asks calls).Fits stream other where
  numbered := by
    rw [number?_meet, if_neg fun hself => hother hself.2]
    exact h.numbered
  unheld := h.unheld
  closed hmem := by
    cases mem_responseStamps_meet hmem with
    | inl hold => exact h.closed hold
    | inr hnew => exact absurd hnew.1 hother

end

/-- When a ledger agrees with the live streams of the plugin and with the number of
requests in its counters. -/
structure Agrees (ledger : Ledger) (members : UInt32 → Option Stream) (requests : Nat) :
    Prop where
  /-- Every live stream has a life and is as the ledger knows it. -/
  member : ∀ id stream, members id = some stream →
    ∃ life, ledger.life id = some life ∧ ledger.Fits stream life
  /-- Lives are counted. -/
  fresh : ∀ id life, ledger.life id = some life → life < ledger.births
  /-- No two live streams share a life. -/
  apart : ∀ id other life, ledger.life id = some life → ledger.life other = some life → id = other
  /-- The counters hold the number of takers. -/
  counted : requests = ledger.takers.length
  /-- No stream takes two numbers. -/
  distinct : ledger.takers.Nodup
  /-- Only streams that have been created take numbers. -/
  born : ∀ life ∈ ledger.takers, life < ledger.births
  /-- Every stamp is the number of the stream that made it. -/
  stamped : ∀ stamp ∈ ledger.requestStamps ++ ledger.responseStamps,
    ∃ number, ledger.number? stamp.1 = some number ∧ stamp.2 = toString number
  /-- No stream stamps two responses. -/
  once : (ledger.responseStamps.map (·.1)).Nodup

namespace Agrees

variable {ledger : Ledger} {members : UInt32 → Option Stream} {requests : Nat}

/-- An empty ledger agrees with no streams at all. -/
theorem new : Ledger.new.Agrees (fun _ => none) 0 where
  member := nofun
  fresh := nofun
  apart := nofun
  counted := rfl
  distinct := .nil
  born := nofun
  stamped := nofun
  once := .nil

/-- What has no number has stamped no response. -/
theorem not_mem_responseStamps (h : ledger.Agrees members requests) {life : Nat}
    (hnone : ledger.number? life = none) : life ∉ ledger.responseStamps.map (·.1) := by
  intro hmem
  obtain ⟨stamp, hstamp, rfl⟩ := List.mem_map.mp hmem
  obtain ⟨number, hnumber, -⟩ := h.stamped stamp (List.mem_append_right _ hstamp)
  rw [hnone] at hnumber
  cases hnumber

/-- A new stream is entered by a birth. -/
theorem birth (h : ledger.Agrees members requests) (id : UInt32) {stream : Stream}
    (hnumber : stream.behavior.number? = none) (hstate : stream.state = .running) :
    (ledger.birth id).Agrees (fun other => if other = id then some stream else members other)
      requests where
  member other held hheld := by
    have hnew : ledger.number? ledger.births = none :=
      (number?_eq_none_iff ledger _).mpr fun hmem => Nat.lt_irrefl _ (h.born _ hmem)
    by_cases hself : other = id
    · rw [if_pos hself] at hheld
      cases hheld
      refine ⟨ledger.births, if_pos hself, hnumber.trans hnew.symm, fun _ => .inl hstate, ?_⟩
      exact fun hmem => absurd hmem (h.not_mem_responseStamps hnew)
    · rw [if_neg hself] at hheld
      obtain ⟨life, hlife, hfits⟩ := h.member other held hheld
      exact ⟨life, (if_neg hself).trans hlife, hfits.numbered, hfits.unheld, hfits.closed⟩
  fresh other life hlife := by
    change (if other = id then some ledger.births else ledger.life other) = some life at hlife
    change life < ledger.births + 1
    split at hlife
    · cases hlife
      exact Nat.lt_succ_self _
    · exact Nat.lt_succ_of_lt (h.fresh other life hlife)
  apart first second life hfirst hsecond := by
    change (if first = id then some ledger.births else ledger.life first) = some life at hfirst
    change (if second = id then some ledger.births else ledger.life second) = some life at hsecond
    split at hfirst <;> split at hsecond
    · next hone htwo => rw [hone, htwo]
    · cases hfirst
      exact absurd (h.fresh second _ hsecond) (Nat.lt_irrefl _)
    · cases hsecond
      exact absurd (h.fresh first _ hfirst) (Nat.lt_irrefl _)
    · exact h.apart first second life hfirst hsecond
  counted := h.counted
  distinct := h.distinct
  born life hmem := Nat.lt_succ_of_lt (h.born life hmem)
  stamped := h.stamped
  once := h.once

/-- A stream that is gone is entered by a death. -/
theorem death (h : ledger.Agrees members requests) (id : UInt32) :
    (ledger.death id).Agrees (fun other => if other = id then none else members other)
      requests where
  member other held hheld := by
    by_cases hself : other = id
    · rw [if_pos hself] at hheld
      cases hheld
    · rw [if_neg hself] at hheld
      obtain ⟨life, hlife, hfits⟩ := h.member other held hheld
      exact ⟨life, (if_neg hself).trans hlife, hfits.numbered, hfits.unheld, hfits.closed⟩
  fresh other life hlife := by
    change (if other = id then none else ledger.life other) = some life at hlife
    split at hlife
    · cases hlife
    · exact h.fresh other life hlife
  apart first second life hfirst hsecond := by
    change (if first = id then none else ledger.life first) = some life at hfirst
    change (if second = id then none else ledger.life second) = some life at hsecond
    split at hfirst <;> split at hsecond
    · cases hfirst
    · cases hfirst
    · cases hsecond
    · exact h.apart first second life hfirst hsecond
  counted := h.counted
  distinct := h.distinct
  born := h.born
  stamped := h.stamped
  once := h.once

/-- Every stamp of a moment is the number that its stream has afterwards. -/
theorem stamped_meet (h : ledger.Agrees members requests) {life : Nat} {counters : Counters}
    {moment : Moment} (hfits : ledger.Fits moment.before life) (hentry : moment.Entry counters)
    (hcounters : counters.requests = requests) :
    let ledger' := ledger.meet life (moment.before.asks moment.event) moment.calls
    ∀ stamp ∈ ledger'.requestStamps ++ ledger'.responseStamps,
      ∃ number, ledger'.number? stamp.1 = some number ∧ stamp.2 = toString number := by
  intro ledger' stamp hmem
  have hold : stamp ∈ ledger.requestStamps ++ ledger.responseStamps →
      ∃ number, ledger'.number? stamp.1 = some number ∧ stamp.2 = toString number := by
    intro hmem
    obtain ⟨number, hnumber, htext⟩ := h.stamped stamp hmem
    exact ⟨number, number?_meet_of_some hnumber _ _ _, htext⟩
  cases List.mem_append.mp hmem with
  | inl hrequest =>
    cases List.mem_append.mp hrequest with
    | inl hbefore => exact hold (List.mem_append_left _ hbefore)
    | inr hnow =>
      obtain ⟨text, htext, rfl⟩ := List.mem_map.mp hnow
      rw [hentry.requestStamps] at htext
      split at htext
      · next hasks =>
        refine ⟨_, ?_, List.mem_singleton.mp htext⟩
        rw [number?_meet, if_pos ⟨hasks, rfl⟩, hfits.numbered, hcounters, h.counted]
      · cases htext
  | inr hresponse =>
    cases List.mem_append.mp hresponse with
    | inl hbefore => exact hold (List.mem_append_right _ hbefore)
    | inr hnow =>
      obtain ⟨text, htext, rfl⟩ := List.mem_map.mp hnow
      cases hentry.responseStamps with
      | inl hnone =>
        rw [hnone] at htext
        cases htext
      | inr hsome =>
        obtain ⟨number, hnumber, hstamp, -, -⟩ := hsome
        rw [hstamp] at htext
        rw [hfits.numbered] at hnumber
        exact ⟨number, number?_meet_of_some hnumber _ _ _, List.mem_singleton.mp htext⟩

/-- No moment stamps a second response. -/
theorem once_meet (h : ledger.Agrees members requests) {life : Nat} {counters : Counters}
    {moment : Moment} (hfits : ledger.Fits moment.before life) (hentry : moment.Entry counters)
    (asks : Bool) :
    ((ledger.meet life asks moment.calls).responseStamps.map (·.1)).Nodup := by
  rw [Ledger.meet, List.map_append]
  cases hentry.responseStamps with
  | inl hnone =>
    rw [hnone, List.map_nil, List.map_nil, List.append_nil]
    exact h.once
  | inr hsome =>
    obtain ⟨number, -, hstamp, hrunning, -⟩ := hsome
    have hfirst : life ∉ ledger.responseStamps.map (·.1) := by
      intro hmem
      rw [hfits.closed hmem] at hrunning
      cases hrunning
    rw [hstamp, List.map_singleton, List.map_singleton]
    exact nodup_concat h.once hfirst

/-- A moment of a live stream is entered by what the stream has met. -/
theorem meet (h : ledger.Agrees members requests) {id : UInt32} {life : Nat}
    {counters : Counters} {moment : Moment} (harises : moment.Arises counters)
    (hmember : members id = some moment.before) (hlife : ledger.life id = some life)
    (hcounters : counters.requests = requests) :
    (ledger.meet life (moment.before.asks moment.event) moment.calls).Agrees
      (fun other => if other = id then some moment.after else members other)
      moment.counters.requests := by
  have hfits : ledger.Fits moment.before life := by
    obtain ⟨held, hheld, hfits⟩ := h.member id moment.before hmember
    rw [hlife] at hheld
    cases hheld
    exact hfits
  have hentry := harises.entry hfits.unheld
  refine ⟨?_, h.fresh, h.apart, ?_, ?_, ?_, h.stamped_meet hfits hentry hcounters,
    h.once_meet hfits hentry _⟩
  · intro other stream hstream
    by_cases hself : other = id
    · rw [if_pos hself] at hstream
      cases hstream
      exact ⟨life, hself ▸ hlife, hfits.meet_self hentry (hcounters.trans h.counted)⟩
    · rw [if_neg hself] at hstream
      obtain ⟨held, hheld, hknown⟩ := h.member other stream hstream
      have hother : held ≠ life := by
        rintro rfl
        exact hself (h.apart other id held hheld hlife)
      exact ⟨held, hheld, hknown.meet_other hother _ _⟩
  · rw [hentry.requests, length_takers_meet, hcounters, h.counted, hfits.numbered]
  · unfold Ledger.meet
    split
    · next hnew => exact nodup_concat h.distinct hnew.2
    · exact h.distinct
  · intro other hmem
    unfold Ledger.meet at hmem
    split at hmem
    · cases List.mem_append.mp hmem with
      | inl hbefore => exact h.born other hbefore
      | inr hlast =>
        rw [List.mem_singleton.mp hlast]
        exact h.fresh id life hlife
    · exact h.born other hmem

end Agrees

end Ledger

end ProxyFilter
