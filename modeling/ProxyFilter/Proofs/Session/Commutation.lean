import ProxyFilter.Proofs.Session.Reception

/-!
# Independent steps commute

Two steps on different streams and plugins meet in two places only: the counters of an
owner, and the row of tokens. Where they do not clash there, they may be taken in either
order: each gives the same report, and the session is the same afterwards.
-/

namespace ProxyFilter

open Dialogue TraceEntry

namespace Table

variable {α : Type}

/-- Of two insertions under one number the later one counts. -/
theorem insert_insert (table : Table α) (number : UInt32) (first second : α) :
    (table.insert number first).insert number second = table.insert number second := by
  refine ext_get? fun other => ?_
  simp only [get?_insert]
  split <;> rfl

/-- Insertions under two numbers may be made in either order. -/
theorem insert_comm (table : Table α) {number other : UInt32} (hne : number ≠ other)
    (first second : α) :
    (table.insert number first).insert other second =
      (table.insert other second).insert number first := by
  refine ext_get? fun found => ?_
  simp only [get?_insert]
  split
  · next hfound => rw [if_neg fun hsame => hne (hsame.symm.trans hfound)]
  · rfl

end Table

namespace Session

/-- Two sessions are equal in which the same is found everywhere. -/
theorem ext_get? {a b : Session}
    (hplugins : ∀ number, a.plugins.get? number = b.plugins.get? number)
    (hstreams : ∀ id, a.streams.get? id = b.streams.get? id) (hshared : a.shared = b.shared)
    (htoken : a.nextToken = b.nextToken) : a = b := by
  obtain ⟨plugins, streams, shared, nextToken⟩ := a
  obtain ⟨plugins', streams', shared', nextToken'⟩ := b
  cases Table.ext_get? hplugins
  cases Table.ext_get? hstreams
  cases hshared
  cases htoken
  rfl

/-- Two steps may be taken in either order, with the same reports and to the same end. -/
def Commute (host : Host World) (session : Session) (a b : Step) : Prop :=
  let first := session.commonStep host a
  let second := session.commonStep host b
  (first.2.commonStep host b).1 = second.1 ∧ (second.2.commonStep host a).1 = first.1 ∧
    (first.2.commonStep host b).2 = (second.2.commonStep host a).2

/-- Either order means either order. -/
theorem Commute.symm {host : Host World} {session : Session} {a b : Step}
    (h : session.Commute host a b) : session.Commute host b a :=
  ⟨h.2.1, h.1, h.2.2.symm⟩

variable {session : Session} {id other : UInt32} {live rival : Live}

/-- Two plugins may be changed in either order, and one plugin by changes that commute. -/
theorem setPlugin_comm (f g : Plugin → Plugin) {number other : UInt32}
    (hsame : number = other →
      f (g (session.plugin number)) = g (f (session.plugin number))) :
    let first := session.setPlugin number (f (session.plugin number))
    let second := session.setPlugin other (g (session.plugin other))
    first.setPlugin other (g (first.plugin other)) =
      second.setPlugin number (f (second.plugin number)) := by
  intro first second
  have hfirst : first.plugin other =
      if other = number then f (session.plugin number) else session.plugin other :=
    plugin_setPlugin _ _ _ _
  have hsecond : second.plugin number =
      if number = other then g (session.plugin other) else session.plugin number :=
    plugin_setPlugin _ _ _ _
  rw [hfirst, hsecond]
  by_cases hnumber : number = other
  · cases hnumber
    rw [if_pos rfl, if_pos rfl, ← hsame rfl]
    simp only [first, second, setPlugin, Table.insert_insert]
  · rw [if_neg hnumber, if_neg (Ne.symm hnumber)]
    simp only [first, second, setPlugin, Table.insert_comm _ hnumber]

/-- A change of a plugin and an event may come in either order, if the counters that the
event leaves are changed alike. -/
theorem setPlugin_keep (f : Plugin → Plugin) {number : UInt32} {counters left : Counters}
    (hleft : if live.owner = .plugin number then
        f { session.plugin number with counters } =
          { f (session.plugin number) with counters := left }
      else left = counters) (actor : Actor) (world : World) :
    let kept := session.keep id live actor world counters
    (session.setPlugin number (f (session.plugin number))).keep id live actor world left =
      kept.setPlugin number (f (kept.plugin number)) := by
  intro kept
  let changed := session.setPlugin number (f (session.plugin number))
  have hplugins : ∀ found, (changed.keep id live actor world left).plugins.get? found =
      (kept.setPlugin number (f (kept.plugin number))).plugins.get? found := by
    intro found
    have hchanged : changed.plugins.get? found =
        if found = number then some (f (session.plugin number))
        else session.plugins.get? found := Table.get?_insert _ _ _ _
    have hkept : (kept.setPlugin number (f (kept.plugin number))).plugins.get? found =
        if found = number then some (f (kept.plugin number)) else kept.plugins.get? found :=
      Table.get?_insert _ _ _ _
    rw [hkept, get?_plugins_keep, hchanged, plugin_setPlugin, plugin_keep, get?_plugins_keep]
    by_cases hfound : found = number
    · cases hfound
      simp only [if_true]
      split
      · next howner =>
        rw [if_pos howner] at hleft
        rw [hleft]
      · rfl
    · simp only [if_neg hfound]
      split
      · next howner =>
        have hother : live.owner ≠ .plugin number := fun hsame =>
          hfound (Owner.plugin.inj (howner.symm.trans hsame))
        rw [if_neg hother] at hleft
        rw [hleft]
      · rfl
  have hshared : (changed.keep id live actor world left).shared = kept.shared := by
    rw [shared_keep, shared_keep]
    split
    · next howner =>
      rw [howner, if_neg nofun] at hleft
      exact hleft
    · rfl
  refine ext_get? hplugins (fun found => ?_) hshared rfl
  change (changed.keep id live actor world left).streams.get? found = kept.streams.get? found
  rw [get?_streams_keep, get?_streams_keep]
  rfl

/-- Two events of different numbers may come in either order, if the same counters and the
same next token are left in the end. -/
theorem keep_keep (hid : id ≠ other) {actor rivalActor : Actor} {world rivalWorld : World}
    {lastWorld rivalLastWorld : World} {left rivalLeft last rivalLast : Counters}
    (hproxy : lastWorld.proxy = world.proxy) (hrivalProxy : rivalLastWorld.proxy = rivalWorld.proxy)
    (htoken : rivalLastWorld.nextToken = lastWorld.nextToken)
    (hsame : live.owner = rival.owner → rivalLast = last)
    (hapart : live.owner ≠ rival.owner → rivalLast = rivalLeft ∧ last = left) :
    (session.keep id live actor world left).keep other rival rivalActor rivalLastWorld rivalLast =
      (session.keep other rival rivalActor rivalWorld rivalLeft).keep id live actor lastWorld
        last := by
  refine ext_get? (fun found => ?_) (fun found => ?_) ?_ htoken
  · grind [get?_plugins_keep, plugin_keep]
  · simp only [get?_streams_keep, hproxy, hrivalProxy]
    by_cases hfirst : found = id
    · rw [if_pos hfirst, if_neg fun hsecond => hid (hfirst.symm.trans hsecond), if_pos hfirst]
    · rw [if_neg hfirst, if_neg hfirst]
  · grind [shared_keep]

end Session

end ProxyFilter
