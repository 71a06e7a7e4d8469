/-!
# Tables by number

A table holds at most one value under each number. Its entries stand in
ascending order, so a table is determined by what is found in it: two tables in
which every number finds the same are equal.
-/

namespace ProxyFilter

/-- Values under numbers. -/
structure Table (α : Type) where
  /-- The numbers and their values. -/
  entries : List (UInt32 × α)
  /-- The numbers ascend. -/
  ascending : entries.Pairwise (·.1 < ·.1)
  deriving DecidableEq

namespace Table

variable {α : Type}

/-- A table without values. -/
def empty : Table α := ⟨[], .nil⟩

/-- The value under a number. -/
def get? (table : Table α) (number : UInt32) : Option α :=
  (table.entries.find? fun entry => entry.1 == number).map (·.2)

/-- Remove the value under a number. -/
def erase (table : Table α) (number : UInt32) : Table α where
  entries := table.entries.filter fun entry => entry.1 ≠ number
  ascending := table.ascending.filter _

/-- Put a value under a number, in place of the one before. -/
def insert (table : Table α) (number : UInt32) (value : α) : Table α where
  entries := table.entries.filter (fun entry => entry.1 < number) ++
    (number, value) :: table.entries.filter fun entry => number < entry.1
  ascending := by
    have hl := table.ascending.filter fun entry => decide (entry.1 < number)
    have hr := table.ascending.filter fun entry => decide (number < entry.1)
    simp only [List.pairwise_append, List.pairwise_cons, List.mem_cons, List.mem_filter,
      decide_eq_true_eq]
    refine ⟨hl, ⟨fun entry he => he.2, hr⟩, ?_⟩
    rintro a ⟨_, ha⟩ b (rfl | ⟨_, hb⟩)
    · exact ha
    · exact UInt32.lt_trans ha hb

/-- What is found under a number is exactly what stands there. -/
theorem get?_eq_some_iff {table : Table α} {number : UInt32} {value : α} :
    table.get? number = some value ↔ (number, value) ∈ table.entries := by
  obtain ⟨entries, ascending⟩ := table
  simp only [get?]
  induction entries with
  | nil => simp
  | cons entry rest ih =>
    obtain ⟨first, held⟩ := entry
    obtain ⟨hfirst, hrest⟩ := List.pairwise_cons.1 ascending
    by_cases h : first = number
    · subst h
      have habsent : (first, value) ∉ rest := fun hm => UInt32.lt_irrefl first (hfirst _ hm)
      simp [habsent, eq_comm]
    · simp [h, ih hrest, Ne.symm h]

/-- Two tables in which every number finds the same are equal. -/
theorem ext_get? {a b : Table α} (h : ∀ number, a.get? number = b.get? number) : a = b := by
  have hnodup : ∀ t : Table α, t.entries.Nodup := fun t => by
    refine t.ascending.imp ?_
    rintro entry _ hlt rfl
    exact UInt32.lt_irrefl _ hlt
  have hperm : a.entries.Perm b.entries :=
    (List.perm_ext_iff_of_nodup (hnodup a) (hnodup b)).2 fun ⟨number, value⟩ => by
      rw [← get?_eq_some_iff, ← get?_eq_some_iff, h]
  have heq : a.entries = b.entries :=
    hperm.eq_of_pairwise (fun _ _ _ _ h₁ h₂ => absurd h₂ (UInt32.lt_asymm h₁))
      a.ascending b.ascending
  cases a
  cases b
  simp_all

/-- After a removal only the other numbers find their values. -/
@[simp] theorem get?_erase (table : Table α) (number other : UInt32) :
    (table.erase number).get? other = if other = number then none else table.get? other := by
  apply Option.ext
  intro value
  split <;> simp_all [get?_eq_some_iff, erase]

/-- After an insertion one number finds the new value, and every other number
what it found before. -/
@[simp] theorem get?_insert (table : Table α) (number other : UInt32) (value : α) :
    (table.insert number value).get? other =
      if other = number then some value else table.get? other := by
  apply Option.ext
  intro held
  have hmem : (other, held) ∈ (table.insert number value).entries ↔
      (other, held) ∈ table.entries ∧ other < number ∨ (other = number ∧ held = value) ∨
        (other, held) ∈ table.entries ∧ number < other := by
    simp [insert]
  rw [get?_eq_some_iff, hmem]
  split
  · next h => simp [h, eq_comm]
  · next h =>
    simp only [h, false_and, false_or, ← and_or_left, get?_eq_some_iff]
    exact and_iff_left (UInt32.lt_or_lt_of_ne h)

end Table

end ProxyFilter
