import Mathlib.Data.List.Induction
import Mathlib.Data.String.Basic
import ProxyFilter.Json.Value

/-!
# Canonical forms tell values apart

In a canonical form the keys of every object ascend, and each stands there once, with the value
that it was given last. So two values have one canonical form exactly if they agree in
everything but the order of keys and the values that later ones replace.
-/

namespace ProxyFilter.Json.Value

/-- A property of every value is shown for lists from their items and for objects from the values
of their members. -/
theorem induction {motive : Value → Prop} (null : motive .null)
    (bool : ∀ value, motive (.bool value)) (number : ∀ value, motive (.number value))
    (string : ∀ text, motive (.string text))
    (array : ∀ items, (∀ item ∈ items, motive item) → motive (.array items))
    (object : ∀ members, (∀ member ∈ members, motive member.2) → motive (.object members))
    (value : Value) : motive value :=
  Value.rec (motive_1 := motive) (motive_2 := fun items => ∀ item ∈ items, motive item)
    (motive_3 := fun members => ∀ member ∈ members, motive member.2)
    (motive_4 := fun member => motive member.2) null bool number string
    array object nofun (fun _ _ hfirst hrest => List.forall_mem_cons.mpr ⟨hfirst, hrest⟩) nofun
    (fun _ _ hfirst hrest => List.forall_mem_cons.mpr ⟨hfirst, hrest⟩) (fun _ _ hvalue => hvalue)
    value

/-- Agreement of values, whatever the order of keys and the values that later ones replace. -/
inductive Agrees : Value → Value → Prop
  /-- Nothing agrees with nothing. -/
  | null : Agrees .null .null
  /-- A truth value agrees with itself. -/
  | bool (value : Bool) : Agrees (.bool value) (.bool value)
  /-- A number agrees with itself. -/
  | number (value : Number) : Agrees (.number value) (.number value)
  /-- A string agrees with itself. -/
  | string (text : String) : Agrees (.string text) (.string text)
  /-- Lists of one length agree if their items do, place by place. -/
  | array {items others : List Value} (hlength : items.length = others.length)
      (hitems : ∀ (index : Nat) (item other : Value), items[index]? = some item →
        others[index]? = some other → Agrees item other) :
    Agrees (.array items) (.array others)
  /-- Objects with the same keys agree if the last values of each key do. -/
  | object {members others : List (String × Value)}
      (hkeys : ∀ key, (last? members key).isSome = (last? others key).isSome)
      (hvalues : ∀ (key : String) (value other : Value), last? members key = some value →
        last? others key = some other → Agrees value other) :
    Agrees (.object members) (.object others)

/-! ## Last values -/

section

variable {members : List (String × Value)} {key name : String} {value : Value}

/-- The last value of a key is found. -/
theorem last?_of_append {before after : List (String × Value)}
    (hlast : ∀ member ∈ after, member.1 ≠ key) :
    last? (before ++ (key, value) :: after) key = some value := by
  have hfind : (before ++ (key, value) :: after).reverse.find? (fun member => member.1 == key) =
      some (key, value) := by
    rw [List.find?_eq_some_iff_append]
    refine ⟨beq_self_eq_true key, after.reverse, before.reverse, by simp, fun member hmember => ?_⟩
    have hne := hlast member (List.mem_reverse.mp hmember)
    simp [hne]
  rw [last?, hfind]
  rfl

/-- What is found is the last value of a key. -/
theorem append_of_last? (h : last? members key = some value) :
    ∃ before after, members = before ++ (key, value) :: after ∧
      ∀ member ∈ after, member.1 ≠ key := by
  rw [last?, Option.map_eq_some_iff] at h
  obtain ⟨member, hfind, rfl⟩ := h
  rw [List.find?_eq_some_iff_append] at hfind
  obtain ⟨hkey, after, before, hmembers, hafter⟩ := hfind
  obtain rfl : member.1 = key := beq_iff_eq.mp hkey
  refine ⟨before.reverse, after.reverse, ?_, fun other hother heq => ?_⟩
  · rw [← List.reverse_reverse members, hmembers, List.reverse_append, List.reverse_cons,
      List.append_assoc]
    rfl
  · have hne := hafter other (List.mem_reverse.mp hother)
    simp [heq] at hne

/-- Without a value of a key none is found. -/
theorem last?_eq_none_iff : last? members key = none ↔ ∀ member ∈ members, member.1 ≠ key := by
  simp [last?, List.find?_eq_none]

/-- The last value of a key depends only on the members with that key. -/
theorem last?_eq_of_filter {others : List (String × Value)}
    (h : members.filter (·.1 == key) = others.filter (·.1 == key)) :
    last? members key = last? others key := by
  have hlast : ∀ row : List (String × Value), row.reverse.find? (fun member => member.1 == key) =
      (row.filter (·.1 == key)).reverse.head? := fun row => by
    rw [← List.head?_filter, List.filter_reverse]
  rw [last?, last?, hlast, hlast, h]

/-- What is found is the value of a member. -/
theorem mem_of_last? (h : last? members key = some value) : (key, value) ∈ members := by
  obtain ⟨before, after, rfl, _⟩ := append_of_last? h
  exact List.mem_append_right before List.mem_cons_self

/-- A member at the end gives its key a value and leaves the other keys alone. -/
theorem last?_concat (members : List (String × Value)) (name key : String) (value : Value) :
    last? (members ++ [(name, value)]) key =
      if name = key then some value else last? members key := by
  rw [last?, List.reverse_append, List.reverse_singleton, List.singleton_append, List.find?_cons]
  by_cases hname : name = key
  · rw [if_pos hname, beq_iff_eq.mpr hname]
    rfl
  · rw [if_neg hname, beq_eq_false_iff_ne.mpr hname]
    rfl

/-- Values that are changed alike are found changed. -/
theorem last?_map (members : List (String × Value)) (change : Value → Value) (key : String) :
    last? (members.map fun member => (member.1, change member.2)) key =
      (last? members key).map change := by
  rw [last?, last?, ← List.map_reverse, List.find?_map, Option.map_map, Option.map_map]
  rfl

end

/-! ## Ascending members -/

/-- The keys of members ascend. -/
def IsAscending (members : List (String × Value)) : Prop := members.Pairwise (·.1 < ·.1)

section

variable {members others : List (String × Value)} {member : String × Value} {key : String}
  {value : Value}

/-- Among ascending members every value is the last one of its key. -/
theorem last?_eq_some_iff (h : IsAscending members) :
    last? members key = some value ↔ (key, value) ∈ members := by
  refine ⟨mem_of_last?, fun hmem => ?_⟩
  obtain ⟨before, after, rfl⟩ := List.append_of_mem hmem
  refine last?_of_append fun other hother heq => ?_
  have hless := List.rel_of_pairwise_cons (List.pairwise_append.mp h).2.1 hother
  rw [heq] at hless
  exact lt_irrefl key hless

/-- Ascending members are told by what is found among them. -/
theorem eq_of_last? (hmembers : IsAscending members) (hothers : IsAscending others)
    (h : ∀ key, last? members key = last? others key) : members = others := by
  have hmem : ∀ member, member ∈ members ↔ member ∈ others := fun member => by
    rw [← last?_eq_some_iff hmembers, ← last?_eq_some_iff hothers, h]
  have hnodup : ∀ row, IsAscending row → row.Nodup := fun row hrow =>
    hrow.imp fun hless heq => ne_of_lt hless (congrArg Prod.fst heq)
  have hperm := (List.perm_ext_iff_of_nodup (hnodup _ hmembers) (hnodup _ hothers)).mpr hmem
  exact hperm.eq_of_pairwise (fun _ _ _ _ hless hmore => absurd hless (lt_asymm hmore)) hmembers
    hothers

/-- A member that is put at its place replaces the one with its key. -/
theorem mem_place (h : IsAscending members) :
    member ∈ place key value members ↔
      member = (key, value) ∨ member ∈ members ∧ member.1 ≠ key := by
  induction members with
  | nil => simp [place]
  | cons first rest ih =>
    obtain ⟨hfirst, hrest⟩ := List.pairwise_cons.mp h
    have habove : ∀ bound, bound ≤ first.1 → member ∈ rest → member.1 ≠ bound :=
      fun bound hbound hmem heq => absurd (hfirst member hmem) (not_lt.mpr (heq ▸ hbound))
    rw [place]
    split
    · next heq =>
      have hkeep := habove key (le_of_eq heq)
      grind
    · split
      · next hless =>
        have hkeep := habove key (le_of_lt hless)
        grind
      · rw [List.mem_cons, ih hrest]
        grind

/-- The members still ascend with one that is put at its place. -/
theorem isAscending_place (h : IsAscending members) (key : String) (value : Value) :
    IsAscending (place key value members) := by
  induction members with
  | nil => exact List.pairwise_singleton _ _
  | cons first rest ih =>
    obtain ⟨hfirst, hrest⟩ := List.pairwise_cons.mp h
    rw [place]
    split
    · next heq => exact List.pairwise_cons.mpr ⟨fun member hmem => heq ▸ hfirst member hmem, hrest⟩
    · next hne =>
      split
      · next hless =>
        refine List.pairwise_cons.mpr ⟨fun member hmem => ?_, h⟩
        rcases List.mem_cons.mp hmem with rfl | hmem
        · exact hless
        · exact lt_trans hless (hfirst member hmem)
      · next hnot =>
        refine List.pairwise_cons.mpr ⟨fun member hmem => ?_, ih hrest⟩
        rcases (mem_place hrest).mp hmem with rfl | ⟨hmem, _⟩
        · exact lt_of_le_of_ne (not_lt.mp hnot) (Ne.symm hne)
        · exact hfirst member hmem

/-- The last member is put at its place after all the others. -/
theorem settle_concat (members : List (String × Value)) (member : String × Value) :
    settle (members ++ [member]) = place member.1 member.2 (settle members) :=
  List.foldl_concat ..

/-- Settled members ascend. -/
theorem isAscending_settle (members : List (String × Value)) : IsAscending (settle members) := by
  induction members using List.reverseRecOn with
  | nil => exact List.Pairwise.nil
  | append_singleton members member ih =>
    rw [settle_concat]
    exact isAscending_place ih member.1 member.2

/-- Settling keeps the last value of every key: the last member decides for its own key, and for the
others those settled before it. -/
theorem last?_settle (members : List (String × Value)) (key : String) :
    last? (settle members) key = last? members key := by
  induction members using List.reverseRecOn with
  | nil => rfl
  | append_singleton members member ih =>
    ext value
    have hbefore := isAscending_settle members
    rw [settle_concat, last?_concat, last?_eq_some_iff (isAscending_place hbefore ..),
      mem_place hbefore, ← last?_eq_some_iff hbefore, ih]
    by_cases hkey : member.1 = key
    · simp [hkey, Prod.ext_iff, eq_comm]
    · simp [hkey, Ne.symm hkey, Prod.ext_iff]

/-- Settling makes no new member. -/
theorem mem_of_mem_settle (h : member ∈ settle members) : member ∈ members := by
  refine mem_of_last? ?_
  rw [← last?_settle]
  exact (last?_eq_some_iff (isAscending_settle members)).mpr h

/-- Members settle to the same ones exactly if the same values are found among them. -/
theorem settle_eq_iff :
    settle members = settle others ↔ ∀ key, last? members key = last? others key := by
  constructor
  · intro h key
    rw [← last?_settle, h, last?_settle]
  · intro h
    refine eq_of_last? (isAscending_settle members) (isAscending_settle others) fun key => ?_
    rw [last?_settle, last?_settle, h]

end

/-! ## Canonical forms -/

/-- The items of a list become canonical one by one. -/
theorem canonicalItems_eq (items : List Value) : canonicalItems items = items.map canonical := by
  induction items with
  | nil => rfl
  | cons item rest ih => rw [canonicalItems, ih, List.map_cons]

/-- So do the values of members. -/
theorem canonicalMembers_eq (members : List (String × Value)) :
    canonicalMembers members = members.map fun member => (member.1, canonical member.2) := by
  induction members with
  | nil => rfl
  | cons member rest ih => rw [canonicalMembers, ih, List.map_cons]

/-- Two things that may be missing become the same exactly if both are there or both are missing
and what is there becomes the same. -/
theorem map_canonical_eq_iff {value other : Option Value} :
    value.map canonical = other.map canonical ↔
      value.isSome = other.isSome ∧
        ∀ here there, value = some here → other = some there →
          canonical here = canonical there := by
  cases value <;> cases other <;> simp

/-- Lists have one canonical form exactly if they have one length and their items have one, place
by place. -/
theorem canonical_array_eq_iff {items others : List Value} :
    canonical (.array items) = canonical (.array others) ↔
      items.length = others.length ∧
        ∀ (index : Nat) (item other : Value), items[index]? = some item →
          others[index]? = some other → canonical item = canonical other := by
  rw [canonical, canonical, canonicalItems_eq, canonicalItems_eq, Value.array.injEq]
  constructor
  · intro h
    refine ⟨by simpa using congrArg List.length h, fun index => ?_⟩
    have hindex := congrArg (·[index]?) h
    simp only [List.getElem?_map] at hindex
    exact (map_canonical_eq_iff.mp hindex).2
  · rintro ⟨hlength, hitems⟩
    refine List.ext_getElem? fun index => ?_
    rw [List.getElem?_map, List.getElem?_map, map_canonical_eq_iff]
    refine ⟨?_, hitems index⟩
    rw [Bool.eq_iff_iff, isSome_getElem?, isSome_getElem?, hlength]

/-- Objects have one canonical form exactly if they have the same keys and the last values of each
key have one. -/
theorem canonical_object_eq_iff {members others : List (String × Value)} :
    canonical (.object members) = canonical (.object others) ↔
      (∀ key, (last? members key).isSome = (last? others key).isSome) ∧
        ∀ (key : String) (value other : Value), last? members key = some value →
          last? others key = some other → canonical value = canonical other := by
  rw [canonical, canonical, canonicalMembers_eq, canonicalMembers_eq, Value.object.injEq,
    settle_eq_iff]
  simp only [last?_map, map_canonical_eq_iff]
  exact forall_and

/-- Values have one canonical form exactly if they agree. -/
theorem canonical_eq_iff {value other : Value} :
    canonical value = canonical other ↔ Agrees value other := by
  constructor
  · intro h
    induction value using induction generalizing other with
    | null =>
      cases other with
      | null => exact .null
      | _ => cases h
    | bool value =>
      cases other with
      | bool other =>
        cases h
        exact .bool value
      | _ => cases h
    | number value =>
      cases other with
      | number other =>
        cases h
        exact .number value
      | _ => cases h
    | string text =>
      cases other with
      | string other =>
        cases h
        exact .string text
      | _ => cases h
    | array items ih =>
      cases other with
      | array others =>
        obtain ⟨hlength, hitems⟩ := canonical_array_eq_iff.mp h
        exact .array hlength fun index item other hitem hother =>
          ih item (List.mem_of_getElem? hitem) (hitems index item other hitem hother)
      | _ => cases h
    | object members ih =>
      cases other with
      | object others =>
        obtain ⟨hkeys, hvalues⟩ := canonical_object_eq_iff.mp h
        exact .object hkeys fun key value other hvalue hother =>
          ih (key, value) (mem_of_last? hvalue) (hvalues key value other hvalue hother)
      | _ => cases h
  · intro h
    induction h with
    | null => rfl
    | bool value => rfl
    | number value => rfl
    | string text => rfl
    | array hlength _ ih => exact canonical_array_eq_iff.mpr ⟨hlength, ih⟩
    | object hkeys _ ih => exact canonical_object_eq_iff.mpr ⟨hkeys, ih⟩

/-- A canonical form is its own canonical form. -/
theorem canonical_canonical (value : Value) : canonical (canonical value) = canonical value := by
  induction value using induction with
  | null => rfl
  | bool value => rfl
  | number value => rfl
  | string text => rfl
  | array items ih =>
    rw [canonical, canonical, canonicalItems_eq, canonicalItems_eq, List.map_map]
    exact congrArg _ (List.map_congr_left ih)
  | object members ih =>
    rw [canonical, canonical, Value.object.injEq, settle_eq_iff]
    intro key
    rw [canonicalMembers_eq, last?_map, last?_settle, canonicalMembers_eq, last?_map,
      Option.map_map]
    exact Option.map_congr fun value hvalue => ih (key, value) (mem_of_last? hvalue)

end ProxyFilter.Json.Value
