import ProxyFilter.Proofs.Json.Texts

/-!
# Objects with a further member

A member is put behind the others of an object, with a comma in front of it if there are any. The
text of the object tells where that is, so the new text holds the old members and then the new
one.
-/

namespace ProxyFilter.Json.Grammar

open Text

/-- Put the text of a member at the end of the text of an object. -/
inductive Appends (member : Bytes) : Bytes → Bytes → Prop
  /-- It stands alone if only white space stands between the braces. -/
  | alone {before body after : Bytes} (hbefore : IsBlank before) (hbody : IsBlank body)
      (hafter : IsBlank after) :
    Appends member (before ++ '\x7b'.toUInt8 :: (body ++ '\x7d'.toUInt8 :: after))
      (before ++ '\x7b'.toUInt8 :: (body ++ member ++ '\x7d'.toUInt8 :: after))
  /-- Otherwise a comma stands in front of it. -/
  | behind {before body after : Bytes} (hbefore : IsBlank before) (hbody : ¬ IsBlank body)
      (hafter : IsBlank after) :
    Appends member (before ++ '\x7b'.toUInt8 :: (body ++ '\x7d'.toUInt8 :: after))
      (before ++ '\x7b'.toUInt8 :: (body ++ ','.toUInt8 :: member ++ '\x7d'.toUInt8 :: after))

section

variable {before body after given inner rest part bytes member extended : Bytes}

/-- White space may stand in front of what stands between white space. -/
theorem Padded.prepend {α : Type} {Part : Bytes → α → Prop} {value : α} (hbefore : IsBlank before)
    (h : Padded Part bytes value) : Padded Part (before ++ bytes) value := by
  cases h with
  | between hgiven hpart hafter =>
    rw [← List.append_assoc, ← List.append_assoc]
    exact .between (isBlank_append hbefore hgiven) hpart hafter

/-- A part may stand behind others. -/
theorem Separated.concat {α : Type} {Part : Bytes → α → Prop} {values : List α} {value : α}
    (h : Separated Part body values) (hpart : Part part value) :
    Separated Part (body ++ ','.toUInt8 :: part) (values ++ [value]) := by
  induction h with
  | one hfirst => exact .more hfirst (.one hpart)
  | more hfirst _ ih =>
    rw [List.append_assoc, List.cons_append]
    exact .more hfirst ih

/-- Parts that begin with no white space are not white space. -/
theorem not_isBlank_of_separated {α : Type} {Part : Bytes → α → Prop} {Opens : UInt8 → Prop}
    {values : List α} (hbegins : Begins Part Opens) (h : Separated (Padded Part) body values) :
    ¬ IsBlank body := by
  have hpadded : ∀ {bytes : Bytes} {value : α}, Padded Part bytes value → ¬ IsBlank bytes := by
    rintro _ _ ⟨_, hpart, _⟩ hblank
    obtain ⟨byte, tail, rfl, hopens⟩ := hbegins.first hpart
    have hspace := isBlank_iff.mp hblank byte (by simp)
    rw [hbegins.solid hopens] at hspace
    cases hspace
  cases h with
  | one h => exact hpadded h
  | more h _ =>
    intro hblank
    exact hpadded h fun byte hbyte => hblank byte (List.mem_append_left _ hbyte)

/-- The text between the braces of an object is told by the whole, for the first brace is found from
the front and the last one from the back. -/
theorem body_inj (hbefore : IsBlank before) (hgiven : IsBlank given) (hafter : IsBlank after)
    (hrest : IsBlank rest)
    (h : before ++ '\x7b'.toUInt8 :: (body ++ '\x7d'.toUInt8 :: after) =
      given ++ '\x7b'.toUInt8 :: (inner ++ '\x7d'.toUInt8 :: rest)) : body = inner := by
  have hstart := congrArg skipSpace h
  rw [skipSpace_cons hbefore (by decide), skipSpace_cons hgiven (by decide)] at hstart
  have hback := congrArg (fun bytes => skipSpace bytes.reverse) (List.cons.inj hstart).2
  have hreverse : ∀ {after : Bytes} (body : Bytes), IsBlank after →
      skipSpace (body ++ '\x7d'.toUInt8 :: after).reverse = '\x7d'.toUInt8 :: body.reverse :=
    fun {after} body hafter => by
      have hblank : IsBlank after.reverse := fun byte hbyte =>
        hafter byte (List.mem_reverse.mp hbyte)
      rw [List.reverse_append, List.reverse_cons, List.append_assoc]
      exact skipSpace_cons hblank (by decide) body.reverse
  rw [hreverse body hafter, hreverse inner hrest] at hback
  exact List.reverse_inj.mp (List.cons.inj hback).2

/-- A row of members between braces is an object. -/
theorem object_of_isRow {Admits : Literal → Prop} {depth : Nat} {members : List (String × Value)}
    (hbefore : IsBlank before) (hafter : IsBlank after)
    (h : IsRow (IsMember (IsValueOf Admits depth)) body members) :
    Padded (IsValueOf Admits (depth + 1))
      (before ++ '\x7b'.toUInt8 :: (body ++ '\x7d'.toUInt8 :: after)) (.object members) := by
  have hobject : IsValueOf Admits (depth + 1) _ (.object members) := .inr (.object h)
  have hpadded := Padded.between hbefore hobject hafter
  simpa only [List.append_assoc, List.cons_append, List.nil_append] using hpadded

/-- Between the braces of an object stands the row of its members. -/
theorem isRow_of_object {Admits : Literal → Prop} {depth : Nat} {members : List (String × Value)}
    (hbefore : IsBlank before) (hafter : IsBlank after)
    (h : Padded (IsValueOf Admits (depth + 1))
      (before ++ '\x7b'.toUInt8 :: (body ++ '\x7d'.toUInt8 :: after)) (.object members)) :
    IsRow (IsMember (IsValueOf Admits depth)) body members := by
  generalize hbytes : before ++ '\x7b'.toUInt8 :: (body ++ '\x7d'.toUInt8 :: after) = bytes at h
  cases h with
  | between hgiven hpart hrest =>
    rcases hpart with hscalar | hcompound
    · cases hscalar with
      | other hscalar => cases hscalar
    · cases hcompound with
      | object hrow =>
        simp only [List.append_assoc, List.cons_append, List.nil_append] at hbytes
        rw [body_inj hbefore hgiven hafter hrest hbytes]
        exact hrow

/-- An object with a further member holds the old ones and then the new one. -/
theorem Appends.object {Admits : Literal → Prop} {depth : Nat} {members : List (String × Value)}
    {added : String × Value} (happends : Appends member bytes extended)
    (h : Padded (IsValueOf Admits (depth + 1)) bytes (.object members))
    (hmember : Padded (IsMember (IsValueOf Admits depth)) member added) :
    Padded (IsValueOf Admits (depth + 1)) extended (.object (members ++ [added])) := by
  have hbegins := begins_isMember (IsValueOf Admits depth)
  cases happends with
  | alone hbefore hbody hafter =>
    cases isRow_of_object hbefore hafter h with
    | empty => exact object_of_isRow hbefore hafter (.parts (.one (hmember.prepend hbody)))
    | parts hrow => exact absurd hbody (not_isBlank_of_separated hbegins hrow)
  | behind hbefore hbody hafter =>
    cases isRow_of_object hbefore hafter h with
    | empty hblank => exact absurd hblank hbody
    | parts hrow => exact object_of_isRow hbefore hafter (.parts (hrow.concat hmember))

end

end ProxyFilter.Json.Grammar
