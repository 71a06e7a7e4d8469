import ProxyFilter.Proofs.Config.Outcomes
import ProxyFilter.Proofs.Json.Appending
import ProxyFilter.Proofs.Json.Printing
import ProxyFilter.Proofs.Json.Range

/-!
# Further members never stop a configuration

A member with an unknown key changes nothing, and one of the three optional fields without a text
reads as absent. That holds for every value that is read at all: one that is nested too deep, a
number that is out of range and half a surrogate pair make the whole text unreadable.
-/

namespace ProxyFilter.Config

open Json Json.Grammar Text

/-- The configuration without an optional field. -/
def without (config : Config) (name : String) : Config where
  kind := config.kind
  function := if name = "function" then "" else config.function
  path := if name = "path" then "" else config.path
  cluster := if name = "upstream" then defaultCluster else config.cluster

/-- The fields without an optional one. -/
def Fields.without (fields : Fields) (name : String) : Fields where
  name := fields.name
  function := if name = "function" then "" else fields.function
  path := if name = "path" then "" else fields.path
  upstream := if name = "upstream" then "" else fields.upstream

section

variable {bytes extended member : Bytes} {members : List (String × Value)} {config : Config}
  {name key : String} {value : Value}

/-- A member at the end gives its field its text and leaves the other fields alone. -/
theorem field?_concat (members : List (String × Value)) (name key : String) (value : Value) :
    field? (members ++ [(name, value)]) key =
      if name = key then value.text? else field? members key := by
  rw [field?, Value.last?_concat]
  split <;> rfl

/-- A field that no member has is absent. -/
theorem field?_filter (members : List (String × Value)) (name key : String) :
    field? (members.filter (·.1 != name)) key =
      if name = key then none else field? members key := by
  by_cases hname : name = key
  · have hnone : Value.last? (members.filter (·.1 != name)) key = none := by
      refine Value.last?_eq_none_iff.mpr fun member hmember => ?_
      exact hname ▸ bne_iff_ne.mp (List.mem_filter.mp hmember).2
    rw [if_pos hname, field?, hnone]
    rfl
  · have hsame : (members.filter (·.1 != name)).filter (·.1 == key) =
        members.filter (·.1 == key) := by
      rw [List.filter_filter]
      refine List.filter_congr fun member _ => ?_
      by_cases hkey : member.1 = key
      · simp [hkey, Ne.symm hname]
      · simp [hkey]
    rw [if_neg hname, field?, field?, Value.last?_eq_of_filter hsame]

/-- A member with an unknown key changes no field. -/
theorem fieldsOf_concat_unknown (hname : name ∉ ["type", "function", "path", "upstream"])
    (members : List (String × Value)) (value : Value) :
    fieldsOf (members ++ [(name, value)]) = fieldsOf members := by
  simp only [List.mem_cons, List.not_mem_nil, or_false, not_or] at hname
  obtain ⟨htype, hfunction, hpath, hupstream⟩ := hname
  rw [fieldsOf, fieldsOf, field?_concat, field?_concat, field?_concat, field?_concat,
    if_neg htype, if_neg hfunction, if_neg hpath, if_neg hupstream]

/-- A field without a text reads as if no member had it. -/
theorem fieldsOf_concat_other (hvalue : ∀ text, value ≠ .string text)
    (members : List (String × Value)) (name : String) :
    fieldsOf (members ++ [(name, value)]) = fieldsOf (members.filter (·.1 != name)) := by
  have htext : value.text? = none := by
    cases value with
    | string text => exact absurd rfl (hvalue text)
    | _ => rfl
  simp only [fieldsOf, field?_concat, field?_filter, htext]

/-- Without the members of an optional field only that one is absent. -/
theorem fieldsOf_filter (hname : name ∈ ["function", "path", "upstream"])
    (members : List (String × Value)) :
    fieldsOf (members.filter (·.1 != name)) = (fieldsOf members).without name := by
  simp only [List.mem_cons, List.not_mem_nil, or_false] at hname
  rcases hname with rfl | rfl | rfl <;>
    simp [fieldsOf, field?_filter, Fields.without, trimmed_empty]

/-- Fields without an optional one hold the configuration without it. -/
theorem Fields.config_without (fields : Fields) (name : String) (kind : BehaviorKind) :
    (fields.without name).config kind = (fields.config kind).without name := by
  unfold Fields.config Fields.without Config.without
  by_cases hname : name = "upstream"
  · simp only [if_pos hname, if_true, defaultCluster]
  · simp only [if_neg hname]

/-- What stands in front of a further member is read with it. -/
theorem read_of_appends (happends : Appends member bytes extended)
    (hmember : Padded (IsMember (IsValueOf Literal.IsInRange 126)) member (name, value))
    (hread : Value.parse bytes = .ok (.object members)) :
    Value.parse extended = .ok (.object (members ++ [(name, value)])) := by
  have hkept := hmember.imp fun _ _ => IsMember.imp fun _ _ =>
    IsValueOf.imp fun _ => isKept_of_isInRange
  exact parse_eq_ok_iff_isTextOf.mpr (happends.object (isTextOf_of_parse hread) hkept)

/-- A further member stops no configuration, as long as its value is nested at most 126 deep and its
numbers are in range. With an unknown key it changes nothing. With the key of an optional field and
no text it gives the configuration that the members without that key hold. -/
theorem parse_of_appends (h : parse (some bytes) = .ok (some config))
    (hmember : Padded (IsMember (IsValueOf Literal.IsInRange 126)) member (name, value))
    (happends : Appends member bytes extended) :
    (name ∉ ["type", "function", "path", "upstream"] →
      parse (some extended) = .ok (some config)) ∧
    (name ∈ ["function", "path", "upstream"] → (∀ text, value ≠ .string text) →
      parse (some extended) = .ok (some (config.without name)) ∧
        ∀ members, IsText bytes (.object members) →
          ofMembers (members.filter (·.1 != name)) = .ok (config.without name)) := by
  have hdecodes := parse_eq_iff.mp h
  cases hdecodes with
  | @config members fields kind hread hfields hkind =>
    have hextended := read_of_appends happends hmember hread
    refine ⟨fun hname => ?_, fun hname hvalue => ?_⟩
    · have hsame := fieldsOf_concat_unknown hname members value
      exact parse_eq_iff.mpr (.config hextended (hsame.trans hfields) hkind)
    · have hfiltered : fieldsOf (members.filter (·.1 != name)) = fields.without name := by
        rw [fieldsOf_filter hname, hfields]
      rw [← Fields.config_without]
      refine ⟨?_, fun others hothers => ?_⟩
      · have hsame := fieldsOf_concat_other hvalue members name
        exact parse_eq_iff.mpr (.config hextended (hsame.trans hfiltered) hkind)
      · have hname : BehaviorKind.ofName? (fields.without name).name = some kind := hkind
        cases eq_of_isText hread hothers
        rw [ofMembers_eq, hfiltered, hname]
        rfl

/-- Braces around the members of an object. -/
def braced (body : Bytes) : Bytes := '\x7b'.toUInt8 :: (body ++ ['\x7d'.toUInt8])

/-- The members of a configuration with a path. -/
def pathBody : Bytes := Utf8.encode "\"type\":\"ffiTests\",\"path\":\"/\"".toList

/-- A further member stands behind these with a comma. -/
theorem appends_pathBody (member : Bytes) :
    Appends member (braced pathBody) (braced (pathBody ++ ','.toUInt8 :: member)) := by
  have hbody : ¬ IsBlank pathBody := fun hblank => by
    have hquote := hblank '"'.toUInt8 List.mem_cons_self
    revert hquote
    decide
  exact @Appends.behind member [] pathBody [] nofun hbody nofun

/-- The configuration with that path. -/
theorem parse_pathBody :
    parse (some (braced pathBody)) = .ok (some ⟨.bodyTransform, "", "/", "upstream"⟩) := by
  have hread : Value.parse (braced pathBody) =
      .ok (.object [("type", .string "ffiTests"), ("path", .string "/")]) := by
    have hbytes : braced pathBody = [123, 34, 116, 121, 112, 101, 34, 58, 34, 102, 102, 105, 84,
      101, 115, 116, 115, 34, 44, 34, 112, 97, 116, 104, 34, 58, 34, 47, 34, 125] := by decide
    rw [hbytes]
    rfl
  have hfields : fieldsOf [("type", .string "ffiTests"), ("path", .string "/")] =
      ⟨"ffiTests", "", "/", ""⟩ := rfl
  exact parse_eq_iff.mpr (.config hread hfields (BehaviorKind.ofName?_eq_some_iff.mpr rfl))

/-- A number makes the path absent. -/
theorem pathBody_parse_of_appends :
    parse (some (braced pathBody)) = .ok (some ⟨.bodyTransform, "", "/", "upstream"⟩) ∧
      parse (some (braced (pathBody ++ ','.toUInt8 :: Utf8.encode "\"path\":7".toList))) =
        .ok (some ⟨.bodyTransform, "", "", "upstream"⟩) := by
  have hfits : Fits 126 (.number (.integer 7)) := .integer ⟨by decide, by decide⟩
  have hvalue := (isValueOf_compact hfits).imp fun _ _ => isInRange_of_isInteger
  have hmember := IsMember.bare (isString_quoted "path") hvalue
  have hbytes : Utf8.encode "\"path\":7".toList = Utf8.encode (quoted "path") ++ ':'.toUInt8 ::
      Utf8.encode (Value.compact (.number (.integer 7))) := by decide
  rw [← hbytes] at hmember
  exact ⟨parse_pathBody,
    ((parse_of_appends parse_pathBody (.bare hmember) (appends_pathBody _)).2 (by decide) nofun).1⟩

/-! ## Members that make a text unreadable -/

/-- Members of a kind may be put at the end of every configuration, and nothing changes. -/
def AreIgnored (IsKind : Bytes → Prop) : Prop :=
  ∀ (bytes extended member : Bytes) (config : Config), parse (some bytes) = .ok (some config) →
    IsKind member → Appends member bytes extended → parse (some extended) = .ok (some config)

/-- Members are not ignored if one of them makes the text unreadable. -/
theorem not_areIgnored {IsKind : Bytes → Prop} (hkind : IsKind member)
    (hread : (Value.parse (braced (pathBody ++ ','.toUInt8 :: member))).isOk = false) :
    ¬ AreIgnored IsKind := by
  intro h
  obtain ⟨config, hparse⟩ : ∃ config,
      parse (some (braced (pathBody ++ ','.toUInt8 :: member))) = .ok (some config) :=
    ⟨_, h _ _ member _ parse_pathBody hkind (appends_pathBody member)⟩
  have hdecodes := parse_eq_iff.mp hparse
  cases hdecodes with
  | config hok =>
    rw [hok] at hread
    cases hread

/-- A list with nothing inside it but another such list, to a given depth. -/
def nested : Nat → Value
  | 0 => .array []
  | depth + 1 => .array [nested depth]

/-- Such a list is nested once deeper than its depth. -/
theorem fits_nested (depth : Nat) : Fits (depth + 1) (nested depth) := by
  induction depth with
  | zero => exact .array nofun
  | succ depth ih => exact .array (List.forall_mem_singleton.mpr ih)

/-- The number `1e400`. -/
def greatLiteral : Literal :=
  ⟨false, Utf8.encode ['1'], none, some ⟨'e', none, Utf8.encode ['4', '0', '0']⟩⟩

/-- It is well-formed and out of range. -/
theorem wellFormed_greatLiteral : greatLiteral.WellFormed ∧ greatLiteral.value? = none := by
  have hwhole : AreDigits (Utf8.encode ['1']) :=
    areDigits_iff.mpr ⟨by decide, List.all_eq_true.mp (by decide)⟩
  have hpower : AreDigits (Utf8.encode ['4', '0', '0']) :=
    areDigits_iff.mpr ⟨by decide, List.all_eq_true.mp (by decide)⟩
  refine ⟨⟨hwhole, by decide, nofun, fun power hgiven => ?_⟩, by decide⟩
  cases hgiven
  exact ⟨.inl rfl, nofun, hpower⟩

/-- Not every member with an unknown key is ignored: its value may be a number that is out of range,
lists that are nested too deep or half a surrogate pair, and its key may be one as well. -/
theorem unreadable_members :
    ¬ AreIgnored (fun member => ∃ value, IsMember (IsValue 0) member ("a", value)) ∧
    ¬ AreIgnored (fun member =>
      ∃ value, IsMember (IsValueOf Literal.IsInRange 127) member ("a", value)) ∧
    ¬ AreIgnored (fun member => ∃ digits unit, IsHex digits unit ∧
      member = Utf8.encode "\"a\":\"\\u".toList ++ digits ++ Utf8.encode "\"".toList) ∧
    ¬ AreIgnored (fun member => ∃ digits unit, IsHex digits unit ∧
      member = Utf8.encode "\"\\u".toList ++ digits ++ Utf8.encode "\":0".toList) := by
  have hhalf : IsHex (Utf8.encode ['d', '8', '0', '0']) 0xD800 :=
    .four (@IsHexDigit.small 0x64 (by decide)) (@IsHexDigit.decimal 0x38 (by decide))
      (@IsHexDigit.decimal 0x30 (by decide)) (@IsHexDigit.decimal 0x30 (by decide))
  refine ⟨?_, ?_, ?_, ?_⟩
  · have hvalue : IsValue 0 greatLiteral.bytes (.number (.integer 0)) :=
      .number greatLiteral _ wellFormed_greatLiteral.1 fun kept hkept => by
        rw [wellFormed_greatLiteral.2] at hkept
        cases hkept
    exact not_areIgnored ⟨_, .bare (isString_quoted "a") hvalue⟩ (by decide +kernel)
  · have hvalue := (isValueOf_compact (fits_nested 126)).imp fun _ _ => isInRange_of_isInteger
    exact not_areIgnored ⟨_, .bare (isString_quoted "a") hvalue⟩ (by decide +kernel)
  · exact not_areIgnored ⟨_, _, hhalf, rfl⟩ (by decide +kernel)
  · exact not_areIgnored ⟨_, _, hhalf, rfl⟩ (by decide +kernel)

end

end ProxyFilter.Config
