import ProxyFilter.Config
import ProxyFilter.Proofs.Json.Canonical
import ProxyFilter.Proofs.Json.Texts

/-!
# Configurations are decoded exactly

A configuration is refused as malformed exactly if it is no JSON text of an object. Otherwise it
is told by the last values of four keys: which behavior it picks, or which name it refuses, and
what the other three fields hold. Nothing else in the text matters.
-/

namespace ProxyFilter

open Json Json.Grammar Text

/-- A refusal of what is no JSON text of an object. -/
def ConfigError.IsMalformed : ConfigError → Prop
  | .unreadable _ => True
  | .notObject _ => True
  | .repeatedField _ => True
  | .unknownKind _ => False

namespace Config

/-! ## Fields -/

/-- The text of a field. What is absent or no string has none. -/
def field? (members : List (String × Value)) (key : String) : Option String :=
  (Value.last? members key).bind Value.text?

section

variable {members : List (String × Value)} {met : List (String × Option String)}

/-- Members with different keys are visited to the end. Each field among them is met, and the
others are left as they were. -/
theorem visit_of_distinct (hkeys : members.Pairwise (·.1 ≠ ·.1))
    (hmet : ∀ member ∈ members, met.lookup member.1 = none) :
    ∃ result, Raw.visit met members = .ok result ∧
      ∀ key ∈ ["type", "function", "path", "upstream"],
        (∀ value, (key, value) ∈ members → result.lookup key = some value.text?) ∧
        ((∀ member ∈ members, member.1 ≠ key) → result.lookup key = met.lookup key) := by
  induction members generalizing met with
  | nil => exact ⟨met, rfl, fun _ _ => ⟨nofun, fun _ => rfl⟩⟩
  | cons member rest ih =>
    obtain ⟨name, value⟩ := member
    obtain ⟨hname, hrest⟩ := List.pairwise_cons.mp hkeys
    obtain ⟨hfree, hmet⟩ := List.forall_mem_cons.mp hmet
    have hother : ∀ {key : String} {given : Value}, (key, given) ∈ rest → name ≠ key :=
      fun hgiven => hname _ hgiven
    rw [Raw.visit]
    by_cases hknown : name ∈ ["type", "function", "path", "upstream"]
    · have hstill : ∀ member ∈ rest, ((name, value.text?) :: met).lookup member.1 = none :=
        fun member hmember => by
          rw [List.lookup_cons, beq_false_of_ne (hname member hmember).symm]
          exact hmet member hmember
      obtain ⟨result, hresult, hfields⟩ := ih hrest hstill
      rw [if_pos hknown, if_neg (by rw [hfree]; decide)]
      refine ⟨result, hresult, fun key hkey => ⟨fun given hgiven => ?_, fun hnone => ?_⟩⟩
      · rcases List.mem_cons.mp hgiven with hhere | hthere
        · cases hhere
          rw [(hfields name hkey).2 fun member hmember => (hname member hmember).symm,
            List.lookup_cons_self]
        · exact (hfields key hkey).1 given hthere
      · obtain ⟨hfirst, hnone⟩ := List.forall_mem_cons.mp hnone
        rw [(hfields key hkey).2 hnone, List.lookup_cons, beq_false_of_ne hfirst.symm]
    · obtain ⟨result, hresult, hfields⟩ := ih hrest hmet
      rw [if_neg hknown]
      refine ⟨result, hresult, fun key hkey => ⟨fun given hgiven => ?_, fun hnone => ?_⟩⟩
      · rcases List.mem_cons.mp hgiven with hhere | hthere
        · cases hhere
          exact absurd hkey hknown
        · exact (hfields key hkey).1 given hthere
      · exact (hfields key hkey).2 (List.forall_mem_cons.mp hnone).2

/-- The fields of an object are always read: its members are settled, so no field is met twice. -/
theorem ofMembers_settle (members : List (String × Value)) :
    Raw.ofMembers (Value.settle members) =
      .ok ⟨field? members "type", field? members "function", field? members "path",
        field? members "upstream"⟩ := by
  have hascending := Value.isAscending_settle members
  obtain ⟨met, hmet, hfields⟩ := @visit_of_distinct (Value.settle members) []
    (hascending.imp fun hless => ne_of_lt hless) fun _ _ => rfl
  have htext : ∀ key ∈ ["type", "function", "path", "upstream"],
      (met.lookup key).join = field? members key := fun key hkey => by
    rw [field?, ← Value.last?_settle]
    cases hlast : Value.last? (Value.settle members) key with
    | none =>
      rw [(hfields key hkey).2 (Value.last?_eq_none_iff.mp hlast)]
      rfl
    | some value =>
      rw [(hfields key hkey).1 value ((Value.last?_eq_some_iff hascending).mp hlast)]
      rfl
  rw [Raw.ofMembers, hmet, ok_bind, ← htext "type" (by decide), ← htext "function" (by decide),
    ← htext "path" (by decide), ← htext "upstream" (by decide)]
  rfl

end

/-- The text that a key gives: the one of its last value. What is absent or no string gives the
empty one. -/
inductive Gives (members : List (String × Value)) (key : String) : String → Prop
  /-- The last value is a string. -/
  | text {before after : List (String × Value)} {text : String}
      (hmembers : members = before ++ (key, .string text) :: after)
      (hlast : ∀ member ∈ after, member.1 ≠ key) : Gives members key text
  /-- The last value is no string. -/
  | other {before after : List (String × Value)} {value : Value}
      (hmembers : members = before ++ (key, value) :: after)
      (hlast : ∀ member ∈ after, member.1 ≠ key) (hvalue : ∀ text, value ≠ .string text) :
    Gives members key ""
  /-- There is no value. -/
  | absent (hmembers : ∀ member ∈ members, member.1 ≠ key) : Gives members key ""

/-- The texts of the four fields, trimmed where that is done. -/
structure Fields where
  /-- The name of the behavior. -/
  name : String
  /-- The foreign function. -/
  function : String
  /-- The path of cluster calls. -/
  path : String
  /-- The cluster, empty if none is named. -/
  upstream : String

/-- The fields that the members of an object hold. -/
structure Fields.AreHeld (fields : Fields) (members : List (String × Value)) : Prop where
  /-- The name is the type without the white space around it. -/
  name : ∃ text, Gives members "type" text ∧ Trims text.toList fields.name.toList
  /-- The function is given without the white space around it. -/
  function : ∃ text, Gives members "function" text ∧ Trims text.toList fields.function.toList
  /-- The path is given as it is. -/
  path : Gives members "path" fields.path
  /-- The cluster is given as it is. -/
  upstream : Gives members "upstream" fields.upstream

section

variable {members : List (String × Value)} {key text : String} {fields : Fields}

/-- A key gives exactly what is read for it. -/
theorem gives_iff : Gives members key text ↔ text = (field? members key).getD "" := by
  unfold field?
  constructor
  · intro h
    cases h with
    | text hmembers hlast =>
      rw [hmembers, Value.last?_of_append hlast]
      rfl
    | @other _ _ value hmembers hlast hvalue =>
      rw [hmembers, Value.last?_of_append hlast]
      cases value with
      | string text => exact absurd rfl (hvalue text)
      | _ => rfl
    | absent hmembers =>
      rw [Value.last?_eq_none_iff.mpr hmembers]
      rfl
  · rintro rfl
    cases hfound : Value.last? members key with
    | none => exact .absent (Value.last?_eq_none_iff.mp hfound)
    | some value =>
      obtain ⟨before, after, hmembers, hlast⟩ := Value.append_of_last? hfound
      cases value with
      | string text => exact .text hmembers hlast
      | _ => exact .other hmembers hlast nofun

/-- The fields as they are read. -/
def fieldsOf (members : List (String × Value)) : Fields where
  name := trimmed ((field? members "type").getD "")
  function := trimmed ((field? members "function").getD "")
  path := (field? members "path").getD ""
  upstream := (field? members "upstream").getD ""

/-- A text is trimmed exactly. -/
theorem trims_toList_iff {text core : String} :
    Trims text.toList core.toList ↔ core = trimmed text := by
  rw [trims_iff, trimmed]
  constructor
  · intro h
    rw [← h, String.ofList_toList]
  · rintro rfl
    exact String.toList_ofList

/-- The fields that members hold are those that are read. -/
theorem areHeld_iff : fields.AreHeld members ↔ fields = fieldsOf members := by
  constructor
  · rintro ⟨⟨type, htype, hname⟩, ⟨given, hgiven, hfunction⟩, hpath, hupstream⟩
    rw [gives_iff] at htype hgiven hpath hupstream
    rw [trims_toList_iff] at hname hfunction
    obtain ⟨name, function, path, upstream⟩ := fields
    rw [fieldsOf, ← htype, ← hgiven, ← hname, ← hfunction, ← hpath, ← hupstream]
  · rintro rfl
    exact ⟨⟨_, gives_iff.mpr rfl, trims_toList_iff.mpr rfl⟩,
      ⟨_, gives_iff.mpr rfl, trims_toList_iff.mpr rfl⟩, gives_iff.mpr rfl, gives_iff.mpr rfl⟩

/-- The configuration that fields tell. -/
theorem ofMembers_eq (members : List (String × Value)) :
    ofMembers members =
      match BehaviorKind.ofName? (fieldsOf members).name with
      | none => .error (.unknownKind (fieldsOf members).name)
      | some kind => .ok ⟨kind, (fieldsOf members).function, (fieldsOf members).path,
          if (fieldsOf members).upstream = "" then "upstream"
          else (fieldsOf members).upstream⟩ := by
  have hcluster : ∀ cluster : String, (if cluster.isEmpty then defaultCluster else cluster) =
      if cluster = "" then "upstream" else cluster := fun cluster => by
    simp only [String.isEmpty_iff]
    rfl
  rw [ofMembers, ofMembers_settle, ok_bind, ofRaw]
  dsimp only
  rw [hcluster]
  rfl

/-- The fields depend only on the members with their keys, each key by itself. -/
theorem fieldsOf_eq_of_filter {others : List (String × Value)}
    (h : ∀ key ∈ ["type", "function", "path", "upstream"],
      members.filter (·.1 == key) = others.filter (·.1 == key)) :
    fieldsOf members = fieldsOf others := by
  have hfield : ∀ key ∈ ["type", "function", "path", "upstream"],
      field? members key = field? others key := fun key hkey => by
    rw [field?, field?, Value.last?_eq_of_filter (h key hkey)]
  rw [fieldsOf, fieldsOf, hfield "type" (by decide), hfield "function" (by decide),
    hfield "path" (by decide), hfield "upstream" (by decide)]

/-- The behaviors have four names. -/
theorem ofName?_eq_none_iff {name : String} :
    BehaviorKind.ofName? name = none ↔
      name ∉ ["headerTests", "tickTests", "httpCallTests", "ffiTests"] := by
  rw [Option.eq_none_iff_forall_ne_some]
  simp only [ne_eq, BehaviorKind.ofName?_eq_some_iff]
  constructor
  · intro h hname
    simp only [List.mem_cons, List.not_mem_nil, or_false] at hname
    rcases hname with rfl | rfl | rfl | rfl
    · exact h .requestNumbering rfl
    · exact h .timerControl rfl
    · exact h .callRelay rfl
    · exact h .bodyTransform rfl
  · rintro h kind rfl
    cases kind <;> exact h (by decide)

end

/-! ## Decoding -/

section

variable {bytes : Bytes} {members : List (String × Value)}

/-- Any bytes at all are decoded by the value that is read. -/
theorem parse_of_ne_nil (hbytes : bytes ≠ []) :
    parse (some bytes) =
      match Value.parse bytes with
      | .error error => .error (.unreadable error)
      | .ok (.object members) => (ofMembers members).map some
      | .ok value => .error (.notObject value) := by
  obtain ⟨byte, rest, rfl⟩ := List.exists_cons_of_ne_nil hbytes
  rfl

/-- No text is empty. -/
theorem ne_nil_of_isText {value : Value} (h : IsText bytes value) : bytes ≠ [] := by
  rintro rfl
  obtain hread | ⟨error, herror, hcause⟩ := parse_of_isText h
  · cases hread
  · cases herror
    cases hcause

/-- An object is decoded by its members. -/
theorem parse_of_members (hrange : InRange bytes) (h : IsText bytes (.object members)) :
    parse (some bytes) = (ofMembers members).map some := by
  rw [parse_of_ne_nil (ne_nil_of_isText h), (parse_eq_ok_iff hrange).mpr h]

/-- The members of an object are never refused as malformed. -/
theorem not_isMalformed_of_members {error : ConfigError}
    (h : (ofMembers members).map some = .error error) : ¬ error.IsMalformed := by
  rw [ofMembers_eq] at h
  split at h
  · cases h
    exact id
  · cases h

/-- Only empty bytes hold no configuration. -/
theorem parse_eq_none_iff : parse (some bytes) = .ok none ↔ bytes = [] := by
  refine ⟨fun h => ?_, fun h => by rw [h]; rfl⟩
  by_contra hbytes
  rw [parse_of_ne_nil hbytes] at h
  split at h
  · cases h
  · next members _ =>
    cases hmembers : ofMembers members with
    | error error =>
      rw [hmembers] at h
      cases h
    | ok config =>
      rw [hmembers] at h
      cases h
  · cases h

/-- What is refused as malformed is no text of an object. -/
theorem malformed_iff (hrange : InRange bytes) (hbytes : bytes ≠ []) :
    (∃ error, parse (some bytes) = .error error ∧ error.IsMalformed) ↔
      (∀ value, ¬ IsText bytes value) ∨
        ∃ value, IsText bytes value ∧ ∀ members, value ≠ .object members := by
  simp only [← parse_eq_ok_iff hrange]
  rw [parse_of_ne_nil hbytes]
  cases hread : Value.parse bytes with
  | error error =>
    exact ⟨fun _ => .inl nofun, fun _ => ⟨_, rfl, trivial⟩⟩
  | ok value =>
    cases value with
    | object members =>
      constructor
      · rintro ⟨error, herror, hmalformed⟩
        exact absurd hmalformed (not_isMalformed_of_members herror)
      · rintro (hnone | ⟨value, hvalue, hother⟩)
        · exact absurd rfl (hnone _)
        · cases hvalue
          exact absurd rfl (hother members)
    | _ => exact ⟨fun _ => .inr ⟨_, rfl, nofun⟩, fun _ => ⟨_, rfl, trivial⟩⟩

/-- Decoding a configuration is exact. Only empty bytes hold none. Others are refused as malformed
exactly if they are no JSON text or the text of no object. The members of an object are always read
as fields. They hold one row of them, and these alone tell which name is refused or which
configuration is given. So neither the spelling of a text matters nor the order of its keys nor
what else it holds. -/
theorem decoding_exact (hrange : InRange bytes) :
    (parse (some bytes) = .ok none ↔ bytes = []) ∧
    (bytes ≠ [] →
      ((∃ error, parse (some bytes) = .error error ∧ error.IsMalformed) ↔
        (∀ value, ¬ IsText bytes value) ∨
          ∃ value, IsText bytes value ∧ ∀ members, value ≠ .object members)) ∧
    (∀ members, IsText bytes (.object members) →
      (∃ raw, Raw.ofMembers (Value.settle members) = .ok raw) ∧
      (∃! fields : Fields, fields.AreHeld members) ∧
      ∀ fields : Fields, fields.AreHeld members →
        (parse (some bytes) = .error (.unknownKind fields.name) ↔
          fields.name ∉ ["headerTests", "tickTests", "httpCallTests", "ffiTests"]) ∧
        ∀ kind : BehaviorKind, kind.name = fields.name →
          parse (some bytes) = .ok (some ⟨kind, fields.function, fields.path,
            if fields.upstream = "" then "upstream" else fields.upstream⟩)) ∧
    ∀ (other : Bytes) (members others : List (String × Value)), InRange other →
      IsText bytes (.object members) → IsText other (.object others) →
      (∀ key ∈ ["type", "function", "path", "upstream"],
        members.filter (·.1 == key) = others.filter (·.1 == key)) →
      parse (some bytes) = parse (some other) := by
  refine ⟨parse_eq_none_iff, malformed_iff hrange,
    fun members h => ⟨⟨_, ofMembers_settle members⟩, ?_, fun fields hfields => ?_⟩,
    fun other members others hother h hothers hsame => ?_⟩
  · exact ⟨fieldsOf members, areHeld_iff.mpr rfl, fun _ => areHeld_iff.mp⟩
  · rw [parse_of_members hrange h, ofMembers_eq, ← areHeld_iff.mp hfields]
    refine ⟨?_, fun kind hkind => ?_⟩
    · rw [← ofName?_eq_none_iff]
      cases BehaviorKind.ofName? fields.name with
      | none => exact ⟨fun _ => rfl, fun _ => rfl⟩
      | some kind => exact ⟨nofun, nofun⟩
    · rw [← hkind, BehaviorKind.ofName?_eq_some_iff.mpr rfl]
      rfl
  · rw [parse_of_members hrange h, parse_of_members hother hothers, ofMembers_eq, ofMembers_eq,
      fieldsOf_eq_of_filter hsame]

/-- A small configuration, with a key written twice, a character escaped, white space around the
name of its behavior and no string for the cluster. -/
def sampleText : Bytes :=
  Utf8.encode ("\x7b\"type\":\"bogus\",\"path\":\"\\u002f\"," ++
    "\"type\":\" tickTests \",\"upstream\":null\x7d").toList

/-- The members of the small configuration. -/
def sampleMembers : List (String × Value) :=
  [("type", .string "bogus"), ("path", .string "/"), ("type", .string " tickTests "),
    ("upstream", .null)]

/-- The small configuration is decoded to the behavior that it names last. -/
theorem sample_decoding_exact :
    InRange sampleText ∧
      parse (some sampleText) = .ok (some ⟨.timerControl, "", "/", "upstream"⟩) := by
  have hbytes : sampleText = [123, 34, 116, 121, 112, 101, 34, 58, 34, 98, 111, 103, 117, 115, 34,
    44, 34, 112, 97, 116, 104, 34, 58, 34, 92, 117, 48, 48, 50, 102, 34, 44, 34, 116, 121, 112, 101,
    34, 58, 34, 32, 116, 105, 99, 107, 84, 101, 115, 116, 115, 32, 34, 44, 34, 117, 112, 115, 116,
    114, 101, 97, 109, 34, 58, 110, 117, 108, 108, 125] := by decide
  have hread : Value.parse sampleText = .ok (.object sampleMembers) := by
    rw [hbytes]
    rfl
  have hrange : InRange sampleText := fun error herror => by
    rw [hread] at herror
    cases herror
  have hfields : Fields.AreHeld ⟨"tickTests", "", "/", ""⟩ sampleMembers := by
    rw [areHeld_iff]
    rfl
  have hmembers := (decoding_exact hrange).2.2.1 sampleMembers (isText_of_parse hread)
  exact ⟨hrange, (hmembers.2.2 _ hfields).2 .timerControl rfl⟩

end

end Config

end ProxyFilter
