import ProxyFilter.Proofs.Config.Decoding

/-!
# All that decoding can come to

Decoding ends in one of five ways, and each is told by what is read and by the fields that the
members of an object hold.
-/

namespace ProxyFilter.Config

open Json Json.Grammar

/-- The configuration of a behavior that fields hold. -/
def Fields.config (fields : Fields) (kind : BehaviorKind) : Config :=
  ⟨kind, fields.function, fields.path, if fields.upstream = "" then "upstream" else fields.upstream⟩

/-- What bytes are decoded to, and what is read for it. -/
inductive Decodes (bytes : Bytes) : Except ConfigError (Option Config) → Prop
  /-- Empty bytes hold no configuration. -/
  | nothing (hbytes : bytes = []) : Decodes bytes (.ok none)
  /-- Other bytes that are no text are refused with their failure. -/
  | unreadable {error : SyntaxError} (hbytes : bytes ≠ [])
      (hread : Value.parse bytes = .error error) : Decodes bytes (.error (.unreadable error))
  /-- What is no object is refused with its value. -/
  | notObject {value : Value} (hread : Value.parse bytes = .ok value)
      (hother : ∀ members, value ≠ .object members) : Decodes bytes (.error (.notObject value))
  /-- An object that names no behavior is refused with the name. -/
  | unknownKind {members : List (String × Value)} {fields : Fields}
      (hread : Value.parse bytes = .ok (.object members)) (hfields : fieldsOf members = fields)
      (hname : BehaviorKind.ofName? fields.name = none) :
    Decodes bytes (.error (.unknownKind fields.name))
  /-- Any other object holds a configuration. -/
  | config {members : List (String × Value)} {fields : Fields} {kind : BehaviorKind}
      (hread : Value.parse bytes = .ok (.object members)) (hfields : fieldsOf members = fields)
      (hkind : BehaviorKind.ofName? fields.name = some kind) :
    Decodes bytes (.ok (some (fields.config kind)))

section

variable {bytes : Bytes} {members : List (String × Value)}
  {result : Except ConfigError (Option Config)}

/-- A name is refused in quotes. -/
theorem message_quote (name : String) :
    (ConfigError.unknownKind name).message =
      "invalid config type: " ++ String.ofList (Text.Quoted.quote name.toList) := rfl

/-- Nothing is cut off where nothing is. -/
theorem trimmed_empty : trimmed "" = "" := by decide

/-- No bytes are read as a value but some. -/
theorem ne_nil_of_read {value : Value} (h : Value.parse bytes = .ok value) : bytes ≠ [] :=
  ne_nil_of_isText (isText_of_parse h)

/-- What is read is the only value that bytes are a text of. -/
theorem eq_of_isText {value other : Value} (hread : Value.parse bytes = .ok value)
    (h : IsText bytes other) : other = value := by
  obtain hother | ⟨error, herror, -⟩ := parse_of_isText h
  · exact Except.ok.inj (hother.symm.trans hread)
  · rw [hread] at herror
    cases herror

/-- An object names no behavior or holds a configuration. -/
theorem decodes_of_members (h : Value.parse bytes = .ok (.object members)) :
    Decodes bytes ((ofMembers members).map some) := by
  rw [ofMembers_eq]
  cases hkind : BehaviorKind.ofName? (fieldsOf members).name with
  | none => exact .unknownKind h rfl hkind
  | some kind => exact .config h rfl hkind

/-- Decoding ends in one of these ways. -/
theorem decodes_parse (bytes : Bytes) : Decodes bytes (parse (some bytes)) := by
  by_cases hbytes : bytes = []
  · rw [parse_eq_none_iff.mpr hbytes]
    exact .nothing hbytes
  · rw [parse_of_ne_nil hbytes]
    cases hread : Value.parse bytes with
    | error error => exact .unreadable hbytes hread
    | ok value =>
      cases value with
      | object members => exact decodes_of_members hread
      | _ => exact .notObject hread nofun

/-- It ends in the way that is told. -/
theorem parse_eq_iff : parse (some bytes) = result ↔ Decodes bytes result := by
  refine ⟨fun h => h ▸ decodes_parse bytes, fun h => ?_⟩
  cases h with
  | nothing hbytes => exact parse_eq_none_iff.mpr hbytes
  | unreadable hbytes hread => rw [parse_of_ne_nil hbytes, hread]
  | @notObject value hread hother =>
    rw [parse_of_ne_nil (ne_nil_of_read hread), hread]
    cases value with
    | object members => exact absurd rfl (hother members)
    | _ => rfl
  | unknownKind hread hfields hname =>
    rw [parse_of_ne_nil (ne_nil_of_read hread), hread]
    dsimp only
    rw [ofMembers_eq, hfields, hname]
    rfl
  | config hread hfields hkind =>
    rw [parse_of_ne_nil (ne_nil_of_read hread), hread]
    dsimp only
    rw [ofMembers_eq, hfields, hkind]
    rfl

end

end ProxyFilter.Config
