import ProxyFilter.Proofs.Config.Outcomes
import ProxyFilter.Proofs.Text.Quoted

/-!
# The refusal of a name tells it and stays on its line

An object that names no behavior is refused with the name in quotes. Two such objects are refused
in the same words exactly if their types are the same without the white space around them. The
closing quote is the only one that no backslash guards, and whatever the name is, it breaks no
line.
-/

namespace ProxyFilter.Config

open Json Json.Grammar Text

/-- Bytes of an object that names no behavior, with the text that its type gives. -/
structure IsUnknown (bytes : Bytes) (error : ConfigError) (type : String) : Prop where
  /-- The bytes are refused. -/
  refused : parse (some bytes) = .error error
  /-- They are refused for a name. -/
  unknown : ∃ name, error = .unknownKind name
  /-- They are an object, and its type is given. -/
  type : ∃ members, IsText bytes (.object members) ∧ Gives members "type" type

section

variable {bytes : Bytes} {error : ConfigError} {type : String}

/-- What is refused is the name without the white space around it. -/
theorem IsUnknown.trims (h : IsUnknown bytes error type) :
    ∃ name, error = .unknownKind name ∧ Trims type.toList name.toList := by
  obtain ⟨name, rfl⟩ := h.unknown
  obtain ⟨members, htext, htype⟩ := h.type
  have hdecodes := parse_eq_iff.mp h.refused
  cases hdecodes with
  | unknownKind hread hfields _ =>
    cases eq_of_isText hread htext
    cases hfields
    rw [gives_iff] at htype
    exact ⟨_, rfl, trims_toList_iff.mpr (congrArg trimmed htype.symm)⟩

/-- Names are refused in the same words only if they are one. -/
theorem message_unknownKind_inj {name otherName : String} :
    (ConfigError.unknownKind name).message = (ConfigError.unknownKind otherName).message ↔
      name = otherName := by
  rw [message_quote, message_quote, String.append_right_inj, String.ofList_inj, Quoted.quote_inj,
    String.toList_inj]

/-- The refusal of a name holds it between quotes. -/
theorem message_unknownKind (name : String) :
    (ConfigError.unknownKind name).message =
      "invalid config type: \"" ++ String.ofList (name.toList.flatMap Quoted.escape) ++ "\"" := by
  have hopening : "invalid config type: \"".toList = "invalid config type: ".toList ++ ['"'] := by
    decide
  have hclosing : "\"".toList = ['"'] := by decide
  rw [message_quote, ← String.toList_inj]
  simp only [String.toList_append, String.toList_ofList, hopening, hclosing, List.append_assoc]
  rfl

/-- An object that holds only a type is refused for it, unless it names a behavior. -/
theorem isUnknown_of_read (hread : Value.parse bytes = .ok (.object [("type", .string type)]))
    (hnone : BehaviorKind.ofName? (trimmed type) = none) :
    IsUnknown bytes (.unknownKind (trimmed type)) type := by
  have hfields : fieldsOf [("type", .string type)] = ⟨trimmed type, "", "", ""⟩ := by
    simp [fieldsOf, field?, Value.last?, Value.text?, trimmed_empty]
  have hgives : type = (field? [("type", .string type)] "type").getD "" := by
    simp [field?, Value.last?, Value.text?]
  exact ⟨parse_eq_iff.mpr (.unknownKind hread hfields hnone), ⟨_, rfl⟩, _, isText_of_parse hread,
    gives_iff.mpr hgives⟩

/-- The refusal of a name tells it apart and breaks no line. Two objects that name no behavior are
refused in the same words exactly if the same is left of their types without the white space around
them. Between the quotes of such a refusal no quote is unguarded, and no control character or
separator stands there, whatever the name is. -/
theorem unknown_told (h : IsUnknown bytes error type) :
    (∀ (other : Bytes) (otherError : ConfigError) (otherType : String),
      IsUnknown other otherError otherType →
        (error.message = otherError.message ↔
          ∃ core, Trims type.toList core ∧ Trims otherType.toList core)) ∧
    ∀ name : String, ∃ inside : List Char,
      (ConfigError.unknownKind name).message =
        "invalid config type: \"" ++ String.ofList inside ++ "\"" ∧
      Quoted.Guarded inside ∧ ∀ char ∈ inside, ¬ Quoted.Breaks char := by
  refine ⟨fun other otherError otherType hother => ?_, fun name =>
    ⟨_, message_unknownKind name, Quoted.inside_guarded name.toList⟩⟩
  obtain ⟨name, rfl, hname⟩ := h.trims
  obtain ⟨otherName, rfl, hotherName⟩ := hother.trims
  rw [message_unknownKind_inj]
  constructor
  · rintro rfl
    exact ⟨_, hname, hotherName⟩
  · rintro ⟨core, hcore, hotherCore⟩
    rw [← String.toList_inj, hname.eq_trim, hotherName.eq_trim, ← hcore.eq_trim,
      ← hotherCore.eq_trim]

/-- A type with white space around it and a line feed inside it. -/
def brokenText : Bytes := Utf8.encode "\x7b\"type\":\" a\\nb \"\x7d".toList

/-- A type that imitates the escape of a line feed. -/
def imitatedText : Bytes := Utf8.encode "\x7b\"type\":\"a\\\\nb\"\x7d".toList

/-- The two are refused in different words. -/
theorem brokenText_unknown_told :
    IsUnknown brokenText (.unknownKind "a\nb") " a\nb " ∧
      IsUnknown imitatedText (.unknownKind "a\\nb") "a\\nb" ∧
      (ConfigError.unknownKind "a\nb").message ≠ (ConfigError.unknownKind "a\\nb").message := by
  have hbroken : Value.parse brokenText = .ok (.object [("type", .string " a\nb ")]) := by
    have hbytes : brokenText = [123, 34, 116, 121, 112, 101, 34, 58, 34, 32, 97, 92, 110, 98, 32,
      34, 125] := by decide
    rw [hbytes]
    rfl
  have himitated : Value.parse imitatedText = .ok (.object [("type", .string "a\\nb")]) := by
    have hbytes : imitatedText = [123, 34, 116, 121, 112, 101, 34, 58, 34, 97, 92, 92, 110, 98, 34,
      125] := by decide
    rw [hbytes]
    rfl
  have hbroken := isUnknown_of_read hbroken (by decide)
  have himitated := isUnknown_of_read himitated (by decide)
  have htrimmed : trimmed " a\nb " = "a\nb" ∧ trimmed "a\\nb" = "a\\nb" := by decide
  rw [htrimmed.1] at hbroken
  rw [htrimmed.2] at himitated
  refine ⟨hbroken, himitated, fun hmessage => ?_⟩
  obtain ⟨core, hcore, hother⟩ := ((unknown_told hbroken).1 _ _ _ himitated).mp hmessage
  have hsame := hcore.eq_trim.symm.trans hother.eq_trim
  exact absurd hsame (by decide)

end

end ProxyFilter.Config
