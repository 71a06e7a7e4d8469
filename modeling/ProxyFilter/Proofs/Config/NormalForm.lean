import ProxyFilter.Proofs.Config.Outcomes
import ProxyFilter.Proofs.Json.Printing

/-!
# Decoded configurations are in normal form

The object of the four fields of a decoded configuration is decoded to that configuration again.
Trimming has nothing left to cut and no cluster is missing, and every text that a path may be is
read back as it was.
-/

namespace ProxyFilter.Config

open Json Json.Grammar Text

/-- The members that hold the four fields. -/
def members (config : Config) : List (String × Value) :=
  [("function", .string config.function), ("path", .string config.path),
    ("type", .string config.kind.name), ("upstream", .string config.cluster)]

/-- The object of the four fields as it is written. -/
def written (config : Config) : Bytes := Utf8.encode (Value.compact (.object config.members))

/-- Nothing is left to be cut off or filled in. -/
structure IsNormal (config : Config) : Prop where
  /-- The function does not begin with white space. -/
  first : ∀ char ∈ config.function.toList.head?, ¬ IsWhiteSpace char
  /-- The function does not end with white space. -/
  last : ∀ char ∈ config.function.toList.getLast?, ¬ IsWhiteSpace char
  /-- A cluster is named. -/
  cluster : config.cluster ≠ ""

section

variable {config : Config} {bytes : Bytes}

/-- A text without white space at its ends is not trimmed. -/
theorem trimmed_eq_self {text : String} (hfirst : ∀ char ∈ text.toList.head?, ¬ IsWhiteSpace char)
    (hlast : ∀ char ∈ text.toList.getLast?, ¬ IsWhiteSpace char) : trimmed text = text := by
  have haround : ∃ before after, text.toList = before ++ (text.toList ++ after) ∧
      (∀ char ∈ before, IsWhiteSpace char) ∧ ∀ char ∈ after, IsWhiteSpace char :=
    ⟨[], [], (List.append_nil _).symm, nofun, nofun⟩
  exact (trims_toList_iff.mp ⟨haround, hfirst, hlast⟩).symm

/-- The names of the behaviors are not trimmed. -/
theorem trimmed_name (kind : BehaviorKind) : trimmed kind.name = kind.name := by
  cases kind <;> decide

/-- The fields of a configuration in normal form are read as they are. -/
theorem fieldsOf_members (h : config.IsNormal) :
    fieldsOf config.members =
      ⟨config.kind.name, config.function, config.path, config.cluster⟩ := by
  simp [members, fieldsOf, field?, Value.last?, Value.text?, trimmed_name,
    trimmed_eq_self h.first h.last]

/-- A configuration in normal form is decoded from its own object. -/
theorem parse_written (h : config.IsNormal) : parse (some config.written) = .ok (some config) := by
  have hfits : Fits depthLimit (.object config.members) :=
    .object (by simp [members, Fits.string])
  have hdecodes := Decodes.config (parse_compact hfits) (fieldsOf_members h)
    (BehaviorKind.ofName?_eq_some_iff.mpr rfl)
  rw [Fields.config, if_neg h.cluster] at hdecodes
  exact parse_eq_iff.mpr hdecodes

/-- Every configuration that is decoded is in normal form. -/
theorem isNormal_of_parse (h : parse (some bytes) = .ok (some config)) : config.IsNormal := by
  have hdecodes := decodes_parse bytes
  rw [h] at hdecodes
  cases hdecodes with
  | @config members _ kind _ hfields _ =>
    cases hfields
    have htrims : Trims ((field? members "function").getD "").toList
        (fieldsOf members).function.toList := trims_toList_iff.mpr rfl
    refine ⟨htrims.first, htrims.last, ?_⟩
    change (if (fieldsOf members).upstream = "" then "upstream" else _) ≠ ""
    split
    · decide
    · next hnamed => exact hnamed

/-- A decoded configuration is decoded from its own object again, with any other path as well. So
the function has no white space at its ends, a cluster is named, and paths are kept to the
character. -/
theorem parse_written_of_parse (h : parse (some bytes) = .ok (some config)) :
    parse (some config.written) = .ok (some config) ∧
      ((∀ char ∈ config.function.toList.head?, ¬ IsWhiteSpace char) ∧
        ∀ char ∈ config.function.toList.getLast?, ¬ IsWhiteSpace char) ∧
      config.cluster ≠ "" ∧
      ∀ path : String,
        parse (some (written { config with path := path })) =
          .ok (some { config with path := path }) := by
  have hnormal := isNormal_of_parse h
  exact ⟨parse_written hnormal, ⟨hnormal.first, hnormal.last⟩, hnormal.cluster, fun path =>
    parse_written ⟨hnormal.first, hnormal.last, hnormal.cluster⟩⟩

/-- A configuration with white space around its function, an escaped control character in its
path and no cluster. -/
def looseText : Bytes :=
  Utf8.encode ("\x7b\"type\":\"ffiTests\",\"function\":\" f \",\"path\":\"\\u0001\"\x7d").toList

/-- It is decoded from its own object again, in which nothing is loose. -/
theorem looseText_parse_written :
    parse (some looseText) = .ok (some ⟨.bodyTransform, "f", "\x01", "upstream"⟩) ∧
      parse (some (written ⟨.bodyTransform, "f", "\x01", "upstream"⟩)) =
        .ok (some ⟨.bodyTransform, "f", "\x01", "upstream"⟩) := by
  have hbytes : looseText = [123, 34, 116, 121, 112, 101, 34, 58, 34, 102, 102, 105, 84, 101, 115,
    116, 115, 34, 44, 34, 102, 117, 110, 99, 116, 105, 111, 110, 34, 58, 34, 32, 102, 32, 34, 44,
    34, 112, 97, 116, 104, 34, 58, 34, 92, 117, 48, 48, 48, 49, 34, 125] := by decide
  have hread : Value.parse looseText = .ok (.object [("type", .string "ffiTests"),
      ("function", .string " f "), ("path", .string "\x01")]) := by
    rw [hbytes]
    rfl
  have hparse : parse (some looseText) =
      .ok (some ⟨.bodyTransform, "f", "\x01", "upstream"⟩) := by
    have hfields : fieldsOf [("type", .string "ffiTests"), ("function", .string " f "),
        ("path", .string "\x01")] = ⟨"ffiTests", "f", "\x01", ""⟩ := rfl
    exact parse_eq_iff.mpr (.config hread hfields (BehaviorKind.ofName?_eq_some_iff.mpr rfl))
  exact ⟨hparse, (parse_written_of_parse hparse).1⟩

end

end ProxyFilter.Config
