import ProxyFilter.Proofs.Config.Outcomes
import ProxyFilter.Proofs.Json.Printing

/-!
# The refusal of a value that is no object tells it

A value that is no object is refused with its canonical text. As long as its numbers are integers
that text is refused in the same words again, so two such values are refused in the same words
exactly if they agree. In no such refusal stands a control character.
-/

namespace ProxyFilter

open Json Json.Grammar Text

namespace ConfigError

/-- The wording in front of a value that is no object. -/
def notObjectWording : String :=
  "invalid configuration format; expected a json object: " ++ "top-level value is not an object: "

/-- What stands behind the wording stands behind its second part. -/
theorem wording_append (text : String) :
    notObjectWording ++ text = "invalid configuration format; expected a json object: " ++
      ("top-level value is not an object: " ++ text) :=
  String.append_assoc

/-- The canonical text of a value that is no object stands behind the wording. -/
theorem message_notObject (value : Value) :
    (notObject value).message = notObjectWording ++ String.ofList value.echo :=
  String.append_assoc.symm

/-- No reason why a text is unreadable begins like the wording for a value that is no object: those
with the same first letter go on with another one. -/
theorem message_ne_notObject (error : SyntaxError) (text : String) :
    error.message ≠ "top-level value is not an object: " ++ text := by
  intro h
  have hcause : ∀ cause : Cause, 2 ≤ cause.text.toList.length ∧
      cause.text.toList.take 2 ≠ ['t', 'o'] := fun cause => by
    cases cause <;> decide
  have hmessage : error.message = error.cause.text ++ (" at line " ++ (toString error.line ++
      (" column " ++ toString error.column))) := by
    simp only [SyntaxError.message, String.append_assoc]
    rfl
  obtain ⟨hlength, hother⟩ := hcause error.cause
  rw [hmessage] at h
  have hchars := congrArg (fun message : String => message.toList.take 2) h
  simp only [String.toList_append] at hchars
  rw [List.take_append_of_le_length hlength, List.take_append_of_le_length (by decide)] at hchars
  exact hother hchars

/-- Only a value that is no object is refused with that wording. -/
theorem notObject_of_message {error : ConfigError} {text : String}
    (h : error.message = notObjectWording ++ text) :
    ∃ value, error = .notObject value ∧ text = String.ofList value.echo := by
  cases error with
  | unreadable error =>
    have hsplit : (unreadable error).message =
        "invalid configuration format; expected a json object: " ++ error.message := rfl
    rw [hsplit, wording_append] at h
    have hreason := (String.append_right_inj _).mp h
    exact absurd hreason (message_ne_notObject error text)
  | notObject value =>
    rw [message_notObject] at h
    exact ⟨value, rfl, (String.append_right_inj _).mp h.symm⟩
  | repeatedField name =>
    have hsplit : (repeatedField name).message =
        "invalid configuration format; expected a json object: " ++
          ("duplicate field `" ++ (name ++ "`")) := by
      rw [← @String.append_assoc "duplicate field `"]
      rfl
    rw [hsplit, wording_append] at h
    have hreason := (String.append_right_inj _).mp h
    have hchars := congrArg (fun reason : String => reason.toList.take 1) hreason
    simp only [String.toList_append] at hchars
    rw [List.take_append_of_le_length (by decide), List.take_append_of_le_length (by decide)]
      at hchars
    exact absurd hchars (by decide)
  | unknownKind name =>
    rw [Config.message_quote, wording_append] at h
    have hchars := congrArg (fun message : String => message.toList.take 15) h
    simp only [String.toList_append] at hchars
    rw [List.take_append_of_le_length (by decide), List.take_append_of_le_length (by decide)]
      at hchars
    exact absurd hchars (by decide)

/-- No refusal of a value that is no object has a control character. -/
theorem isShown_notObject (value : Value) : IsShown (notObject value).message.toList := by
  rw [message_notObject, wording_append]
  simp only [String.toList_append, String.toList_ofList, isShown_append]
  exact ⟨by decide, by decide, isShown_compact value.canonical⟩

end ConfigError

namespace Config

/-- Bytes that are refused with a text behind the wording for a value that is no object, and whose
numbers are integers of 64 bits. -/
structure IsEchoed (bytes : Bytes) (error : ConfigError) (value : Value) (text : String) :
    Prop where
  /-- The bytes are refused. -/
  refused : parse (some bytes) = .error error
  /-- The text stands behind the wording. -/
  message : error.message = ConfigError.notObjectWording ++ text
  /-- The bytes are a text of the value, with integers only. -/
  integers : IsTextOf Literal.IsInteger bytes value

section

variable {bytes : Bytes} {error : ConfigError} {value otherValue : Value} {text : String}

/-- A text with integers only is read, and its value fits. -/
theorem read_of_integers (h : IsTextOf Literal.IsInteger bytes value) :
    Value.parse bytes = .ok value ∧ Fits depthLimit value := by
  refine ⟨parse_eq_ok_iff_isTextOf.mpr (h.imp fun _ _ => IsValueOf.imp fun _ =>
    isKept_of_isInteger), ?_⟩
  cases h with
  | between _ hvalue _ => exact fits_of_isValueOf hvalue

/-- What is echoed is the value that is read, and it is no object. -/
theorem IsEchoed.eq_notObject (h : IsEchoed bytes error value text) :
    error = .notObject value ∧ text = String.ofList value.echo ∧
      ∀ members, value ≠ .object members := by
  obtain ⟨given, rfl, htext⟩ := ConfigError.notObject_of_message h.message
  have hdecodes := parse_eq_iff.mp h.refused
  cases hdecodes with
  | notObject hread hother =>
    rw [(read_of_integers h.integers).1] at hread
    cases hread
    exact ⟨rfl, htext, hother⟩

/-- Only objects have the canonical form of an object. -/
theorem not_object_of_canonical (h : ∀ members, value ≠ .object members) :
    ∀ members, value.canonical ≠ .object members := by
  cases value with
  | object members => exact absurd rfl (h members)
  | _ => exact nofun

/-- Values that fit have one canonical text exactly if they agree. -/
theorem echo_eq_iff (h : Fits depthLimit value) (hother : Fits depthLimit otherValue) :
    value.echo = otherValue.echo ↔ value.Agrees otherValue := by
  rw [Value.echo, Value.echo, compact_inj h.canonical hother.canonical, Value.canonical_eq_iff]

/-- The echo of a value that is no object is faithful. Its own bytes are refused in the very same
words, another value is refused in these words exactly if it agrees with this one, and none of
their characters is a control character. -/
theorem echo_faithful (h : IsEchoed bytes error value text) :
    (∃ again, parse (some (Utf8.encode text.toList)) = .error again ∧
      again.message = error.message) ∧
    (∀ (other : Bytes) (otherError : ConfigError) (otherValue : Value) (otherText : String),
      IsEchoed other otherError otherValue otherText →
        (error.message = otherError.message ↔ value.Agrees otherValue)) ∧
    ∀ char ∈ error.message.toList, 0x20 ≤ char.toNat := by
  obtain ⟨rfl, rfl, hvalue⟩ := h.eq_notObject
  have hfits := (read_of_integers h.integers).2
  refine ⟨⟨.notObject value.canonical, ?_, ?_⟩, ?_, ConfigError.isShown_notObject value⟩
  · rw [String.toList_ofList, parse_eq_iff]
    exact .notObject (parse_compact hfits.canonical) (not_object_of_canonical hvalue)
  · rw [ConfigError.message_notObject, ConfigError.message_notObject, Value.echo,
      Value.canonical_canonical, ← Value.echo]
  · intro other otherError otherValue otherText hother
    have hotherFits := (read_of_integers hother.integers).2
    obtain ⟨rfl, -, -⟩ := hother.eq_notObject
    rw [← echo_eq_iff hfits hotherFits, ConfigError.message_notObject,
      ConfigError.message_notObject, String.append_right_inj, String.ofList_inj]

/-- A list with a number below zero, an escaped line feed and keys that do not ascend. -/
def tangledText : Bytes :=
  Utf8.encode "[-5,\"\\n\",\x7b\"b\":1,\"a\":[],\"b\":null\x7d]".toList

/-- The value of that list. -/
def tangledValue : Value :=
  .array [.number (.integer (-5)), .string "\n",
    .object [("b", .number (.integer 1)), ("a", .array []), ("b", .null)]]

/-- Its echo is refused in the same words. -/
theorem tangledText_echo_faithful :
    IsEchoed tangledText (.notObject tangledValue) tangledValue
      "[-5,\"\\n\",\x7b\"a\":[],\"b\":null\x7d]" ∧
    ∃ again, parse (some (Utf8.encode "[-5,\"\\n\",\x7b\"a\":[],\"b\":null\x7d]".toList)) =
        .error again ∧ again.message = (ConfigError.notObject tangledValue).message := by
  have hfits : Fits depthLimit tangledValue := by
    refine .array ?_
    simp only [List.forall_mem_cons]
    refine ⟨.integer ⟨by decide, by decide⟩, .string "\n", .object ?_, nofun⟩
    simp only [List.forall_mem_cons]
    exact ⟨.integer ⟨by decide, by decide⟩, .array nofun, .null, nofun⟩
  have hbytes : tangledText = Utf8.encode tangledValue.compact := by decide
  have hecho : tangledValue.echo = "[-5,\"\\n\",\x7b\"a\":[],\"b\":null\x7d]".toList := by
    decide
  have hintegers : IsTextOf Literal.IsInteger tangledText tangledValue := by
    rw [hbytes]
    exact .bare (isValueOf_compact hfits)
  have hechoed : IsEchoed tangledText (.notObject tangledValue) tangledValue
      "[-5,\"\\n\",\x7b\"a\":[],\"b\":null\x7d]" := by
    refine ⟨parse_eq_iff.mpr (.notObject (read_of_integers hintegers).1 nofun), ?_, hintegers⟩
    rw [ConfigError.message_notObject, hecho, String.ofList_toList]
  exact ⟨hechoed, (echo_faithful hechoed).1⟩

end

end Config

end ProxyFilter
