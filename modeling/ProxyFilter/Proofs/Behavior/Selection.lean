import ProxyFilter.Behavior.BodyTransform
import ProxyFilter.Proofs.Text.Lossy

/-!
# Which function a path names

The path of a request is decoded before it is taken apart. What a path of a function begins with
and what ends the name are ASCII, so they stand in the text where they stand in the bytes: a path
names a function exactly if its bytes do, and the name is the text of the bytes between the two,
however ill-formed these or the rest of the path are.
-/

namespace ProxyFilter.BodyTransform

open Text

/-- Whether the bytes of a path name a function by these bytes: they are some, they stand behind
the fixed beginning, and they go up to a query or to the end. -/
structure Names (path name : Bytes) : Prop where
  /-- The name stands behind the beginning, and nothing or a query behind the name. -/
  split : ∃ query, path = Utf8.encode "/ffiTests/".toList ++ (name ++ query) ∧
    (query = [] ∨ query.head? = some 0x3F)
  /-- The name is not empty. -/
  ne_nil : name ≠ []
  /-- There is no question mark in the name. -/
  not_mem : 0x3F ∉ name

/-- The fixed beginning of a path is ASCII. -/
theorem isAscii_pathStart : ∀ char ∈ pathStart.toList, Utf8.isAscii char = true :=
  List.all_eq_true.mp (by decide)

/-- A path that begins with anything else names no function. -/
theorem exists_of_ofPath? {path : Bytes} {name : String}
    (h : ofPath? (Property.decode path) = some name) :
    ∃ rest, path = Utf8.encode "/ffiTests/".toList ++ rest := by
  unfold ofPath? at h
  dsimp only at h
  split at h
  · next hstart =>
    rw [Property.decode, String.toList_ofList] at hstart
    obtain ⟨tail, htail⟩ := List.isPrefixOf_iff_prefix.mp hstart
    obtain ⟨rest, hpath, -⟩ := (Utf8.lossy_eq_append_iff isAscii_pathStart).mp htail.symm
    exact ⟨rest, hpath⟩
  · cases h

/-- Behind the fixed beginning a path names the text of the bytes up to the first question mark,
unless there are none. -/
theorem ofPath?_decode_append (rest : Bytes) :
    ofPath? (Property.decode (Utf8.encode "/ffiTests/".toList ++ rest)) =
      if rest.takeWhile (· != 0x3F) = [] then none
      else some (Property.decode (rest.takeWhile (· != 0x3F))) := by
  change ofPath? (Property.decode (Utf8.encode pathStart.toList ++ rest)) = _
  have htext : (Property.decode (Utf8.encode pathStart.toList ++ rest)).toList =
      pathStart.toList ++ Utf8.lossy rest := by
    rw [Property.decode, String.toList_ofList, Utf8.lossy_encode_append]
  have hstart : pathStart.toList.isPrefixOf (pathStart.toList ++ Utf8.lossy rest) = true :=
    List.isPrefixOf_iff_prefix.mpr (List.prefix_append _ _)
  have hname : (Utf8.lossy rest).takeWhile (· != '?') =
      Utf8.lossy (rest.takeWhile (· != 0x3F)) :=
    Utf8.takeWhile_lossy rfl rest
  simp only [ofPath?, htext, hstart, if_true, List.drop_left, hname, List.isEmpty_iff,
    Utf8.lossy_eq_nil_iff]
  rfl

/-- A path is taken for a function exactly if its bytes name one, and its name is the text of
those bytes. -/
theorem ofPath?_decode_eq_some_iff {path : Bytes} {name : String} :
    ofPath? (Property.decode path) = some name ↔
      ∃ bytes, Names path bytes ∧ name = Property.decode bytes := by
  constructor
  · intro h
    obtain ⟨rest, rfl⟩ := exists_of_ofPath? h
    rw [ofPath?_decode_append] at h
    split at h
    · cases h
    · next hsome =>
      obtain ⟨hnone, hquery⟩ := cut_at (0x3F : UInt8) rest
      refine ⟨_, ⟨⟨rest.dropWhile (· != 0x3F), ?_, hquery⟩, hsome, hnone⟩,
        (Option.some.inj h).symm⟩
      rw [List.takeWhile_append_dropWhile]
  · rintro ⟨bytes, ⟨⟨query, rfl, hquery⟩, hsome, hnone⟩, rfl⟩
    rw [ofPath?_decode_append, takeWhile_of_cut hnone hquery, if_neg hsome]

/-- A path that names a function leads to the answer with it, and any other path to what is
configured. -/
theorem modeOf_decode (path : Bytes) (function : String) :
    (∀ name, modeOf (Property.decode path) function = .request name ↔
      ∃ bytes, Names path bytes ∧ name = Property.decode bytes) ∧
    ((¬∃ bytes, Names path bytes) → modeOf (Property.decode path) function =
      if function = "" then .passthrough else .response function) := by
  simp only [← ofPath?_decode_eq_some_iff]
  unfold modeOf
  cases hpath : ofPath? (Property.decode path) with
  | some name =>
    obtain ⟨bytes, hnames, -⟩ := ofPath?_decode_eq_some_iff.mp hpath
    refine ⟨fun other => ?_, fun hnone => absurd ⟨bytes, hnames⟩ hnone⟩
    simp only [TransformMode.request.injEq, Option.some.injEq]
  | none =>
    have hother (name : String) : (if function.isEmpty then .passthrough else .response function :
        TransformMode) ≠ .request name := by
      split <;> exact TransformMode.noConfusion
    refine ⟨fun name => ⟨fun h => absurd h (hother name), fun h => by cases h⟩, fun _ => ?_⟩
    simp only [String.isEmpty_iff]

end ProxyFilter.BodyTransform
