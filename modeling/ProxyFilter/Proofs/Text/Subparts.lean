import ProxyFilter.Proofs.Text.Lossy

/-!
# Which bytes are replaced in lossy text

Where no character begins, the longest beginning of a character is one ill-formed piece, and a
single byte is one where there is no such beginning. This says what is to be replaced without
saying how bytes are read. The machine reads just so: it stands inside an opened character exactly
behind bytes that some character begins with.
-/

namespace ProxyFilter.Text.Utf8

/-- Whether bytes are a character that is cut off: some of its first bytes, but not all. -/
def IsCut (piece : Bytes) : Prop :=
  piece ≠ [] ∧ ∃ char tail, tail ≠ [] ∧ encode [char] = piece ++ tail

/-- Whether bytes begin with a maximal ill-formed piece, with the rest behind it. -/
structure IllFormed (piece rest : Bytes) : Prop where
  /-- No character begins here. -/
  not_char : ∀ char, ¬encode [char] <+: piece ++ rest
  /-- The piece is a character that is cut off, or a single byte. -/
  shape : IsCut piece ∨ ∃ byte, piece = [byte]
  /-- No longer piece is a character that is cut off. -/
  longest : ∀ cut, IsCut cut → cut <+: piece ++ rest → cut.length ≤ piece.length

/-- The text of bytes: every character that they have, and one replacement for every maximal
ill-formed piece. -/
inductive Reads : Bytes → List Char → Prop where
  /-- There are no bytes. -/
  | nil : Reads [] []
  /-- A character begins here. -/
  | char (char : Char) (rest : Bytes) (text : List Char) (hrest : Reads rest text) :
    Reads (encode [char] ++ rest) (char :: text)
  /-- A maximal ill-formed piece begins here. -/
  | piece (piece rest : Bytes) (text : List Char) (hpiece : IllFormed piece rest)
      (hrest : Reads rest text) :
    Reads (piece ++ rest) (replacement :: text)

/-- What is reported of the first bytes, and the position behind them. -/
def walk : Option Opened → Bytes → List (Option Char) × Option Opened
  | position, [] => ([], position)
  | position, byte :: rest =>
    let more := walk (step position byte).2 rest
    ((step position byte).1 ++ more.1, more.2)

section

variable {position : Option Opened} {opened : Opened} {byte : UInt8} {piece rest : Bytes}

/-- Reading goes on from the position behind the first bytes. -/
theorem scan_append_walk (position : Option Opened) (first rest : Bytes) :
    scan position (first ++ rest) =
      (walk position first).1 ++ scan (walk position first).2 rest := by
  induction first generalizing position with
  | nil => rfl
  | cons byte first ih => rw [List.cons_append, scan_cons, ih, walk, List.append_assoc]

/-- A walk over two parts is one over the first part, and then one over the second. -/
theorem walk_append (position : Option Opened) (first rest : Bytes) :
    walk position (first ++ rest) =
      ((walk position first).1 ++ (walk (walk position first).2 rest).1,
        (walk (walk position first).2 rest).2) := by
  induction first generalizing position with
  | nil => rfl
  | cons byte first ih => simp only [List.cons_append, walk, ih, List.append_assoc]

/-- Bytes that are reported as one character are those of it. -/
theorem eq_encode_of_scan {bytes : Bytes} {char : Char} (h : scan none bytes = [some char]) :
    bytes = encode [char] := by
  obtain ⟨text, rfl⟩ := exists_encode bytes (by simp [h])
  have hself := scan_encode text []
  rw [List.append_nil, h, scan, List.append_nil] at hself
  have htext : [char].map some = text.map some := hself
  rw [(List.map_inj_right fun _ _ => Option.some.inj).mp htext]

/-- There are bytes that continue a character. -/
theorem low_le_high : (0x80 : UInt8) ≤ 0xBF := by decide

/-- What a first byte opens goes on with some byte. -/
theorem low_le_high_of_lead (h : lead byte = .opens opened) : opened.low ≤ opened.high := by
  unfold lead at h
  dsimp only at h
  repeat' split at h
  all_goals cases h <;> dsimp only <;> decide

/-- Behind a byte that reports nothing a character is opened, which goes on with some byte. -/
theorem opened_of_step (h : (step position byte).1 = []) :
    ∃ opened, (step position byte).2 = some opened ∧ opened.low ≤ opened.high := by
  cases position with
  | none =>
    simp only [step, start] at h ⊢
    split at h
    · cases h
    · next opened hlead => exact ⟨opened, rfl, low_le_high_of_lead hlead⟩
    · cases h
  | some opened =>
    obtain ⟨further, low, high, bits⟩ := opened
    by_cases hrange : low ≤ byte ∧ byte ≤ high
    · simp only [step, if_pos hrange] at h ⊢
      cases further with
      | zero => cases h
      | succ further => exact ⟨_, rfl, low_le_high⟩
    · rw [step_of_off hrange] at h
      cases h

/-- So it is behind some bytes that report nothing. -/
theorem opened_of_walk (hpiece : piece ≠ []) (h : (walk position piece).1 = []) :
    ∃ opened, (walk position piece).2 = some opened ∧ opened.low ≤ opened.high := by
  induction piece generalizing position with
  | nil => exact absurd rfl hpiece
  | cons byte rest ih =>
    obtain ⟨hstep, hmore⟩ := List.append_eq_nil_iff.mp h
    cases rest with
    | nil => exact opened_of_step hstep
    | cons next rest => exact ih (List.cons_ne_nil _ _) hmore

/-- An opened character that goes on with some byte can be completed. -/
theorem exists_completion (h : opened.low ≤ opened.high) :
    ∃ tail char, tail ≠ [] ∧ scan (some opened) tail = [some char] := by
  obtain ⟨further, low, high, bits⟩ := opened
  induction further generalizing low high bits with
  | zero =>
    exact ⟨[low], Char.ofNat (bits * 64 + (low.toNat - 0x80)), List.cons_ne_nil _ _,
      scan_last (Nat.le_refl _) (UInt8.le_iff_toNat_le.mp h) []⟩
  | succ further ih =>
    obtain ⟨tail, char, -, htail⟩ := ih 0x80 0xBF (bits * 64 + (low.toNat - 0x80)) low_le_high
    refine ⟨low :: tail, char, List.cons_ne_nil _ _, ?_⟩
    rw [scan_more (Nat.le_refl _) (UInt8.le_iff_toNat_le.mp h), htail]

/-- Something is reported of some bytes, wherever they are read from. -/
theorem scan_ne_nil (position : Option Opened) (h : rest ≠ []) : scan position rest ≠ [] := by
  cases position with
  | none => exact fun hnone => h (scan_eq_nil_iff.mp hnone)
  | some opened => exact scan_some_ne_nil opened rest

/-- A character that is cut off is one of which nothing is reported yet. -/
theorem isCut_iff : IsCut piece ↔ piece ≠ [] ∧ (walk none piece).1 = [] := by
  constructor
  · rintro ⟨hpiece, char, tail, htail, hchar⟩
    refine ⟨hpiece, ?_⟩
    have hscan : scan none (encode [char] ++ []) = [some char] := scan_encode [char] []
    rw [List.append_nil, hchar, scan_append_walk] at hscan
    rcases List.append_eq_singleton_iff.mp hscan with ⟨hreport, -⟩ | ⟨-, hnone⟩
    · exact hreport
    · exact absurd hnone (scan_ne_nil _ htail)
  · rintro ⟨hpiece, hreport⟩
    obtain ⟨opened, hopened, hrange⟩ := opened_of_walk hpiece hreport
    obtain ⟨tail, char, htail, hscan⟩ := exists_completion hrange
    refine ⟨hpiece, char, tail, htail, (eq_encode_of_scan ?_).symm⟩
    rw [scan_append_walk, hreport, hopened, List.nil_append, hscan]

/-- The byte behind a maximal ill-formed piece does not continue the character that is opened. -/
theorem IllFormed.off (h : IllFormed piece (byte :: rest)) (hreport : (walk none piece).1 = [])
    (hopened : (walk none piece).2 = some opened) :
    ¬(opened.low ≤ byte ∧ byte ≤ opened.high) := by
  intro hrange
  have hbegin : piece ++ [byte] <+: piece ++ byte :: rest :=
    ⟨rest, by rw [List.append_assoc, List.singleton_append]⟩
  obtain ⟨further, low, high, bits⟩ := opened
  cases further with
  | zero =>
    have hchar : piece ++ [byte] = encode [Char.ofNat (bits * 64 + (byte.toNat - 0x80))] := by
      apply eq_encode_of_scan
      rw [scan_append_walk, hreport, hopened, List.nil_append]
      exact scan_last (UInt8.le_iff_toNat_le.mp hrange.1) (UInt8.le_iff_toNat_le.mp hrange.2) []
    exact h.not_char _ (hchar ▸ hbegin)
  | succ further =>
    have hcut : IsCut (piece ++ [byte]) := by
      refine isCut_iff.mpr ⟨List.append_ne_nil_of_right_ne_nil _ (List.cons_ne_nil _ _), ?_⟩
      rw [walk_append, hreport, hopened]
      simp only [walk, step, if_pos hrange, List.append_nil]
    have hlength := h.longest _ hcut hbegin
    rw [List.length_append, List.length_singleton] at hlength
    exact absurd hlength (Nat.not_succ_le_self _)

/-- A maximal ill-formed piece is reported as one, and what is behind it is read by itself. -/
theorem IllFormed.scan_eq (h : IllFormed piece rest) :
    scan none (piece ++ rest) = none :: scan none rest := by
  by_cases hcut : IsCut piece
  · obtain ⟨hpiece, hreport⟩ := isCut_iff.mp hcut
    obtain ⟨opened, hopened, -⟩ := opened_of_walk hpiece hreport
    rw [scan_append_walk, hreport, hopened, List.nil_append]
    cases rest with
    | nil => rfl
    | cons byte rest =>
      rw [scan_cons, scan_cons, step_of_off (h.off hreport hopened)]
      rfl
  · obtain ⟨byte, rfl⟩ := h.shape.resolve_left hcut
    cases hlead : lead byte with
    | single char =>
      have hchar : [byte] = encode [char] := eq_encode_of_scan (scan_single hlead [])
      exact absurd ⟨rest, congrArg (· ++ rest) hchar.symm⟩ (h.not_char char)
    | opens opened =>
      refine absurd (isCut_iff.mpr ⟨List.cons_ne_nil _ _, ?_⟩) hcut
      simp only [walk, step, start, hlead, List.append_nil]
    | stray =>
      rw [List.singleton_append, scan_cons]
      simp only [step, start, hlead]
      rfl

/-- If some beginning of bytes is a character that is cut off, there is a longest one. -/
theorem exists_longest {bytes : Bytes} (hcut : IsCut piece) (hbegin : piece <+: bytes) :
    ∃ longest, IsCut longest ∧ longest <+: bytes ∧
      ∀ cut, IsCut cut → cut <+: bytes → cut.length ≤ longest.length := by
  induction hleft : bytes.length - piece.length using Nat.strongRecOn generalizing piece with
  | ind left ih =>
    by_cases hmore : ∃ longer, IsCut longer ∧ longer <+: bytes ∧ piece.length < longer.length
    · obtain ⟨longer, hlonger, hbegins, hlength⟩ := hmore
      have hbound := hbegins.length_le
      exact ih (bytes.length - longer.length) (by omega) hlonger hbegins rfl
    · exact ⟨piece, hcut, hbegin, fun cut hother hbegins =>
        Nat.le_of_not_lt fun hlength => hmore ⟨cut, hother, hbegins, hlength⟩⟩

/-- Bytes that no character begins with begin with a maximal ill-formed piece. -/
theorem exists_illFormed {bytes : Bytes} (hbytes : bytes ≠ [])
    (hnone : ∀ char, ¬encode [char] <+: bytes) :
    ∃ piece rest, piece ≠ [] ∧ bytes = piece ++ rest ∧ IllFormed piece rest := by
  by_cases hany : ∃ piece, IsCut piece ∧ piece <+: bytes
  · obtain ⟨piece, hcut, hbegin⟩ := hany
    obtain ⟨longest, hlongest, ⟨rest, rfl⟩, hmost⟩ := exists_longest hcut hbegin
    exact ⟨longest, rest, hlongest.1, rfl, hnone, .inl hlongest, hmost⟩
  · obtain ⟨byte, rest, rfl⟩ := List.exists_cons_of_ne_nil hbytes
    exact ⟨[byte], rest, List.cons_ne_nil _ _, rfl, hnone, .inr ⟨byte, rfl⟩,
      fun cut hcut hbegin => absurd ⟨cut, hcut, hbegin⟩ hany⟩

/-- Every text of bytes is the lossy one. -/
theorem Reads.eq_lossy {bytes : Bytes} {text : List Char} (h : Reads bytes text) :
    text = lossy bytes := by
  induction h with
  | nil => rfl
  | char char rest text hrest ih =>
    rw [lossy_encode_append, ih]
    rfl
  | piece piece rest text hpiece hrest ih =>
    rw [ih, lossy, lossy, pieces, pieces, hpiece.scan_eq]
    rfl

/-- Bytes have their lossy text as a text. -/
theorem reads_lossy (bytes : Bytes) : Reads bytes (lossy bytes) := by
  induction hlength : bytes.length using Nat.strongRecOn generalizing bytes with
  | ind length ih =>
    by_cases hbytes : bytes = []
    · rw [hbytes]
      exact .nil
    by_cases hchar : ∃ char, encode [char] <+: bytes
    · obtain ⟨char, rest, rfl⟩ := hchar
      obtain ⟨first, more, hfirst, -⟩ := encode_singleton char
      rw [hfirst, List.length_append, List.length_cons] at hlength
      rw [lossy_encode_append]
      exact .char char rest _ (ih rest.length (by omega) rest rfl)
    · obtain ⟨piece, rest, hpiece, rfl, hill⟩ :=
        exists_illFormed hbytes fun char hbegin => hchar ⟨char, hbegin⟩
      have hshorter := List.length_pos_iff.mpr hpiece
      rw [List.length_append] at hlength
      have hrest := ih rest.length (by omega) rest rfl
      have htext := Reads.piece piece rest _ hill hrest
      rwa [htext.eq_lossy] at htext

/-- Bytes are read as their lossy text only. -/
theorem reads_iff {bytes : Bytes} {text : List Char} : Reads bytes text ↔ text = lossy bytes :=
  ⟨Reads.eq_lossy, fun htext => htext ▸ reads_lossy bytes⟩

/-- A character that is cut off is one piece, whatever is missing of it. -/
example : lossy [0xF0, 0x9F, 0x98, 0x41] = [replacement, 'A'] := by decide

/-- The bytes of a surrogate begin no character, so each of them is a piece. -/
example : lossy [0xED, 0xA0, 0x80] = [replacement, replacement, replacement] := by decide

end

end ProxyFilter.Text.Utf8
