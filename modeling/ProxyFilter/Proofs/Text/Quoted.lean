import ProxyFilter.Proofs.Text.Blank
import ProxyFilter.Text.Quoted

/-!
# Quoted names are told apart and stay on their line

The escape of a character can be told from what stands behind it, so a quoted name can be the
quote of no other one. Between the quotes stands no quote that a backslash does not guard, and no
control character or line separator at all.
-/

namespace ProxyFilter.Text.Quoted

/-! ## Hexadecimal digits -/

/-- Hexadecimal digits are told apart. -/
theorem digitChar_inj : ∀ i < 16, ∀ j < 16, Nat.digitChar i = Nat.digitChar j → i = j := by
  decide

/-- Numbers are told apart by their hexadecimal digits. -/
theorem toDigits_inj {m n : Nat} (h : Nat.toDigits 16 m = Nat.toDigits 16 n) : m = n := by
  induction m using Nat.strongRecOn generalizing n with
  | ind m ih =>
    have hlength : ∀ k, 0 < (Nat.toDigits 16 k).length := fun k =>
      List.length_pos_iff.mpr Nat.toDigits_ne_nil
    rw [Nat.toDigits_eq_if (by decide), @Nat.toDigits_eq_if 16 n (by decide)] at h
    split at h <;> split at h
    · next hm hn => exact digitChar_inj m hm n hn (List.singleton_inj.mp h)
    · have hsingle := congrArg List.length h
      have hn := hlength (n / 16)
      simp only [List.length_append, List.length_singleton] at hsingle
      omega
    · have hsingle := congrArg List.length h
      have hm := hlength (m / 16)
      simp only [List.length_append, List.length_singleton] at hsingle
      omega
    · next hm hn =>
      obtain ⟨hhigh, hlow⟩ := List.append_inj' h rfl
      have hquotient := ih (m / 16) (by omega) hhigh
      have hremainder := digitChar_inj _ (Nat.mod_lt m (by decide)) _ (Nat.mod_lt n (by decide))
        (List.singleton_inj.mp hlow)
      omega

/-- A hexadecimal digit is one of sixteen characters. -/
theorem exists_digit {n : Nat} {digit : Char} (h : digit ∈ Nat.toDigits 16 n) :
    ∃ i < 16, digit = Nat.digitChar i := by
  induction n using Nat.strongRecOn with
  | ind n ih =>
    rw [Nat.toDigits_eq_if (by decide)] at h
    split at h
    · next hsmall => exact ⟨n, hsmall, List.mem_singleton.mp h⟩
    · rcases List.mem_append.mp h with hhigh | hlow
      · exact ih (n / 16) (by omega) hhigh
      · exact ⟨n % 16, Nat.mod_lt n (by decide), List.mem_singleton.mp hlow⟩

/-! ## Escapes -/

/-- The characters that are written with a backslash and a letter, and that letter. -/
def letters : List (Char × Char) :=
  [('\x00', '0'), ('\t', 't'), ('\r', 'r'), ('\n', 'n'), ('"', '"'), ('\\', '\\')]

/-- The ways to write a character between quotes. -/
inductive Escapes : Char → List Char → Prop
  /-- The character stands for itself. -/
  | plain {c : Char} (hquote : c ≠ '"') (hbackslash : c ≠ '\\')
      (hprinted : isUnprintable c = false) : Escapes c [c]
  /-- A letter behind a backslash stands for it. -/
  | letter {c letter : Char} (hletter : (c, letter) ∈ letters) : Escapes c ['\\', letter]
  /-- Its code point in braces stands for it. -/
  | number (c : Char) : Escapes c (codePoint c)

/-- A character is written in one of these ways. -/
theorem escapes_escape (c : Char) : Escapes c (escape c) := by
  have hletter : ∀ given letter, c = given → (given, letter) ∈ letters →
      Escapes c ['\\', letter] := fun given letter hc hmem => hc ▸ .letter hmem
  rw [escape]
  split
  · next hc => exact hletter _ '0' hc (by decide)
  split
  · next hc => exact hletter _ 't' hc (by decide)
  split
  · next hc => exact hletter _ 'r' hc (by decide)
  split
  · next hc => exact hletter _ 'n' hc (by decide)
  split
  · next hc => exact hletter _ '"' hc (by decide)
  next hquote =>
  split
  · next hc => exact hletter _ '\\' hc (by decide)
  next hbackslash =>
  split
  · exact .number c
  · next hprinted =>
    rw [Bool.or_eq_true, not_or] at hprinted
    exact .plain hquote hbackslash (Bool.eq_false_iff.mpr hprinted.2)

/-- Letters behind a backslash are told apart, and none of them begins a code point. -/
theorem letters_inj : (∀ left ∈ letters, ∀ right ∈ letters, left.2 = right.2 → left.1 = right.1) ∧
    ∀ pair ∈ letters, pair.2 ≠ 'u' := by
  decide

section

variable {c d : Char} {text more left right : List Char}

/-- A code point can be told from what stands behind it, for its digits go up to the first brace. -/
theorem codePoint_append_inj (h : codePoint c ++ left = codePoint d ++ right) :
    c = d ∧ left = right := by
  have hbrace : ∀ n, '\x7d' ∉ Nat.toDigits 16 n := fun n hmem => by
    obtain ⟨i, hi, heq⟩ := exists_digit hmem
    have hdigits : ∀ i < 16, '\x7d' ≠ Nat.digitChar i := by decide
    exact hdigits i hi heq
  have hcut : ∀ n (rest : List Char), (Nat.toDigits 16 n ++ '\x7d' :: rest).takeWhile
      (· != '\x7d') = Nat.toDigits 16 n := fun n rest => takeWhile_of_cut (hbrace n) (.inr rfl)
  simp only [codePoint, List.append_assoc, List.append_cancel_left_eq, List.singleton_append] at h
  have hdigits := congrArg (List.takeWhile (· != '\x7d')) h
  rw [hcut, hcut] at hdigits
  rw [hdigits, List.append_cancel_left_eq] at h
  exact ⟨Char.toNat_inj.mp (toDigits_inj hdigits), (List.cons.inj h).2⟩

/-- However a character is written, it can be told from what stands behind it: a backslash tells an
escape, and what follows it a letter from a code point. -/
theorem Escapes.append_inj (hc : Escapes c text) (hd : Escapes d more)
    (h : text ++ left = more ++ right) : c = d ∧ left = right := by
  cases hc with
  | plain _ hbackslash =>
    cases hd with
    | plain => exact List.cons.inj h
    | letter => exact absurd (List.cons.inj h).1 hbackslash
    | number => exact absurd (List.cons.inj h).1 hbackslash
  | letter hletter =>
    cases hd with
    | plain _ hbackslash => exact absurd (List.cons.inj h).1.symm hbackslash
    | letter hother =>
      obtain ⟨hsame, hrest⟩ := List.cons.inj (List.cons.inj h).2
      exact ⟨letters_inj.1 _ hletter _ hother hsame, hrest⟩
    | number =>
      have hsame := (List.cons.inj (List.cons.inj h).2).1
      exact absurd hsame (letters_inj.2 _ hletter)
  | number =>
    cases hd with
    | plain _ hbackslash => exact absurd (List.cons.inj h).1.symm hbackslash
    | letter hother =>
      have hsame := (List.cons.inj (List.cons.inj h).2).1
      exact absurd hsame.symm (letters_inj.2 _ hother)
    | number => exact codePoint_append_inj h

/-- No character is written as nothing. -/
theorem Escapes.ne_nil (h : Escapes c text) : text ≠ [] := by
  cases h with
  | plain => exact List.cons_ne_nil _ _
  | letter => exact List.cons_ne_nil _ _
  | number => exact List.cons_ne_nil _ _

/-- What is written for characters is told apart. -/
theorem flatMap_escape_inj (h : text.flatMap escape = more.flatMap escape) : text = more := by
  induction text generalizing more with
  | nil =>
    cases more with
    | nil => rfl
    | cons d more =>
      rw [List.flatMap_nil, List.flatMap_cons] at h
      exact absurd (List.append_eq_nil_iff.mp h.symm).1 (escapes_escape d).ne_nil
  | cons c text ih =>
    cases more with
    | nil =>
      rw [List.flatMap_nil, List.flatMap_cons] at h
      exact absurd (List.append_eq_nil_iff.mp h).1 (escapes_escape c).ne_nil
    | cons d more =>
      rw [List.flatMap_cons, List.flatMap_cons] at h
      obtain ⟨hfirst, hrest⟩ := (escapes_escape c).append_inj (escapes_escape d) h
      rw [hfirst, ih hrest]

/-- Quoted names are told apart. -/
theorem quote_inj : quote text = quote more ↔ text = more := by
  refine ⟨fun h => ?_, fun h => h ▸ rfl⟩
  exact flatMap_escape_inj (List.append_cancel_right (List.cons.inj h).2)

end

/-! ## Between the quotes -/

/-- A text in which every quote is guarded by a backslash. What stands behind a backslash is
guarded by it, another backslash as well. -/
inductive Guarded : List Char → Prop
  /-- Nothing is. -/
  | nil : Guarded []
  /-- So is a text behind anything else than a quote or a backslash. -/
  | plain {c : Char} {rest : List Char} (hquote : c ≠ '"') (hbackslash : c ≠ '\\')
      (hrest : Guarded rest) : Guarded (c :: rest)
  /-- So is a text behind a guarded character. -/
  | guard {c : Char} {rest : List Char} (hrest : Guarded rest) : Guarded ('\\' :: c :: rest)

/-- A control character, or a separator of lines or paragraphs. -/
def Breaks (char : Char) : Prop :=
  char.toNat < 0x20 ∨ 0x7F ≤ char.toNat ∧ char.toNat ≤ 0x9F ∨
    char.toNat = 0x2028 ∨ char.toNat = 0x2029

section

variable {c : Char} {text rest : List Char}

/-- What breaks a line has no printed form. -/
theorem isUnprintable_of_breaks (h : Breaks c) : isUnprintable c = true := by
  rcases h with hlow | hhigh | hline
  · exact isUnprintable_of_lt hlow
  · exact inRanges_of_mem (by decide : (0x7F, 0xA0) ∈ unprintableRanges) hhigh.1 (by omega)
  · exact inRanges_of_mem (by decide : (0x2028, 0x202F) ∈ unprintableRanges) (by omega) (by omega)

/-- What is printed in ASCII does not break a line. -/
theorem not_breaks_of_range (h : 0x20 ≤ c.toNat ∧ c.toNat < 0x7F) : ¬ Breaks c := by
  unfold Breaks
  omega

/-- Hexadecimal digits are printed, and none is a quote or a backslash. -/
theorem digit_plain : ∀ i < 16, (0x20 ≤ (Nat.digitChar i).toNat ∧ (Nat.digitChar i).toNat < 0x7F) ∧
    Nat.digitChar i ≠ '"' ∧ Nat.digitChar i ≠ '\\' := by
  decide

/-- Letters behind a backslash are printed. -/
theorem letters_range : ∀ pair ∈ letters, 0x20 ≤ pair.2.toNat ∧ pair.2.toNat < 0x7F := by
  decide

/-- However a character is written, no quote in it is unguarded. -/
theorem Escapes.guarded (h : Escapes c text) (hrest : Guarded rest) : Guarded (text ++ rest) := by
  have hrun : ∀ run : List Char, (∀ char ∈ run, char ≠ '"' ∧ char ≠ '\\') → ∀ {rest : List Char},
      Guarded rest → Guarded (run ++ rest) := fun run hrun rest hrest => by
    induction run with
    | nil => exact hrest
    | cons char run ih =>
      obtain ⟨⟨hquote, hbackslash⟩, hothers⟩ := List.forall_mem_cons.mp hrun
      exact .plain hquote hbackslash (ih hothers)
  cases h with
  | plain hquote hbackslash => exact .plain hquote hbackslash hrest
  | letter => exact .guard hrest
  | number =>
    have hdigits : ∀ char ∈ Nat.toDigits 16 c.toNat, char ≠ '"' ∧ char ≠ '\\' := by
      intro char hchar
      obtain ⟨i, hi, rfl⟩ := exists_digit hchar
      exact (digit_plain i hi).2
    have hclosed : Guarded (['\x7d'] ++ rest) := .plain (by decide) (by decide) hrest
    rw [codePoint, List.append_assoc, List.append_assoc]
    exact .guard (.plain (by decide) (by decide) (hrun _ hdigits hclosed))

/-- However a character is written, no line is broken. -/
theorem Escapes.not_breaks (h : Escapes c text) : ∀ char ∈ text, ¬ Breaks char := by
  have hbackslash : ¬ Breaks '\\' := not_breaks_of_range (by decide)
  cases h with
  | plain _ _ hprinted =>
    refine List.forall_mem_singleton.mpr fun hbreaks => ?_
    rw [isUnprintable_of_breaks hbreaks] at hprinted
    cases hprinted
  | letter hletter =>
    exact List.forall_mem_cons.mpr ⟨hbackslash, List.forall_mem_singleton.mpr
      (not_breaks_of_range (letters_range _ hletter))⟩
  | number =>
    have hopening : ∀ char ∈ ['\\', 'u', '\x7b'], ¬ Breaks char :=
      List.forall_mem_cons.mpr ⟨hbackslash, List.forall_mem_cons.mpr
        ⟨not_breaks_of_range (by decide), List.forall_mem_singleton.mpr
          (not_breaks_of_range (by decide))⟩⟩
    have hdigits : ∀ char ∈ Nat.toDigits 16 c.toNat, ¬ Breaks char := by
      intro char hchar
      obtain ⟨i, hi, rfl⟩ := exists_digit hchar
      exact not_breaks_of_range (digit_plain i hi).1
    have hclosing : ∀ char ∈ ['\x7d'], ¬ Breaks char :=
      List.forall_mem_singleton.mpr (not_breaks_of_range (by decide))
    exact List.forall_mem_append.mpr ⟨List.forall_mem_append.mpr ⟨hopening, hdigits⟩, hclosing⟩

/-- Between the quotes no quote is unguarded and no line is broken. -/
theorem inside_guarded (name : List Char) :
    Guarded (name.flatMap escape) ∧ ∀ char ∈ name.flatMap escape, ¬ Breaks char := by
  constructor
  · induction name with
    | nil => exact .nil
    | cons c name ih => exact (escapes_escape c).guarded ih
  · intro char hchar
    obtain ⟨c, -, hmem⟩ := List.mem_flatMap.mp hchar
    exact (escapes_escape c).not_breaks char hmem

end

end ProxyFilter.Text.Quoted
