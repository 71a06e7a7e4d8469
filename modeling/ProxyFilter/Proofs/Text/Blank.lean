import Mathlib.Data.List.TakeWhile
import ProxyFilter.Text.Blank

/-!
# Trimming cuts exactly the white space at both ends

A run of members of one kind goes up to where it stops. The white space at the start of a text is
such a run, and so is the one at its end when the text is read backwards. What is left between
the two is the only part with no white space at its ends.
-/

namespace ProxyFilter.Text

/-- A run of members of a kind stops in front of these. -/
def Stops {α : Type} (kind : α → Bool) (rest : List α) : Prop :=
  ∀ member ∈ rest.head?, kind member = false

section

variable {α : Type} {kind : α → Bool} {run rest : List α}

/-- A run stops where it is cut off. -/
theorem stops_dropWhile (kind : α → Bool) (members : List α) :
    Stops kind (members.dropWhile kind) := by
  intro member hmember
  rw [← List.find?_not_eq_head?_dropWhile] at hmember
  have hnot := List.find?_some hmember
  exact Bool.not_eq_true' _ |>.mp hnot

/-- A run goes up to where it stops. -/
theorem takeWhile_of_stops (hrun : ∀ member ∈ run, kind member = true) (hrest : Stops kind rest) :
    (run ++ rest).takeWhile kind = run := by
  rw [List.takeWhile_append_of_pos hrun]
  cases rest with
  | nil => exact List.append_nil run
  | cons member rest =>
    rw [List.takeWhile_cons_of_neg (Bool.eq_false_iff.mp (hrest member rfl)), List.append_nil]

/-- Behind a run stands what it stops at. -/
theorem dropWhile_of_stops (hrun : ∀ member ∈ run, kind member = true) (hrest : Stops kind rest) :
    (run ++ rest).dropWhile kind = rest := by
  rw [List.dropWhile_append_of_pos hrun]
  cases rest with
  | nil => rfl
  | cons member rest => exact List.dropWhile_cons_of_neg (Bool.eq_false_iff.mp (hrest member rfl))

variable [BEq α] [LawfulBEq α] {delimiter : α}

/-- Up to the first delimiter there is none, and behind that nothing or the delimiter. -/
theorem cut_at (delimiter : α) (members : List α) :
    delimiter ∉ members.takeWhile (· != delimiter) ∧
      (members.dropWhile (· != delimiter) = [] ∨
        (members.dropWhile (· != delimiter)).head? = some delimiter) := by
  refine ⟨fun hmem => ?_, ?_⟩
  · have hother := List.mem_takeWhile_imp hmem
    rw [bne_self_eq_false] at hother
    cases hother
  · have hstops : Stops (· != delimiter) (members.dropWhile (· != delimiter)) :=
      stops_dropWhile _ members
    cases hrest : members.dropWhile (· != delimiter) with
    | nil => exact .inl rfl
    | cons member rest =>
      rw [hrest] at hstops
      have hsame : (member != delimiter) = false := hstops member rfl
      exact .inr (congrArg some (bne_eq_false_iff_eq.mp hsame))

/-- What is without delimiters goes up to the first one. -/
theorem takeWhile_of_cut (hrun : delimiter ∉ run)
    (hrest : rest = [] ∨ rest.head? = some delimiter) :
    (run ++ rest).takeWhile (· != delimiter) = run := by
  refine takeWhile_of_stops (fun member hmem => bne_iff_ne.mpr fun hsame => ?_) ?_
  · rw [hsame] at hmem
    exact hrun hmem
  · rcases hrest with hnil | hhead
    · rw [hnil]
      intro member hmember
      cases hmember
    · intro member hmember
      rw [hhead] at hmember
      cases hmember
      exact bne_self_eq_false delimiter

end

/-- The numbers of the characters with the property `White_Space`. -/
def whiteSpace : List Nat :=
  [0x09, 0x0A, 0x0B, 0x0C, 0x0D, 0x20, 0x85, 0xA0, 0x1680, 0x2000, 0x2001, 0x2002, 0x2003, 0x2004,
    0x2005, 0x2006, 0x2007, 0x2008, 0x2009, 0x200A, 0x2028, 0x2029, 0x202F, 0x205F, 0x3000]

/-- A character is white space if it has that property. -/
def IsWhiteSpace (char : Char) : Prop := char.toNat ∈ whiteSpace

/-- The part of a text between the white space at its ends. -/
structure Trims (text core : List Char) : Prop where
  /-- Only white space stands around the part. -/
  around : ∃ before after, text = before ++ (core ++ after) ∧
    (∀ char ∈ before, IsWhiteSpace char) ∧ ∀ char ∈ after, IsWhiteSpace char
  /-- The part does not begin with white space. -/
  first : ∀ char ∈ core.head?, ¬ IsWhiteSpace char
  /-- The part does not end with white space. -/
  last : ∀ char ∈ core.getLast?, ¬ IsWhiteSpace char

section

variable {text core : List Char}

/-- What is cut off is white space. -/
theorem isBlank_iff_isWhiteSpace {char : Char} : isBlank char = true ↔ IsWhiteSpace char := by
  simp only [isBlank, IsWhiteSpace, whiteSpace, List.mem_cons, List.not_mem_nil, or_false,
    Bool.or_eq_true, Bool.and_eq_true, decide_eq_true_eq, beq_iff_eq]
  omega

/-- What is not cut off is none. -/
theorem isBlank_eq_false_iff {char : Char} : isBlank char = false ↔ ¬ IsWhiteSpace char := by
  rw [← isBlank_iff_isWhiteSpace, Bool.not_eq_true]

/-- Trimming leaves the part between the white space at the ends. -/
theorem trims_trim (text : List Char) : Trims text (trim text) := by
  let rest := trimStart text
  let after := (rest.reverse.takeWhile isBlank).reverse
  have hrest : rest = trim text ++ after := by
    have hback : rest.reverse = rest.reverse.takeWhile isBlank ++ rest.reverse.dropWhile isBlank :=
      List.takeWhile_append_dropWhile.symm
    have hboth := congrArg List.reverse hback
    rw [List.reverse_reverse, List.reverse_append] at hboth
    exact hboth
  have hspace : ∀ {run : List Char}, ∀ char ∈ run.takeWhile isBlank, IsWhiteSpace char :=
    fun _ hchar => isBlank_iff_isWhiteSpace.mp (List.mem_takeWhile_imp hchar)
  refine ⟨⟨text.takeWhile isBlank, after, ?_, hspace, fun char hchar => ?_⟩,
    fun char hchar => ?_, fun char hchar => ?_⟩
  · rw [← hrest]
    exact List.takeWhile_append_dropWhile.symm
  · exact hspace char (List.mem_reverse.mp hchar)
  · refine isBlank_eq_false_iff.mp (stops_dropWhile isBlank text char ?_)
    change char ∈ rest.head?
    rw [hrest, List.head?_append, Option.mem_def.mp hchar]
    rfl
  · refine isBlank_eq_false_iff.mp (stops_dropWhile isBlank rest.reverse char ?_)
    rw [← List.getLast?_reverse]
    exact hchar

/-- There is no other such part. -/
theorem Trims.eq_trim (h : Trims text core) : core = trim text := by
  obtain ⟨⟨before, after, rfl, hbefore, hafter⟩, hfirst, hlast⟩ := h
  simp only [← isBlank_iff_isWhiteSpace] at hbefore hafter
  simp only [← isBlank_eq_false_iff] at hfirst hlast
  by_cases hcore : core = []
  · have hstart : trimStart (before ++ (core ++ after)) = [] := by
      rw [hcore, trimStart, List.nil_append, List.dropWhile_append_of_pos hbefore]
      exact List.dropWhile_eq_nil_iff.mpr hafter
    rw [trim, hstart, hcore]
    rfl
  · obtain ⟨char, others, rfl⟩ := List.exists_cons_of_ne_nil hcore
    have hstart : trimStart (before ++ (char :: others ++ after)) = char :: others ++ after :=
      dropWhile_of_stops hbefore hfirst
    have hback : ∀ given ∈ after.reverse, isBlank given = true := fun given hgiven =>
      hafter given (List.mem_reverse.mp hgiven)
    have hstops : Stops isBlank (char :: others).reverse := by
      rw [Stops, List.head?_reverse]
      exact hlast
    have hend : trimEnd (char :: others ++ after) = char :: others := by
      rw [trimEnd, trimStart, List.reverse_append, dropWhile_of_stops hback hstops,
        List.reverse_reverse]
    rw [trim, hstart, hend]

/-- A part is what trimming leaves exactly if only white space is cut off. -/
theorem trims_iff : Trims text core ↔ core = trim text :=
  ⟨Trims.eq_trim, fun h => h ▸ trims_trim text⟩

end

end ProxyFilter.Text
