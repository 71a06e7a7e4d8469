import ProxyFilter.Proofs.Json.Rows

/-!
# Texts are read exactly

Values are read exactly by induction on the nesting that is left: the values inside a list or
object are read exactly one level deeper. So a whole text is read exactly if it is one, unless
a number in it is out of range.
-/

namespace ProxyFilter.Json

open Text Grammar

/-! ## Lists and objects -/

/-- A byte that may begin a value in a list. -/
def Opens (byte : UInt8) : Prop := isSpace byte = false ∧ byte ≠ ']'.toUInt8

section

variable {bytes rest : Bytes} {item : Reader Value} {fuel : Nat} {Inner : Bytes → Value → Prop}
  {sure : Prop}

/-- Lists are read as rows of values. -/
theorem list_rowReader (fuel : Nat) (item : Reader Value) :
    RowReader ']'.toUInt8 Opens fuel item (items fuel item) (moreItems item) where
  start_close hclose := by
    rw [items, hclose]
    rfl
  start_part hfirst hopens := by
    rw [items, hfirst]
    exact if_neg hopens.2
  start_only {bytes rest values} h := by
    unfold items at h
    cases hbytes : skipSpace bytes with
    | nil =>
      rw [hbytes] at h
      cases h
    | cons byte tail =>
      rw [hbytes] at h
      dsimp only at h
      by_cases hclose : byte = ']'.toUInt8
      · rw [if_pos hclose] at h
        cases h
        exact .inl ⟨by rw [hclose], rfl⟩
      · rw [if_neg hclose] at h
        obtain ⟨read, hvalue, hmore⟩ := exists_of_bind h
        exact .inr ⟨read.1, read.2, hvalue, hmore⟩
  more_close hclose := by
    rw [moreItems, hclose]
    rfl
  more_part hcomma hfirst hopens := by
    rw [moreItems, hcomma]
    dsimp only
    rw [if_neg (by decide), if_pos rfl, hfirst]
    exact if_neg hopens.2
  more_only {rounds read values bytes rest} h := by
    cases rounds with
    | zero => cases h
    | succ rounds =>
      unfold moreItems at h
      cases hbytes : skipSpace bytes with
      | nil =>
        rw [hbytes] at h
        cases h
      | cons byte tail =>
        rw [hbytes] at h
        dsimp only at h
        by_cases hclose : byte = ']'.toUInt8
        · rw [if_pos hclose] at h
          cases h
          exact .inl ⟨by rw [hclose], rfl⟩
        · rw [if_neg hclose] at h
          by_cases hcomma : byte = ','.toUInt8
          · rw [if_pos hcomma] at h
            cases htail : skipSpace tail with
            | nil =>
              rw [htail] at h
              cases h
            | cons next after =>
              rw [htail] at h
              dsimp only at h
              by_cases htrailing : next = ']'.toUInt8
              · rw [if_pos htrailing] at h
                cases h
              · rw [if_neg htrailing] at h
                obtain ⟨found, hvalue, hmore⟩ := exists_of_bind h
                exact .inr ⟨rounds, tail, found.1, found.2, rfl, by rw [hcomma],
                  by rw [htail, hvalue], hmore⟩
          · rw [if_neg hcomma] at h
            cases h

/-- A member of an object with the quote of its key. -/
def quotedMember (item : Reader Value) : Reader (String × Value) := fun bytes =>
  match skipSpace bytes with
  | [] => Fault.raise .endInObject []
  | byte :: rest =>
    if byte = '"'.toUInt8 then member item rest else Fault.raise .keyNotString rest

/-- Behind its quote a member is read by itself. -/
theorem quotedMember_of_skipSpace (h : skipSpace bytes = '"'.toUInt8 :: rest) :
    quotedMember item bytes = member item rest := by
  rw [quotedMember, h]
  rfl

/-- Objects are read as rows of members. -/
theorem object_rowReader (fuel : Nat) (item : Reader Value) :
    RowReader '\x7d'.toUInt8 (· = '"'.toUInt8) fuel (quotedMember item) (members fuel item)
      (moreMembers item) where
  start_close hclose := by
    rw [members, hclose]
    rfl
  start_part hfirst hopens := by
    cases hopens
    rw [members, hfirst]
    rfl
  start_only {bytes rest values} h := by
    unfold members at h
    cases hbytes : skipSpace bytes with
    | nil =>
      rw [hbytes] at h
      cases h
    | cons byte tail =>
      rw [hbytes] at h
      dsimp only at h
      by_cases hclose : byte = '\x7d'.toUInt8
      · rw [if_pos hclose] at h
        cases h
        exact .inl ⟨by rw [hclose], rfl⟩
      rw [if_neg hclose] at h
      by_cases hquote : byte = '"'.toUInt8
      · rw [if_pos hquote] at h
        obtain ⟨read, hvalue, hmore⟩ := exists_of_bind h
        rw [hquote]
        exact .inr ⟨read.1, read.2, hvalue, hmore⟩
      · rw [if_neg hquote] at h
        cases h
  more_close hclose := by
    rw [moreMembers, hclose]
    rfl
  more_part hcomma hfirst hopens := by
    cases hopens
    rw [moreMembers, hcomma]
    dsimp only
    rw [if_neg (by decide), if_pos rfl, hfirst]
    rfl
  more_only {rounds read values bytes rest} h := by
    cases rounds with
    | zero => cases h
    | succ rounds =>
      unfold moreMembers at h
      cases hbytes : skipSpace bytes with
      | nil =>
        rw [hbytes] at h
        cases h
      | cons byte tail =>
        rw [hbytes] at h
        dsimp only at h
        by_cases hclose : byte = '\x7d'.toUInt8
        · rw [if_pos hclose] at h
          cases h
          exact .inl ⟨by rw [hclose], rfl⟩
        rw [if_neg hclose] at h
        by_cases hcomma : byte = ','.toUInt8
        · rw [if_pos hcomma] at h
          cases htail : skipSpace tail with
          | nil =>
            rw [htail] at h
            cases h
          | cons next after =>
            rw [htail] at h
            dsimp only at h
            by_cases hquote : next = '"'.toUInt8
            · rw [if_pos hquote] at h
              obtain ⟨found, hvalue, hmore⟩ := exists_of_bind h
              refine .inr ⟨rounds, tail, found.1, found.2, rfl, by rw [hcomma], ?_, hmore⟩
              rw [htail, hquote]
              exact hvalue
            · rw [if_neg hquote] at h
              split at h <;> cases h
        · rw [if_neg hcomma] at h
          cases h

/-- What is read as a member is a key, a colon and a value. -/
theorem member_sound (hitem : Reads fuel Inner item) {read : String × Value}
    (h : member item bytes = .ok (read, rest)) :
    ∃ part, '"'.toUInt8 :: bytes = part ++ rest ∧ IsMember Inner part read := by
  obtain ⟨⟨key, afterKey⟩, hkey, hbehind⟩ := exists_of_bind h
  obtain ⟨quoted, hbytes, hquoted⟩ := isString_of_string hkey
  obtain ⟨before, hafterKey, hbefore⟩ := exists_skipSpace afterKey
  dsimp only at hbehind
  cases hcolon : skipSpace afterKey with
  | nil =>
    rw [hcolon] at hbehind
    cases hbehind
  | cons byte tail =>
    rw [hcolon] at hbehind hafterKey
    dsimp only at hbehind
    by_cases hbyte : byte = ':'.toUInt8
    · rw [if_pos hbyte] at hbehind
      obtain ⟨⟨value, left⟩, hvalue, hlast⟩ := exists_of_bind hbehind
      cases hlast
      obtain ⟨after, part, htail, hafter, hpart⟩ := hitem.sound hvalue
      refine ⟨_, ?_, .colon hquoted hbefore hafter hpart⟩
      rw [hbytes, hafterKey, hbyte, htail]
      simp only [List.append_assoc, List.cons_append]
    · rw [if_neg hbyte] at hbehind
      cases hbehind

/-- A key, a colon and a value are read as a member. -/
theorem member_complete (hitem : Takes sure fuel Inner item) {part : Bytes}
    {written : String × Value} (h : IsMember Inner part written) (hfuel : part.length ≤ fuel)
    (hrest : Closes rest) :
    ∃ bytes, part ++ rest = '"'.toUInt8 :: bytes ∧
      Tells sure (member item bytes) (written, rest) := by
  cases h with
  | @colon key before after part name value hkey hbefore hafter hvalue =>
    obtain ⟨inside, rfl, hstring⟩ := string_of_isString hkey
    refine ⟨inside ++ (before ++ ':'.toUInt8 :: (after ++ (part ++ rest))), ?_, ?_⟩
    · simp only [List.append_assoc, List.cons_append]
    · have hcolon := skipSpace_cons hbefore (by decide : isSpace ':'.toUInt8 = false)
        (after ++ (part ++ rest))
      have hpart : part.length ≤ fuel := by
        simp only [List.length_append, List.length_cons] at hfuel
        omega
      have hread := hitem hafter hvalue hpart hrest
      rw [member, hstring, ok_bind]
      dsimp only
      rw [hcolon]
      exact hread.bind (tells_of_ok rfl)

/-- Every member is taken. -/
theorem takes_quotedMember (hitem : Takes sure fuel Inner item) :
    Takes sure fuel (IsMember Inner) (quotedMember item) := by
  intro before part rest written hbefore hpart hfuel hrest
  obtain ⟨bytes, hbytes, htells⟩ := member_complete hitem hpart hfuel hrest
  rw [hbytes, quotedMember_of_skipSpace (skipSpace_cons hbefore (by decide) bytes)]
  exact htells

/-- A member is read exactly. -/
theorem reads_quotedMember (hitem : Reads fuel Inner item) :
    Reads fuel (IsMember Inner) (quotedMember item) where
  sound {bytes rest written} h := by
    obtain ⟨before, hbytes, hbefore⟩ := exists_skipSpace bytes
    unfold quotedMember at h
    cases hquote : skipSpace bytes with
    | nil =>
      rw [hquote] at h
      cases h
    | cons byte tail =>
      rw [hquote] at h hbytes
      dsimp only at h
      by_cases hbyte : byte = '"'.toUInt8
      · rw [if_pos hbyte] at h
        obtain ⟨part, hpart, hmember⟩ := member_sound hitem h
        rw [hbyte, hpart] at hbytes
        exact ⟨before, part, hbytes, hbefore, hmember⟩
      · rw [if_neg hbyte] at h
        cases h
  complete hbefore hpart hfuel hrest :=
    (takes_quotedMember hitem.takes hbefore hpart hfuel hrest).yields

end

/-! ## Values -/

section

variable {bytes rest : Bytes} {read : Value} {fuel : Nat}

/-- A word is read letter by letter. -/
theorem word_eq_ok_iff {value : Value} {letters : Bytes} :
    word value letters bytes = .ok (read, rest) ↔ bytes = letters ++ rest ∧ read = value := by
  induction letters generalizing bytes with
  | nil =>
    rw [word, Except.ok.injEq, Prod.mk.injEq, eq_comm, and_comm, List.nil_append, eq_comm]
  | cons letter letters ih =>
    cases bytes with
    | nil => simp [word, Fault.raise]
    | cons byte tail =>
      by_cases hbyte : byte = letter
      · rw [word, if_pos hbyte, ih, hbyte, List.cons_append, List.cons.injEq]
        simp
      · simp [word, hbyte, Fault.raise]

/-- Where no number goes on it ends. -/
theorem ends_of_closes (hrest : Closes rest) (literal : Literal) : Ends literal rest := by
  have hnot : ∀ byte : UInt8, (isSpace byte = true ∨ byte = ','.toUInt8 ∨ byte = ']'.toUInt8 ∨
      byte = '\x7d'.toUInt8) → isDigit byte = false ∧ byte ≠ '.'.toUInt8 ∧ byte ≠ 'e'.toUInt8 ∧
        byte ≠ 'E'.toUInt8 := by
    rintro byte (hspace | rfl | rfl | rfl)
    · simp only [isSpace, Bool.or_eq_true, beq_iff_eq] at hspace
      rcases hspace with ((rfl | rfl) | rfl) | rfl <;> decide
    all_goals decide
  exact ⟨fun byte hbyte => (hnot byte (hrest byte hbyte)).1,
    fun _ _ hhead => (hnot _ (hrest _ hhead)).2.1 rfl,
    fun _ byte hbyte => (hnot byte (hrest byte hbyte)).2.2⟩

/-- A number is read exactly behind its sign. -/
theorem number_complete {literal : Literal} {kept : Number} (h : literal.WellFormed)
    (hvalue : ∀ number, literal.value? = some number → kept = number) (hrest : Closes rest) :
    Tells literal.IsKept (number literal.negative (literal.unsigned ++ rest)) (kept, rest) := by
  have hkeeps := number_of_literal h (ends_of_closes hrest literal)
  cases hnumber : literal.value? with
  | none =>
    rw [hnumber] at hkeeps
    obtain ⟨fault, hfault, hcause⟩ := hkeeps
    exact ⟨.beyond fault hfault hcause, fun hrange => absurd hnumber hrange⟩
  | some number =>
    rw [hnumber] at hkeeps
    rw [hvalue number hnumber]
    exact tells_of_ok hkeeps

/-- A digit is no other byte that begins a value. -/
theorem ne_of_isDigit {byte other : UInt8} (h : isDigit byte = true)
    (hother : isDigit other = false) : byte ≠ other := by
  rintro rfl
  exact absurd h (Bool.eq_false_iff.mp hother)

/-- What is read as a number is one that is kept, with its sign. -/
theorem isScalar_of_number {negative : Bool} {kept : Number}
    (h : number negative bytes = .ok (kept, rest)) :
    ∃ part, (if negative then '-'.toUInt8 :: bytes else bytes) = part ++ rest ∧
      IsScalarOf Literal.IsKept part (.number kept) := by
  obtain ⟨literal, hliteral, rfl, hvalue, rfl, -⟩ := number_eq_ok_iff.mp h
  have hkept : literal.IsKept := ne_of_eq_of_ne hvalue (Option.some_ne_none kept)
  refine ⟨literal.bytes, ?_, .number literal kept hliteral hkept fun other hother =>
    Option.some.inj (hvalue.symm.trans hother)⟩
  unfold Literal.bytes
  cases literal.negative <;> rfl

/-- What is read as a list or object is one, given that the values inside it are. -/
theorem isCompound_of_rows {item : Reader Value} {Inner : Bytes → Value → Prop}
    (hitem : Reads fuel Inner item) :
    (∀ {values}, items fuel item bytes = .ok (values, rest) →
      ∃ part, '['.toUInt8 :: bytes = part ++ rest ∧ IsCompound Inner part (.array values)) ∧
    ∀ {values}, members fuel item bytes = .ok (values, rest) →
      ∃ part, '\x7b'.toUInt8 :: bytes = part ++ rest ∧
        IsCompound Inner part (.object values) := by
  refine ⟨fun h => ?_, fun h => ?_⟩
  · obtain ⟨body, rfl, hbody⟩ := (list_rowReader fuel item).sound hitem h
    refine ⟨_, ?_, .list hbody⟩
    simp only [List.append_assoc, List.cons_append, List.nil_append]
  · obtain ⟨body, rfl, hbody⟩ := (object_rowReader fuel item).sound (reads_quotedMember hitem) h
    refine ⟨_, ?_, .object hbody⟩
    simp only [List.append_assoc, List.cons_append, List.nil_append]

/-- What is read as a value is one behind white space, and its numbers are kept. -/
theorem valueWith_sound {inner : Option (Reader Value)} {Inner : Bytes → Value → Prop}
    (hinner : ∀ item ∈ inner, Reads fuel Inner item)
    (h : valueWith fuel inner bytes = .ok (read, rest)) :
    ∃ before text, bytes = before ++ (text ++ rest) ∧ IsBlank before ∧
      (IsScalarOf Literal.IsKept text read ∨ inner ≠ none ∧ IsCompound Inner text read) := by
  obtain ⟨before, hbytes, hbefore⟩ := exists_skipSpace bytes
  suffices hpart : ∃ text, skipSpace bytes = text ++ rest ∧
      (IsScalarOf Literal.IsKept text read ∨ inner ≠ none ∧ IsCompound Inner text read) by
    obtain ⟨text, htext, hread⟩ := hpart
    rw [htext] at hbytes
    exact ⟨before, text, hbytes, hbefore, hread⟩
  unfold valueWith at h
  cases hskip : skipSpace bytes with
  | nil =>
    rw [hskip] at h
    cases h
  | cons byte tail =>
    rw [hskip] at h
    dsimp only at h
    split at h
    · next hbyte =>
      obtain ⟨rfl, rfl⟩ := word_eq_ok_iff.mp h
      rw [hbyte]
      exact ⟨_, rfl, .inl .null⟩
    split at h
    · next hbyte =>
      obtain ⟨rfl, rfl⟩ := word_eq_ok_iff.mp h
      rw [hbyte]
      exact ⟨_, rfl, .inl .truth⟩
    split at h
    · next hbyte =>
      obtain ⟨rfl, rfl⟩ := word_eq_ok_iff.mp h
      rw [hbyte]
      exact ⟨_, rfl, .inl .falsehood⟩
    split at h
    · next hbyte =>
      obtain ⟨⟨text, left⟩, hstring, hlast⟩ := exists_of_bind h
      cases hlast
      obtain ⟨part, hpart, hquoted⟩ := isString_of_string hstring
      rw [hbyte]
      exact ⟨part, hpart, .inl (.string hquoted)⟩
    split at h
    · next hbyte =>
      obtain ⟨⟨kept, left⟩, hnumber, hlast⟩ := exists_of_bind h
      cases hlast
      obtain ⟨part, hpart, hscalar⟩ := isScalar_of_number hnumber
      rw [hbyte]
      exact ⟨part, hpart, .inl hscalar⟩
    split at h
    · obtain ⟨⟨kept, left⟩, hnumber, hlast⟩ := exists_of_bind h
      cases hlast
      obtain ⟨part, hpart, hscalar⟩ := isScalar_of_number hnumber
      exact ⟨part, hpart, .inl hscalar⟩
    split at h
    · next hbyte =>
      cases inner with
      | none => cases h
      | some item =>
        obtain ⟨⟨values, left⟩, hlist, hlast⟩ := exists_of_bind h
        cases hlast
        obtain ⟨part, hpart, hcompound⟩ := (isCompound_of_rows (hinner item rfl)).1 hlist
        rw [hbyte]
        exact ⟨part, hpart, .inr ⟨nofun, hcompound⟩⟩
    split at h
    · next hbyte =>
      cases inner with
      | none => cases h
      | some item =>
        obtain ⟨⟨values, left⟩, hobject, hlast⟩ := exists_of_bind h
        cases hlast
        obtain ⟨part, hpart, hcompound⟩ := (isCompound_of_rows (hinner item rfl)).2 hobject
        rw [hbyte]
        exact ⟨part, hpart, .inr ⟨nofun, hcompound⟩⟩
    · cases h

/-- A digit may begin a value. -/
theorem opens_of_isDigit {byte : UInt8} (h : isDigit byte = true) : Opens byte := by
  refine ⟨Bool.eq_false_iff.mpr fun hspace => ?_, ne_of_isDigit h (by decide)⟩
  simp only [isSpace, Bool.or_eq_true, beq_iff_eq] at hspace
  rcases hspace with ((rfl | rfl) | rfl) | rfl <;> cases h

/-- A number begins with a minus or a digit. -/
theorem exists_cons_of_literal {literal : Literal} (h : literal.WellFormed) :
    ∃ byte tail, literal.bytes = byte :: tail ∧
      (literal.negative = true ∧ byte = '-'.toUInt8 ∧ tail = literal.unsigned ∨
        literal.negative = false ∧ isDigit byte = true ∧ byte :: tail = literal.unsigned) := by
  unfold Literal.bytes
  cases literal.negative with
  | true => exact ⟨_, _, rfl, .inl ⟨rfl, rfl, rfl⟩⟩
  | false =>
    obtain ⟨first, others, hwhole, hfirst, -⟩ := exists_cons_of_areDigits h.whole
    have hunsigned : literal.unsigned =
        first :: (others ++ (literal.fraction.elim [] fun digits => '.'.toUInt8 :: digits) ++
          literal.power.elim [] PowerLiteral.bytes) := by
      rw [Literal.unsigned, hwhole]
      rfl
    exact ⟨first, _, hunsigned, .inr ⟨rfl, hfirst, hunsigned.symm⟩⟩

/-- No value begins with white space or a bracket that closes. -/
theorem begins_isScalar : Begins IsScalar Opens where
  first {part value} h := by
    cases h with
    | null => exact ⟨_, _, rfl, by decide, by decide⟩
    | truth => exact ⟨_, _, rfl, by decide, by decide⟩
    | falsehood => exact ⟨_, _, rfl, by decide, by decide⟩
    | string h =>
      cases h
      exact ⟨_, _, rfl, by decide, by decide⟩
    | number literal number h =>
      obtain ⟨byte, tail, hbytes, hcases⟩ := exists_cons_of_literal h
      obtain ⟨-, rfl, -⟩ | ⟨-, hdigit, -⟩ := hcases
      · exact ⟨_, tail, hbytes, by decide, by decide⟩
      · exact ⟨byte, tail, hbytes, opens_of_isDigit hdigit⟩
  solid h := h.1

/-- White space in front of a value changes nothing. -/
theorem valueWith_append {inner : Option (Reader Value)} {before : Bytes} (hbefore : IsBlank before)
    (hbytes : Stops isSpace bytes) :
    valueWith fuel inner (before ++ bytes) = valueWith fuel inner bytes := by
  have hself : skipSpace bytes = bytes := @skipSpace_append [] bytes nofun hbytes
  rw [valueWith, valueWith, skipSpace_append hbefore hbytes, hself]

/-- A value without lists and objects is read. -/
theorem scalar_complete {inner : Option (Reader Value)} {Admits : Literal → Prop} {text : Bytes}
    (h : IsScalarOf Admits text read) (hrest : Closes rest) :
    Tells (∀ literal, Admits literal → literal.IsKept) (valueWith fuel inner (text ++ rest))
      (read, rest) := by
  cases h with
  | other h hother =>
    cases h with
    | null =>
      have hword : word .null (Utf8.encode ['u', 'l', 'l'])
        (Utf8.encode ['u', 'l', 'l'] ++ rest) = .ok (.null, rest) := word_eq_ok_iff.mpr ⟨rfl, rfl⟩
      exact tells_of_ok hword
    | truth =>
      have hword : word (.bool true) (Utf8.encode ['r', 'u', 'e'])
        (Utf8.encode ['r', 'u', 'e'] ++ rest) = .ok (.bool true, rest) :=
          word_eq_ok_iff.mpr ⟨rfl, rfl⟩
      exact tells_of_ok hword
    | falsehood =>
      have hword : word (.bool false) (Utf8.encode ['a', 'l', 's', 'e'])
        (Utf8.encode ['a', 'l', 's', 'e'] ++ rest) = .ok (.bool false, rest) :=
          word_eq_ok_iff.mpr ⟨rfl, rfl⟩
      exact tells_of_ok hword
    | @string part text h =>
      obtain ⟨inside, rfl, hstring⟩ := string_of_isString h
      have hread : valueWith fuel inner ('"'.toUInt8 :: (inside ++ rest)) =
        string (inside ++ rest) >>= fun read => .ok (.string read.1, read.2) := rfl
      rw [hstring] at hread
      exact tells_of_ok hread
    | number literal number => exact absurd rfl (hother number)
  | number literal number h hadmits hvalue =>
    have hnumber := (number_complete h hvalue hrest).imp
      fun hsure : ∀ literal, Admits literal → literal.IsKept => hsure literal hadmits
    obtain ⟨byte, tail, hbytes, hcases⟩ := exists_cons_of_literal h
    rw [hbytes]
    obtain ⟨hnegative, rfl, rfl⟩ | ⟨hnegative, hdigit, hunsigned⟩ := hcases
    · rw [hnegative] at hnumber
      have hread : valueWith fuel inner ('-'.toUInt8 :: (literal.unsigned ++ rest)) =
        Json.number true (literal.unsigned ++ rest) >>= fun read => .ok (.number read.1, read.2) :=
          rfl
      rw [List.cons_append, hread]
      exact hnumber.bind (tells_of_ok rfl)
    · rw [hnegative, ← hunsigned] at hnumber
      have hread : valueWith fuel inner (byte :: (tail ++ rest)) =
          Json.number false (byte :: (tail ++ rest)) >>= fun read =>
            .ok (.number read.1, read.2) := by
        have hskip : skipSpace (byte :: (tail ++ rest)) = byte :: (tail ++ rest) :=
          @skipSpace_cons [] nofun byte (opens_of_isDigit hdigit).1 (tail ++ rest)
        rw [valueWith, hskip]
        dsimp only
        rw [if_neg (ne_of_isDigit hdigit (by decide)), if_neg (ne_of_isDigit hdigit (by decide)),
          if_neg (ne_of_isDigit hdigit (by decide)), if_neg (ne_of_isDigit hdigit (by decide)),
          if_neg (ne_of_isDigit hdigit (by decide)), if_pos hdigit]
        rfl
      rw [List.cons_append, hread]
      exact hnumber.bind (tells_of_ok rfl)

/-- No member begins with anything but a quote. -/
theorem begins_isMember (Inner : Bytes → Value → Prop) :
    Begins (IsMember Inner) (· = '"'.toUInt8) where
  first {part written} h := by
    cases h with
    | colon hkey =>
      cases hkey
      exact ⟨_, _, rfl, rfl⟩
  solid {byte} h := by
    rw [h]
    decide

/-- A list or object is read. -/
theorem compound_complete {item : Reader Value} {Inner : Bytes → Value → Prop} {sure : Prop}
    (hitem : Takes sure fuel Inner item) (hbegins : Begins Inner Opens) {text : Bytes}
    (h : IsCompound Inner text read) (hfuel : text.length ≤ fuel) (rest : Bytes) :
    Tells sure (valueWith fuel (some item) (text ++ rest)) (read, rest) := by
  cases h with
  | @list body values h =>
    have hbody : body.length ≤ fuel := by
      simp only [List.length_cons, List.length_append] at hfuel
      omega
    have hvalues := (list_rowReader fuel item).complete hitem hbegins (.inl rfl) h hbody rest
    have hread : valueWith fuel (some item) ('['.toUInt8 :: (body ++ ']'.toUInt8 :: rest)) =
      items fuel item (body ++ ']'.toUInt8 :: rest) >>= fun read => .ok (.array read.1, read.2) :=
        rfl
    rw [List.cons_append, List.append_assoc, List.singleton_append, hread]
    exact hvalues.bind (tells_of_ok rfl)
  | @object body members h =>
    have hbody : body.length ≤ fuel := by
      simp only [List.length_cons, List.length_append] at hfuel
      omega
    have hmembers := (object_rowReader fuel item).complete (takes_quotedMember hitem)
      (begins_isMember Inner) (.inr rfl) h hbody rest
    have hread : valueWith fuel (some item) ('\x7b'.toUInt8 :: (body ++ '\x7d'.toUInt8 :: rest)) =
      Json.members fuel item (body ++ '\x7d'.toUInt8 :: rest) >>= fun read =>
        .ok (.object read.1, read.2) := rfl
    rw [List.cons_append, List.append_assoc, List.singleton_append, hread]
    exact hmembers.bind (tells_of_ok rfl)

/-- No value begins with white space or a bracket that closes. -/
theorem begins_isValue (Admits : Literal → Prop) (depth : Nat) :
    Begins (IsValueOf Admits depth) Opens where
  first {part value} h := by
    cases depth with
    | zero => exact begins_isScalar.first (IsScalarOf.isScalar h)
    | succ depth =>
      rcases h with h | h
      · exact begins_isScalar.first h.isScalar
      · cases h with
        | list => exact ⟨_, _, rfl, by decide, by decide⟩
        | object => exact ⟨_, _, rfl, by decide, by decide⟩
  solid h := h.1

/-- White space and a value are read if the value is. -/
theorem tells_append {inner : Option (Reader Value)} {Admits : Literal → Prop} {depth : Nat}
    {sure : Prop} {before part : Bytes} (hbefore : IsBlank before)
    (hpart : IsValueOf Admits depth part read)
    (h : Tells sure (valueWith fuel inner (part ++ rest)) (read, rest)) :
    Tells sure (valueWith fuel inner (before ++ (part ++ rest))) (read, rest) := by
  obtain ⟨byte, tail, rfl, hopens⟩ := (begins_isValue Admits depth).first hpart
  rw [valueWith_append hbefore fun given hgiven => by
    cases hgiven
    exact hopens.1]
  exact h

/-- Values are read at every depth, for sure if all admitted numbers are kept. -/
theorem takes_value (Admits : Literal → Prop) (fuel depth : Nat) :
    Takes (∀ literal, Admits literal → literal.IsKept) fuel (IsValueOf Admits depth)
      (value fuel depth) := by
  induction depth with
  | zero =>
    intro before part rest read hbefore hpart _ hrest
    exact tells_append hbefore hpart (scalar_complete hpart hrest)
  | succ depth ih =>
    intro before part rest read hbefore hpart hfuel hrest
    refine tells_append hbefore hpart ?_
    rcases hpart with hscalar | hcompound
    · exact scalar_complete hscalar hrest
    · exact compound_complete ih (begins_isValue Admits depth) hcompound hfuel rest

/-- What is read at some depth are the values whose numbers are kept. -/
theorem reads_valueOf (fuel depth : Nat) :
    Reads fuel (IsValueOf Literal.IsKept depth) (value fuel depth) := by
  induction depth with
  | zero =>
    refine ⟨fun h => ?_, fun hbefore hpart hfuel hrest =>
      (takes_value _ fuel 0 hbefore hpart hfuel hrest).yields⟩
    have hnone : ∀ item ∈ (none : Option (Reader Value)), Reads fuel IsScalar item := nofun
    obtain ⟨before, text, hbytes, hbefore, hscalar | ⟨hinner, -⟩⟩ := valueWith_sound hnone h
    · exact ⟨before, text, hbytes, hbefore, hscalar⟩
    · exact absurd rfl hinner
  | succ depth ih =>
    refine ⟨fun h => ?_, fun hbefore hpart hfuel hrest =>
      (takes_value _ fuel (depth + 1) hbefore hpart hfuel hrest).yields⟩
    have hsome : ∀ item ∈ some (value fuel depth),
        Reads fuel (IsValueOf Literal.IsKept depth) item := by
      rintro item ⟨⟩
      exact ih
    obtain ⟨before, text, hbytes, hbefore, hread⟩ := valueWith_sound hsome h
    exact ⟨before, text, hbytes, hbefore, hread.imp_right And.right⟩

end

/-! ## Texts -/

/-- No number is refused as out of range. -/
def InRange (bytes : Bytes) : Prop :=
  ∀ error, Value.parse bytes = .error error → error.cause ≠ .numberOutOfRange

section

variable {bytes : Bytes} {read : Value}

/-- What is read as a text is one whose numbers are kept. -/
theorem isTextOf_of_parse (h : Value.parse bytes = .ok read) :
    IsTextOf Literal.IsKept bytes read := by
  unfold Value.parse at h
  cases hvalue : value bytes.length depthLimit bytes with
  | error fault =>
    rw [hvalue] at h
    cases h
  | ok result =>
    obtain ⟨found, rest⟩ := result
    rw [hvalue] at h
    obtain ⟨before, part, hbytes, hbefore, hpart⟩ :=
      (reads_valueOf bytes.length depthLimit).sound hvalue
    obtain ⟨after, hrest, hafter⟩ := exists_skipSpace rest
    dsimp only at h
    cases hskip : skipSpace rest with
    | nil =>
      rw [hskip] at h hrest
      cases h
      rw [List.append_nil] at hrest
      rw [hbytes, hrest, ← List.append_assoc]
      exact .between hbefore hpart hafter
    | cons byte tail =>
      rw [hskip] at h
      cases h

/-- A text is read, unless a number is out of range. If all admitted numbers are kept, none
is. -/
theorem parse_of_isTextOf {Admits : Literal → Prop} (h : IsTextOf Admits bytes read) :
    (Value.parse bytes = .ok read ∨
      ∃ error, Value.parse bytes = .error error ∧ error.cause = .numberOutOfRange) ∧
    ((∀ literal, Admits literal → literal.IsKept) → Value.parse bytes = .ok read) := by
  cases h with
  | @between before part after _ hbefore hpart hafter =>
    have hnil : Closes after := by
      have hcloses : Closes [] := nofun
      have happend := closes_append hafter hcloses
      rwa [List.append_nil] at happend
    have hfuel : part.length ≤ (before ++ part ++ after).length := by
      simp only [List.length_append]
      omega
    have hskip : skipSpace after = [] := by
      have hall := @skipSpace_append after [] hafter nofun
      rwa [List.append_nil] at hall
    have hread := takes_value Admits (before ++ part ++ after).length depthLimit hbefore hpart
      hfuel hnil
    rw [← List.append_assoc] at hread
    have hok : ∀ bytes, value bytes.length depthLimit bytes = .ok (read, after) →
        Value.parse bytes = .ok read := fun bytes hvalue => by
      rw [Value.parse, hvalue]
      dsimp only
      rw [hskip]
    refine ⟨?_, fun hsure => hok _ (hread.given hsure)⟩
    cases hread.yields with
    | ok hread => exact .inl (hok _ hread)
    | beyond fault hfault hcause =>
      rw [Value.parse, hfault]
      exact .inr ⟨_, rfl, hcause⟩

/-- Texts whose numbers are kept are read exactly. -/
theorem parse_eq_ok_iff_isTextOf :
    Value.parse bytes = .ok read ↔ IsTextOf Literal.IsKept bytes read :=
  ⟨isTextOf_of_parse, fun h => (parse_of_isTextOf h).2 fun _ => id⟩

/-- What is read as a text is one. -/
theorem isText_of_parse (h : Value.parse bytes = .ok read) : IsText bytes read :=
  (isTextOf_of_parse h).imp fun _ _ => IsValueOf.isValue

/-- A text is read, unless a number is out of range. -/
theorem parse_of_isText (h : IsText bytes read) :
    Value.parse bytes = .ok read ∨
      ∃ error, Value.parse bytes = .error error ∧ error.cause = .numberOutOfRange :=
  (parse_of_isTextOf (h.imp fun _ _ => IsValue.admitted)).1

/-- Texts are read exactly, unless a number is out of range. -/
theorem parse_eq_ok_iff (hrange : InRange bytes) :
    Value.parse bytes = .ok read ↔ IsText bytes read := by
  refine ⟨isText_of_parse, fun h => ?_⟩
  obtain hread | ⟨error, herror, hcause⟩ := parse_of_isText h
  · exact hread
  · exact absurd hcause (hrange error herror)

end

end ProxyFilter.Json
