import ProxyFilter.Proofs.Json.Numbers

/-!
# Rows of parts are read exactly

Lists and objects are both read as a row: parts between white space and commas, up to a closing
byte. What the two readers share is told once, given how they go on in front of a part, a comma
and the closing byte. A row of parts that are each read exactly is then read exactly.
-/

namespace ProxyFilter.Json

open Text Grammar

/-! ## White space -/

section

variable {before bytes rest : Bytes}

/-- White space is what is skipped. -/
theorem isBlank_iff : IsBlank before ↔ ∀ byte ∈ before, isSpace byte = true := by
  have hspace : ∀ byte : UInt8, isSpace byte = true ↔
      byte = 0x20 ∨ byte = 0x09 ∨ byte = 0x0A ∨ byte = 0x0D := fun byte => by
    simp only [isSpace, Bool.or_eq_true, beq_iff_eq]
    grind
  simp only [IsBlank, hspace]

/-- White space up to where it stops is skipped. -/
theorem skipSpace_append (hbefore : IsBlank before) (hrest : Stops isSpace rest) :
    skipSpace (before ++ rest) = rest :=
  dropWhile_of_stops (isBlank_iff.mp hbefore) hrest

/-- White space in front of a byte that is none is skipped. -/
theorem skipSpace_cons (hbefore : IsBlank before) {byte : UInt8} (hbyte : isSpace byte = false)
    (rest : Bytes) : skipSpace (before ++ byte :: rest) = byte :: rest :=
  skipSpace_append hbefore fun given hgiven => by
    cases hgiven
    exact hbyte

/-- What is skipped is white space. -/
theorem exists_skipSpace (bytes : Bytes) :
    ∃ before, bytes = before ++ skipSpace bytes ∧ IsBlank before :=
  ⟨bytes.takeWhile isSpace, List.takeWhile_append_dropWhile.symm,
    isBlank_iff.mpr fun _ => List.mem_takeWhile_imp⟩

/-- White space behind white space is white space. -/
theorem isBlank_append {after : Bytes} (hbefore : IsBlank before) (hafter : IsBlank after) :
    IsBlank (before ++ after) := by
  intro byte hbyte
  rcases List.mem_append.mp hbyte with h | h
  · exact hbefore byte h
  · exact hafter byte h

end

/-! ## Reading what is written -/

/-- A reader gives a result, unless a number is out of range. -/
inductive Yields {α : Type} (result : Except Fault α) (value : α) : Prop
  /-- The result is given. -/
  | ok (h : result = .ok value)
  /-- A number is out of range. -/
  | beyond (fault : Fault) (h : result = .error fault) (hcause : fault.cause = .numberOutOfRange)

/-- A result that is given is gone on with. -/
theorem Yields.bind {α β : Type} {result : Except Fault α} {value : α} {next : α → Except Fault β}
    {last : β} (h : Yields result value) (hnext : Yields (next value) last) :
    Yields (result >>= next) last := by
  cases h with
  | ok h =>
    rw [h]
    exact hnext
  | beyond fault h hcause =>
    rw [h]
    exact .beyond fault rfl hcause

/-- A reader gives a result, unless a number is out of range. If it is sure, then none is. -/
structure Tells {α : Type} (sure : Prop) (result : Except Fault α) (value : α) : Prop where
  /-- The result is given, or a number is out of range. -/
  yields : Yields result value
  /-- No number is out of range for a sure reader. -/
  given : sure → result = .ok value

/-- A result that is given is told. -/
theorem tells_of_ok {α : Type} {sure : Prop} {result : Except Fault α} {value : α}
    (h : result = .ok value) : Tells sure result value := ⟨.ok h, fun _ => h⟩

/-- A reader may be sure for another reason. -/
theorem Tells.imp {α : Type} {sure certain : Prop} {result : Except Fault α} {value : α}
    (himp : certain → sure) (h : Tells sure result value) : Tells certain result value :=
  ⟨h.yields, fun hcertain => h.given (himp hcertain)⟩

/-- A result that is told is gone on with. -/
theorem Tells.bind {α β : Type} {sure : Prop} {result : Except Fault α} {value : α}
    {next : α → Except Fault β} {last : β} (h : Tells sure result value)
    (hnext : Tells sure (next value) last) : Tells sure (result >>= next) last := by
  refine ⟨h.yields.bind hnext.yields, fun hsure => ?_⟩
  rw [h.given hsure]
  exact hnext.given hsure

/-- What may follow a value: nothing, white space, a comma or a closing byte. -/
def Closes (rest : Bytes) : Prop :=
  ∀ byte ∈ rest.head?, isSpace byte = true ∨ byte = ','.toUInt8 ∨ byte = ']'.toUInt8 ∨
    byte = '\x7d'.toUInt8

/-- White space does not keep a value from ending. -/
theorem closes_append {before rest : Bytes} (hbefore : IsBlank before) (hrest : Closes rest) :
    Closes (before ++ rest) := by
  cases before with
  | nil => exact hrest
  | cons byte before =>
    intro given hgiven
    cases hgiven
    exact .inl (isBlank_iff.mp hbefore byte List.mem_cons_self)

/-- A reader that takes white space and a part, and every such part of a limited length. -/
structure Reads {α : Type} (fuel : Nat) (Part : Bytes → α → Prop) (reader : Reader α) : Prop where
  /-- What is read is a part behind white space. -/
  sound : ∀ {bytes rest : Bytes} {value : α}, reader bytes = .ok (value, rest) →
    ∃ before part, bytes = before ++ (part ++ rest) ∧ IsBlank before ∧ Part part value
  /-- A part behind white space is read. -/
  complete : ∀ {before part rest : Bytes} {value : α}, IsBlank before → Part part value →
    part.length ≤ fuel → Closes rest → Yields (reader (before ++ (part ++ rest))) (value, rest)

/-- A reader that takes white space and every part of a limited length. -/
def Takes {α : Type} (sure : Prop) (fuel : Nat) (Part : Bytes → α → Prop) (reader : Reader α) :
    Prop :=
  ∀ {before part rest : Bytes} {value : α}, IsBlank before → Part part value →
    part.length ≤ fuel → Closes rest → Tells sure (reader (before ++ (part ++ rest))) (value, rest)

/-- What is read is taken, unless a number is out of range. -/
theorem Reads.takes {α : Type} {fuel : Nat} {Part : Bytes → α → Prop} {reader : Reader α}
    (h : Reads fuel Part reader) : Takes False fuel Part reader :=
  fun hbefore hpart hfuel hrest => ⟨h.complete hbefore hpart hfuel hrest, False.elim⟩

/-! ## Rows -/

/-- What follows a part of a row: white space, and behind a comma the further parts. -/
inductive IsTail {α : Type} (Part : Bytes → α → Prop) : Bytes → List α → Prop
  /-- There is no further part. -/
  | last {after : Bytes} (hafter : IsBlank after) : IsTail Part after []
  /-- There is one behind a comma. -/
  | more {after before part tail : Bytes} {value : α} {values : List α} (hafter : IsBlank after)
      (hbefore : IsBlank before) (hpart : Part part value) (htail : IsTail Part tail values) :
    IsTail Part (after ++ ','.toUInt8 :: (before ++ (part ++ tail))) (value :: values)

section

variable {α : Type} {Part : Bytes → α → Prop}

/-- A part and what follows it are parts between commas. -/
theorem separated_of_tail {before part tail : Bytes} {value : α} {values : List α}
    (hbefore : IsBlank before) (hpart : Part part value) (htail : IsTail Part tail values) :
    Separated (Padded Part) (before ++ (part ++ tail)) (value :: values) := by
  induction htail generalizing before part value with
  | last hafter =>
    rw [← List.append_assoc]
    exact .one (.between hbefore hpart hafter)
  | more hafter hnext hmore htail ih =>
    have hrest := ih hnext hmore
    have hfirst := Padded.between hbefore hpart hafter
    have hboth := Separated.more hfirst hrest
    simp only [List.append_assoc] at hboth
    exact hboth

/-- Parts between commas are a part and what follows it. -/
theorem tail_of_separated {body : Bytes} {values : List α}
    (h : Separated (Padded Part) body values) :
    ∃ before part tail value more, body = before ++ (part ++ tail) ∧ values = value :: more ∧
      IsBlank before ∧ Part part value ∧ IsTail Part tail more := by
  induction h with
  | one h =>
    cases h with
    | between hbefore hpart hafter =>
      exact ⟨_, _, _, _, _, List.append_assoc .., rfl, hbefore, hpart, .last hafter⟩
  | more hfirst hrest ih =>
    obtain ⟨next, part, tail, value, more, rfl, rfl, hnext, hpart, htail⟩ := ih
    cases hfirst with
    | between hbefore hfirst hafter =>
      refine ⟨_, _, _, _, _, ?_, rfl, hbefore, hfirst, .more hafter hnext hpart htail⟩
      simp only [List.append_assoc]

end

/-- How a row is read: a reader for its beginning, and one that goes on behind some of its parts
for a number of rounds. -/
structure RowReader {α : Type} (close : UInt8) (Opens : UInt8 → Prop) (fuel : Nat)
    (part : Reader α) (start : Reader (List α)) (more : Nat → List α → Reader (List α)) :
    Prop where
  /-- The closing byte ends a row of nothing. -/
  start_close : ∀ {bytes rest : Bytes}, skipSpace bytes = close :: rest →
    start bytes = .ok ([], rest)
  /-- A part may begin the row. -/
  start_part : ∀ {bytes rest : Bytes} {byte : UInt8}, skipSpace bytes = byte :: rest →
    Opens byte → start bytes = part (byte :: rest) >>= fun read => more fuel [read.1] read.2
  /-- Nothing else begins a row. -/
  start_only : ∀ {bytes rest : Bytes} {values : List α}, start bytes = .ok (values, rest) →
    skipSpace bytes = close :: rest ∧ values = [] ∨
      ∃ value left, part (skipSpace bytes) = .ok (value, left) ∧
        more fuel [value] left = .ok (values, rest)
  /-- The closing byte ends the row behind some parts. -/
  more_close : ∀ {rounds : Nat} {read : List α} {bytes rest : Bytes},
    skipSpace bytes = close :: rest → more (rounds + 1) read bytes = .ok (read.reverse, rest)
  /-- A comma and a part may follow some parts. -/
  more_part : ∀ {rounds : Nat} {read : List α} {bytes tail rest : Bytes} {byte : UInt8},
    skipSpace bytes = ','.toUInt8 :: tail → skipSpace tail = byte :: rest → Opens byte →
      more (rounds + 1) read bytes =
        part (byte :: rest) >>= fun next => more rounds (next.1 :: read) next.2
  /-- Nothing else follows some parts, and no round is left behind the last one. -/
  more_only : ∀ {rounds : Nat} {read values : List α} {bytes rest : Bytes},
    more rounds read bytes = .ok (values, rest) →
      skipSpace bytes = close :: rest ∧ values = read.reverse ∨
        ∃ left tail value after, rounds = left + 1 ∧ skipSpace bytes = ','.toUInt8 :: tail ∧
          part (skipSpace tail) = .ok (value, after) ∧
          more left (value :: read) after = .ok (values, rest)

/-- A byte that closes a list or an object. -/
def IsClosing (close : UInt8) : Prop := close = ']'.toUInt8 ∨ close = '\x7d'.toUInt8

/-- Every part begins with a byte that may open one, and no such byte is white space. -/
structure Begins {α : Type} (Part : Bytes → α → Prop) (Opens : UInt8 → Prop) : Prop where
  /-- A part begins with such a byte. -/
  first : ∀ {part : Bytes} {value : α}, Part part value →
    ∃ byte rest, part = byte :: rest ∧ Opens byte
  /-- Such a byte is no white space. -/
  solid : ∀ {byte : UInt8}, Opens byte → isSpace byte = false

section

variable {α : Type} {close : UInt8} {Opens : UInt8 → Prop} {fuel : Nat} {part : Reader α}
  {start : Reader (List α)} {more : Nat → List α → Reader (List α)} {Part : Bytes → α → Prop}
  {bytes rest : Bytes} {values : List α} {sure : Prop}

/-- What is read behind some parts is their tail and the closing byte. -/
theorem RowReader.more_sound (h : RowReader close Opens fuel part start more)
    (hpart : Reads fuel Part part) {rounds : Nat} {read : List α}
    (hread : more rounds read bytes = .ok (values, rest)) :
    ∃ tail further, bytes = tail ++ close :: rest ∧ IsTail Part tail further ∧
      values = read.reverse ++ further := by
  induction rounds generalizing read bytes with
  | zero =>
    obtain ⟨after, hbytes, hafter⟩ := exists_skipSpace bytes
    obtain ⟨hclose, rfl⟩ | ⟨left, tail, value, after, hrounds, -⟩ := h.more_only hread
    · rw [hclose] at hbytes
      exact ⟨after, [], hbytes, .last hafter, (List.append_nil _).symm⟩
    · cases hrounds
  | succ rounds ih =>
    obtain ⟨after, hbytes, hafter⟩ := exists_skipSpace bytes
    obtain ⟨hclose, rfl⟩ | ⟨left, tail, value, left', hrounds, hcomma, hvalue, hmore⟩ :=
      h.more_only hread
    · rw [hclose] at hbytes
      exact ⟨after, [], hbytes, .last hafter, (List.append_nil _).symm⟩
    · cases hrounds
      obtain ⟨blank, htail, hblank⟩ := exists_skipSpace tail
      obtain ⟨before, text, htext, hbefore, hpart⟩ := hpart.sound hvalue
      obtain ⟨further, others, rfl, hfurther, rfl⟩ := ih hmore
      have hbefore' := isBlank_append hblank hbefore
      refine ⟨_, value :: others, ?_, .more hafter hbefore' hpart hfurther, ?_⟩
      · rw [hbytes, hcomma, htail, htext]
        simp only [List.append_assoc, List.cons_append]
      · rw [List.reverse_cons, List.append_assoc, List.singleton_append]

/-- What is read as a row is one in front of the closing byte. -/
theorem RowReader.sound (h : RowReader close Opens fuel part start more)
    (hpart : Reads fuel Part part) (hread : start bytes = .ok (values, rest)) :
    ∃ body, bytes = body ++ close :: rest ∧ IsRow Part body values := by
  obtain ⟨blank, hbytes, hblank⟩ := exists_skipSpace bytes
  obtain ⟨hclose, rfl⟩ | ⟨value, left, hvalue, hmore⟩ := h.start_only hread
  · rw [hclose] at hbytes
    exact ⟨blank, hbytes, .empty hblank⟩
  · obtain ⟨before, text, htext, hbefore, hfirst⟩ := hpart.sound hvalue
    obtain ⟨tail, further, rfl, htail, rfl⟩ := h.more_sound hpart hmore
    refine ⟨_, ?_, .parts (separated_of_tail (isBlank_append hblank hbefore) hfirst htail)⟩
    rw [hbytes, htext]
    simp only [List.append_assoc]

/-- A part may end where its tail begins. -/
theorem closes_tail {tail : Bytes} {further : List α} (hclose : IsClosing close)
    (h : IsTail Part tail further) (rest : Bytes) : Closes (tail ++ close :: rest) := by
  cases h with
  | last hafter =>
    refine closes_append hafter fun byte hbyte => ?_
    cases hbyte
    exact .inr (.inr hclose)
  | more hafter =>
    rw [List.append_assoc]
    refine closes_append hafter fun byte hbyte => ?_
    cases hbyte
    exact .inr (.inl rfl)

/-- A closing byte is no white space. -/
theorem IsClosing.solid (h : IsClosing close) : isSpace close = false := by
  rcases h with rfl | rfl <;> decide

/-- The tail of some parts is read up to the closing byte. -/
theorem RowReader.more_complete (h : RowReader close Opens fuel part start more)
    (hpart : Takes sure fuel Part part) (hbegins : Begins Part Opens) (hclose : IsClosing close)
    {tail : Bytes} {further : List α} (htail : IsTail Part tail further) {rounds : Nat}
    (hrounds : tail.length < rounds) (hfuel : tail.length ≤ fuel) (read : List α) :
    Tells sure (more rounds read (tail ++ close :: rest)) (read.reverse ++ further, rest) := by
  induction htail generalizing rounds read with
  | last hafter =>
    obtain ⟨rounds, rfl⟩ := Nat.exists_eq_succ_of_ne_zero (Nat.ne_zero_of_lt hrounds)
    rw [List.append_nil]
    exact tells_of_ok (h.more_close (skipSpace_cons hafter hclose.solid rest))
  | @more after before text tail value values hafter hbefore htext htail ih =>
    obtain ⟨rounds, rfl⟩ := Nat.exists_eq_succ_of_ne_zero (Nat.ne_zero_of_lt hrounds)
    obtain ⟨byte, others, rfl, hopens⟩ := hbegins.first htext
    simp only [List.length_append, List.length_cons] at hrounds hfuel
    have hcomma := skipSpace_cons hafter (by decide : isSpace ','.toUInt8 = false)
      (before ++ (byte :: others ++ tail) ++ close :: rest)
    have hfirst := skipSpace_cons hbefore (hbegins.solid hopens)
      (others ++ (tail ++ close :: rest))
    have hvalue := @hpart [] (byte :: others) (tail ++ close :: rest) value nofun htext
      (by simp only [List.length_cons]; omega) (closes_tail hclose htail rest)
    have hnext := ih (by omega : tail.length < rounds) (by omega) (value :: read)
    rw [List.reverse_cons, List.append_assoc, List.singleton_append] at hnext
    rw [List.append_assoc, List.cons_append, h.more_part hcomma (by
      simpa only [List.append_assoc, List.cons_append] using hfirst) hopens]
    exact hvalue.bind hnext

/-- A row is read up to the closing byte. -/
theorem RowReader.complete (h : RowReader close Opens fuel part start more)
    (hpart : Takes sure fuel Part part) (hbegins : Begins Part Opens) (hclose : IsClosing close)
    {body : Bytes} (hbody : IsRow Part body values) (hfuel : body.length ≤ fuel) (rest : Bytes) :
    Tells sure (start (body ++ close :: rest)) (values, rest) := by
  cases hbody with
  | empty hblank => exact tells_of_ok (h.start_close (skipSpace_cons hblank hclose.solid rest))
  | parts hparts =>
    obtain ⟨before, text, tail, value, further, rfl, rfl, hbefore, htext, htail⟩ :=
      tail_of_separated hparts
    obtain ⟨byte, others, rfl, hopens⟩ := hbegins.first htext
    simp only [List.length_append, List.length_cons] at hfuel
    have hfirst := skipSpace_cons hbefore (hbegins.solid hopens)
      (others ++ (tail ++ close :: rest))
    have hvalue := @hpart [] (byte :: others) (tail ++ close :: rest) value nofun htext
      (by simp only [List.length_cons]; omega) (closes_tail hclose htail rest)
    have hnext : Tells sure (more fuel [value] (tail ++ close :: rest)) (value :: further, rest) :=
      h.more_complete hpart hbegins hclose htail (by omega) (by omega) [value]
    rw [h.start_part (by
      simpa only [List.append_assoc, List.cons_append] using hfirst) hopens]
    exact hvalue.bind hnext

end

end ProxyFilter.Json
