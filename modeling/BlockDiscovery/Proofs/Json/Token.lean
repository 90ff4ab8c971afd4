import BlockDiscovery.Json.Printer
import BlockDiscovery.Json.Reader
import BlockDiscovery.Proofs.Text.Blank

/-! # Reading back the tokens that the printer writes

A string literal is read strictly as the string that was quoted, and passed over
loosely to the same place.  The numeral of an exact integer is read as that integer,
provided that what follows cannot go on with it (`Stops`).
-/

namespace BlockDiscovery.Json

open BlockDiscovery

/-! ## String literals -/

/-- A character that stands for itself inside a string literal. -/
def IsPlain (c : Char) : Prop := c ≠ '"' ∧ c ≠ '\\' ∧ ¬ c.toNat < 0x20

theorem hexDigit?_hexLower : ∀ n < 16, Text.hexDigit? (Text.hexLower n) = some n := by decide

theorem codeUnit?_escape {c : Char} (h : c.toNat < 0x20) :
    codeUnit? '0' '0' (Text.hexLower (c.toNat / 16)) (Text.hexLower (c.toNat % 16)) = some c.toNat := by
  have zero : Text.hexDigit? '0' = some 0 := by decide
  have high := hexDigit?_hexLower (c.toNat / 16) (by omega)
  have low := hexDigit?_hexLower (c.toNat % 16) (by omega)
  simp only [codeUnit?, zero, high, low, Option.bind_eq_bind, Option.bind_some, Option.pure_def,
    Option.some.injEq]
  omega

/-- The printer writes a character behind a backslash, by number, or as itself. -/
theorem escape_cases (c : Char) :
    (∃ e, escape c = ['\\', e] ∧ escaped? e = some c) ∨
    (escape c = ['\\', 'u', '0', '0', Text.hexLower (c.toNat / 16), Text.hexLower (c.toNat % 16)] ∧
      c.toNat < 0x20) ∨
    (escape c = [c] ∧ IsPlain c) := by
  by_cases quote : c = '"'
  · exact .inl ⟨'"', by simp [escape, quote], by simp [escaped?, quote]⟩
  by_cases backslash : c = '\\'
  · exact .inl ⟨'\\', by simp [escape, backslash], by simp [escaped?, backslash]⟩
  by_cases feed : c = '\n'
  · exact .inl ⟨'n', by simp [escape, feed], by simp [escaped?, feed]⟩
  by_cases ret : c = '\r'
  · exact .inl ⟨'r', by simp [escape, ret], by simp [escaped?, ret]⟩
  by_cases tab : c = '\t'
  · exact .inl ⟨'t', by simp [escape, tab], by simp [escaped?, tab]⟩
  by_cases back : c = '\x08'
  · exact .inl ⟨'b', by simp [escape, back], by simp [escaped?, back]⟩
  by_cases form : c = '\x0c'
  · exact .inl ⟨'f', by simp [escape, form], by simp [escaped?, form]⟩
  by_cases control : c.toNat < 0x20
  · exact .inr (.inl ⟨by simp [escape, quote, backslash, feed, ret, tab, back, form, control], control⟩)
  · exact .inr (.inr ⟨by simp [escape, quote, backslash, feed, ret, tab, back, form, control],
      quote, backslash, control⟩)

theorem escaped?_ne_unicode {e c : Char} (h : escaped? e = some c) : e ≠ 'u' := by
  rintro rfl
  simp [escaped?] at h

theorem readString_quote (done rest : List Char) :
    readString done ('"' :: rest) = .ok (done.reverse, rest) := by
  rw [readString.eq_def]
  rfl

theorem readString_plain {c : Char} (done rest : List Char) (h : IsPlain c) :
    readString done (c :: rest) = readString (c :: done) rest := by
  rw [readString.eq_def]
  simp only [h.1, h.2.1, h.2.2, if_false]

theorem readString_short {e c : Char} (done rest : List Char) (h : escaped? e = some c) :
    readString done ('\\' :: e :: rest) = readString (c :: done) rest := by
  have other := escaped?_ne_unicode h
  rw [readString.eq_def]
  simp [h, other]

theorem readString_unit {h₁ h₂ h₃ h₄ : Char} {unit : Nat} (done rest : List Char)
    (h : codeUnit? h₁ h₂ h₃ h₄ = some unit) (small : unit < 0xD800) :
    readString done ('\\' :: 'u' :: h₁ :: h₂ :: h₃ :: h₄ :: rest) =
      readString (Char.ofNat unit :: done) rest := by
  -- below the surrogates the unit is the character, so no second escape is looked for
  have low : isLowSurrogate unit = false := by simp [isLowSurrogate]; omega
  have high : isHighSurrogate unit = false := by simp [isHighSurrogate]; omega
  rw [readString.eq_def]
  simp [h, low, high]

theorem passString_quote (rest : List Char) : passString ('"' :: rest) = .ok rest := by
  rw [passString.eq_def]
  rfl

theorem passString_plain {c : Char} (rest : List Char) (h : IsPlain c) :
    passString (c :: rest) = passString rest := by
  rw [passString.eq_def]
  simp only [h.1, h.2.1, h.2.2, if_false]

theorem passString_short {e c : Char} (rest : List Char) (h : escaped? e = some c) :
    passString ('\\' :: e :: rest) = passString rest := by
  have other := escaped?_ne_unicode h
  rw [passString.eq_def]
  simp [h, other]

theorem passString_unit {h₁ h₂ h₃ h₄ : Char} {unit : Nat} (rest : List Char)
    (h : codeUnit? h₁ h₂ h₃ h₄ = some unit) :
    passString ('\\' :: 'u' :: h₁ :: h₂ :: h₃ :: h₄ :: rest) = passString rest := by
  rw [passString.eq_def]
  simp [h]

theorem readString_escape (c : Char) (done rest : List Char) :
    readString done (escape c ++ rest) = readString (c :: done) rest := by
  obtain ⟨e, text, names⟩ | ⟨text, control⟩ | ⟨text, plain⟩ := escape_cases c
  · rw [text]
    exact readString_short done rest names
  · rw [text]
    have read := readString_unit done rest (codeUnit?_escape control) (by omega)
    rwa [Char.ofNat_toNat] at read
  · rw [text]
    exact readString_plain done rest plain

theorem passString_escape (c : Char) (rest : List Char) :
    passString (escape c ++ rest) = passString rest := by
  obtain ⟨e, text, names⟩ | ⟨text, control⟩ | ⟨text, plain⟩ := escape_cases c
  · rw [text]
    exact passString_short rest names
  · rw [text]
    exact passString_unit rest (codeUnit?_escape control)
  · rw [text]
    exact passString_plain rest plain

theorem readString_escapes (s done rest : List Char) :
    readString done (s.flatMap escape ++ '"' :: rest) = .ok (done.reverse ++ s, rest) := by
  induction s generalizing done with
  | nil => simpa using readString_quote done rest
  | cons c s ih =>
    rw [List.flatMap_cons, List.append_assoc, readString_escape, ih]
    simp

theorem passString_escapes (s rest : List Char) :
    passString (s.flatMap escape ++ '"' :: rest) = .ok rest := by
  induction s with
  | nil => exact passString_quote rest
  | cons c s ih => rw [List.flatMap_cons, List.append_assoc, passString_escape, ih]

/-- What the printer quotes is read as the string that was quoted. -/
theorem readLiteral_quote (s : String) (rest : List Char) :
    readLiteral (s.toList.flatMap escape ++ '"' :: rest) = .ok (.ok s, rest) := by
  simp only [readLiteral, passString_escapes, readString_escapes]
  simp [Except.map]

/-! ## Numerals -/

/-- A text that cannot go on with the numeral before it. -/
def Stops (rest : List Char) : Prop :=
  ∀ c more, rest = c :: more → isDigit c = false ∧ c ≠ '.' ∧ c ≠ 'e' ∧ c ≠ 'E'

theorem stops_nil : Stops [] := by
  intro c more h
  cases h

theorem stops_cons {c : Char} {rest : List Char} (digit : isDigit c = false)
    (other : c ≠ '.' ∧ c ≠ 'e' ∧ c ≠ 'E') : Stops (c :: rest) := by
  intro c' more h
  obtain ⟨rfl, rfl⟩ := List.cons.inj h
  exact ⟨digit, other⟩

theorem takeDigits_append {ds rest : List Char} (digits : ∀ d ∈ ds, isDigit d = true)
    (stops : Stops rest) : takeDigits (ds ++ rest) = (ds, rest) := by
  have none : rest.takeWhile isDigit = [] ∧ rest.dropWhile isDigit = rest := by
    cases rest with
    | nil => exact ⟨rfl, rfl⟩
    | cons c more => simp [(stops c more rfl).1]
  rw [takeDigits, List.takeWhile_append_of_pos digits, List.dropWhile_append_of_pos digits, none.1,
    none.2, List.append_nil]

theorem isDigit_of_mem_decimal {n : Nat} : ∀ d ∈ Text.decimal n, isDigit d = true :=
  fun _ member => Text.isDigit_of_mem_decimal member

theorem readWhole_decimal {n : Nat} {rest : List Char} (stops : Stops rest) :
    readWhole (Text.decimal n ++ rest) = .ok (Text.decimal n, rest) := by
  unfold readWhole
  rw [takeDigits_append isDigit_of_mem_decimal stops]
  split
  next empty => exact absurd (Prod.mk.inj empty).1 (Text.decimal_ne_nil n)
  -- only zero is written with a leading zero, and then there is no second digit
  next long => exact absurd (Text.decimal_zero_head (Prod.mk.inj long).1) (by simp)
  next same =>
    obtain ⟨rfl, rfl⟩ := Prod.mk.inj same
    rfl

theorem readFraction_of_stops {rest : List Char} (stops : Stops rest) :
    readFraction rest = .ok (none, rest) := by
  unfold readFraction
  split
  next more => exact absurd rfl (stops _ _ rfl).2.1
  next => rfl

theorem readExponent_of_stops {rest : List Char} (stops : Stops rest) :
    readExponent rest = .ok (none, rest) := by
  cases rest with
  | nil => rfl
  | cons c more =>
    obtain ⟨_, _, lower, upper⟩ := stops c more rfl
    simp [readExponent, lower, upper]

theorem decimal_head (n : Nat) :
    ∃ d ds, Text.decimal n = d :: ds ∧ isDigit d = true := by
  cases text : Text.decimal n with
  | nil => exact absurd text (Text.decimal_ne_nil n)
  | cons d ds => exact ⟨d, ds, rfl, isDigit_of_mem_decimal d (by rw [text]; exact List.mem_cons_self)⟩

theorem readNumeral_integerText {n : Int} {rest : List Char} (stops : Stops rest) :
    readNumeral (integerText n ++ rest) =
      .ok (⟨n < 0, Text.decimal n.natAbs, none, none⟩, rest) := by
  have whole := readWhole_decimal (n := n.natAbs) stops
  have fraction := readFraction_of_stops stops
  have exponent := readExponent_of_stops stops
  by_cases negative : n < 0
  · simp [integerText, readNumeral, negative, whole, fraction, exponent, bind, Except.bind, pure,
      Except.pure]
  · obtain ⟨d, ds, text, digit⟩ := decimal_head n.natAbs
    have unsigned : d ≠ '-' := by
      rintro rfl
      exact absurd digit (by decide)
    rw [text, List.cons_append] at whole
    simp [integerText, readNumeral, negative, text, unsigned, whole, fraction, exponent, bind,
      Except.bind, pure, Except.pure]

theorem le_foldl_digits (ds : List Char) (start : Nat) :
    start ≤ ds.foldl (fun n d => n * 10 + (d.toNat - '0'.toNat)) start := by
  induction ds generalizing start with
  | nil => exact Nat.le_refl _
  | cons d ds ih =>
    have := ih (start * 10 + (d.toNat - '0'.toNat))
    rw [List.foldl_cons]
    omega

theorem takeSignificand_eq {ds : List Char} {start : Nat}
    (h : ds.foldl (fun n d => n * 10 + (d.toNat - '0'.toNat)) start < 0x1_0000_0000_0000_0000) :
    takeSignificand start ds =
      (ds.foldl (fun n d => n * 10 + (d.toNat - '0'.toNat)) start, ds.length, 0) := by
  induction ds generalizing start with
  | nil => rfl
  | cons d ds ih =>
    rw [List.foldl_cons] at h ⊢
    have small := Nat.lt_of_le_of_lt (le_foldl_digits ds _) h
    simp only [takeSignificand, small, if_true, ih h, List.length_cons]

theorem takeSignificand_decimal {n : Nat} (h : n < 0x1_0000_0000_0000_0000) :
    takeSignificand 0 (Text.decimal n) = (n, (Text.decimal n).length, 0) := by
  have value := Text.digitsValue_decimal n
  rw [Text.digitsValue] at value
  have taken := @takeSignificand_eq (Text.decimal n) 0 (by rwa [value])
  rwa [value] at taken

theorem numeral_value {n : Int} (exact : Number.exactRange n) :
    Numeral.value? ⟨n < 0, Text.decimal n.natAbs, none, none⟩ = some (.int n) := by
  obtain ⟨low, high⟩ := exact
  have taken := takeSignificand_decimal (n := n.natAbs) (by omega)
  unfold Numeral.value?
  simp only [taken, Option.isNone_none, if_true, and_self, decide_eq_true_eq]
  -- the two bounds differ: the least value has no positive counterpart of its own sign
  by_cases negative : n < 0
  · have bounds : 0 < n.natAbs ∧ n.natAbs ≤ 0x8000_0000_0000_0000 := by omega
    have value : -(n.natAbs : Int) = n := by omega
    rw [if_pos negative, if_pos bounds, value]
  · have value : (n.natAbs : Int) = n := by omega
    rw [if_neg negative, value]

/-- What the printer writes for an exact integer is read as that integer. -/
theorem readNumber_integerText {n : Int} {rest : List Char} (exact : Number.exactRange n)
    (stops : Stops rest) :
    readNumber (integerText n ++ rest) = ⟨.number (.ok (.int n)), some rest⟩ := by
  simp only [readNumber, readNumeral_integerText stops, numeral_value exact]

end BlockDiscovery.Json
