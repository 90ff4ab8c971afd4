import BlockDiscovery.Proofs.Uri.Percent
import Mathlib.Data.List.Infix

/-! # Texts with escapes

What a text decodes to, character by character (`Decodes`): an escape gives its octet, and every other
character its bytes.  So a dot comes from a dot or an escaped one, and a slash where none is written
comes from an escaped slash.
-/

namespace BlockDiscovery.Uri

open BlockDiscovery

variable {s : List Char} {bytes rest : List UInt8} {c : Char} {b : UInt8} {v : Nat}

/-! ## Bytes of characters -/

/-- All bytes of a character beyond ASCII have their highest bit set. -/
theorem ascii_of_mem_utf8EncodeChar (member : b ∈ String.utf8EncodeChar c) (ascii : b.toNat < 0x80) :
    c.toNat < 0x80 := by
  by_contra large
  have code : c.toNat = c.val.toNat := rfl
  have high (n : Nat) (low : 0x80 ≤ n) (byte : n < 256) : b ≠ UInt8.ofNat n := by
    rintro rfl
    rw [UInt8.toNat_ofNat_of_lt' byte] at ascii
    omega
  rw [String.utf8EncodeChar.eq_1, if_neg (by omega)] at member
  split at member
  · simp only [List.mem_cons, List.not_mem_nil, or_false] at member
    obtain same | same := member <;> exact high _ (by omega) (by omega) same
  · split at member
    · simp only [List.mem_cons, List.not_mem_nil, or_false] at member
      obtain same | same | same := member <;> exact high _ (by omega) (by omega) same
    · simp only [List.mem_cons, List.not_mem_nil, or_false] at member
      obtain same | same | same | same := member <;> exact high _ (by omega) (by omega) same

theorem eq_of_mem_utf8EncodeChar (member : b ∈ String.utf8EncodeChar c) (ascii : b.toNat < 0x80) :
    c = Char.ofNat b.toNat ∧ String.utf8EncodeChar c = [b] := by
  have low := ascii_of_mem_utf8EncodeChar member ascii
  have single := utf8EncodeChar_of_ascii low
  have own := Framing.utf8EncodeChar_ascii low member
  refine ⟨by rw [own, Char.ofNat_toNat], ?_⟩
  rw [single, ← own, UInt8.ofNat_toNat]

theorem utf8_cons (c : Char) (s : List Char) : Text.utf8 (c :: s) = String.utf8EncodeChar c ++ Text.utf8 s := rfl

/-- A text whose bytes start with one in ASCII starts with that character. -/
theorem exists_cons_of_utf8 (whole : Text.utf8 s = b :: rest) (ascii : b.toNat < 0x80) :
    ∃ t, s = Char.ofNat b.toNat :: t ∧ Text.utf8 t = rest := by
  cases s with
  | nil => cases whole
  | cons c t =>
    rw [utf8_cons] at whole
    obtain ⟨d, more, bytes⟩ := List.exists_cons_of_ne_nil (String.utf8EncodeChar_ne_nil (c := c))
    rw [bytes, List.cons_append] at whole
    obtain ⟨rfl, behind⟩ := List.cons.inj whole
    obtain ⟨same, single⟩ := eq_of_mem_utf8EncodeChar (bytes ▸ List.mem_cons_self) ascii
    rw [bytes] at single
    cases single
    exact ⟨t, by rw [same], behind⟩

/-! ## Hexadecimal digits -/

theorem hexDigit?_cases (digit : Text.hexDigit? c = some v) :
    v < 10 ∧ c.toNat = 0x30 + v ∨ 10 ≤ v ∧ v < 16 ∧ (c.toNat = 0x57 + v ∨ c.toNat = 0x37 + v) := by
  have codes : '0'.toNat = 0x30 ∧ 'a'.toNat = 0x61 ∧ 'A'.toNat = 0x41 := ⟨rfl, rfl, rfl⟩
  simp only [Text.hexDigit?, Char.le_def, UInt32.le_iff_toNat_le, Char.toNat_val] at digit
  have ends : '9'.toNat = 0x39 ∧ 'f'.toNat = 0x66 ∧ 'F'.toNat = 0x46 := ⟨rfl, rfl, rfl⟩
  split at digit
  · cases digit
    omega
  · split at digit
    · cases digit
      omega
    · split at digit
      · cases digit
        omega
      · cases digit

theorem ascii_of_hexDigit? (digit : Text.hexDigit? (Char.ofNat b.toNat) = some v) : b.toNat < 0x80 := by
  have code := hexDigit?_cases digit
  rw [toNat_ofNat_of_byte b.toNat_lt] at code
  omega

/-! ## Decoding -/

/-- What a text decodes to. -/
inductive Decodes : List Char → List UInt8 → Prop
  | nil : Decodes [] []
  | escape {high low : Char} {h l : Nat} (first : Text.hexDigit? high = some h) (second : Text.hexDigit? low = some l)
      {s : List Char} {bytes : List UInt8} (behind : Decodes s bytes) :
      Decodes ('%' :: high :: low :: s) (UInt8.ofNat (h * 16 + l) :: bytes)
  | character (c : Char) {s : List Char} {bytes : List UInt8} (behind : Decodes s bytes) :
      Decodes (c :: s) (String.utf8EncodeChar c ++ bytes)

theorem percentDecode_append_plain {front : List UInt8} (plain : percentSign ∉ front) (rest : List UInt8) :
    percentDecode (front ++ rest) = front ++ percentDecode rest := by
  induction front with
  | nil => rfl
  | cons b front ih =>
    simp only [List.mem_cons, not_or] at plain
    rw [List.cons_append, percentDecode_plain (Ne.symm plain.1), ih plain.2, List.cons_append]

theorem octet?_eq_some {a b o : UInt8} (written : octet? a b = some o) :
    ∃ h l, Text.hexDigit? (Char.ofNat a.toNat) = some h ∧ Text.hexDigit? (Char.ofNat b.toNat) = some l ∧
      o = UInt8.ofNat (h * 16 + l) := by
  rw [octet?] at written
  split at written
  · next h l first second => exact ⟨h, l, first, second, (Option.some.inj written).symm⟩
  · cases written

/-- A percent sign with two digits behind it is an escape, and any other is kept. -/
theorem percentDecode_sign (bytes : List UInt8) :
    (∃ a b o rest, bytes = a :: b :: rest ∧ octet? a b = some o ∧
      percentDecode (percentSign :: bytes) = o :: percentDecode rest) ∨
    percentDecode (percentSign :: bytes) = percentSign :: percentDecode bytes := by
  match bytes with
  | [] => exact .inr rfl
  | [a] => exact .inr rfl
  | a :: b :: rest =>
    cases written : octet? a b with
    | none =>
      rw [percentDecode, if_pos rfl, written]
      exact .inr rfl
    | some o => exact .inl ⟨a, b, o, rest, rfl, written, percentDecode_escape written rest⟩

theorem decodes (s : List Char) : Decodes s (percentDecode (Text.utf8 s)) := by
  -- on the length, since an escape takes three characters at once
  induction length : s.length using Nat.strong_induction_on generalizing s with
  | _ n ih =>
    cases s with
    | nil => exact .nil
    | cons c s =>
      rw [List.length_cons] at length
      have kept : Decodes (c :: s) (String.utf8EncodeChar c ++ percentDecode (Text.utf8 s)) :=
        .character c (ih s.length (by omega) s rfl)
      rw [utf8_cons]
      by_cases sign : percentSign ∈ String.utf8EncodeChar c
      · obtain ⟨rfl, single⟩ := eq_of_mem_utf8EncodeChar sign (by decide)
        rw [single, List.singleton_append] at kept ⊢
        obtain ⟨a, b, o, rest, bytes, written, decoded⟩ | decoded := percentDecode_sign (Text.utf8 s)
        · obtain ⟨h, l, first, second, rfl⟩ := octet?_eq_some written
          obtain ⟨t, rfl, behind⟩ := exists_cons_of_utf8 bytes (ascii_of_hexDigit? first)
          obtain ⟨u, rfl, rfl⟩ := exists_cons_of_utf8 behind (ascii_of_hexDigit? second)
          rw [decoded]
          simp only [List.length_cons] at length
          exact .escape first second (ih u.length (by omega) u rfl)
        · rwa [decoded]
      · rwa [percentDecode_append_plain sign]

/-! ## Dots and slashes -/

theorem Decodes.eq_nil (h : Decodes s []) : s = [] := by
  generalize empty : ([] : List UInt8) = bytes at h
  cases h with
  | nil => rfl
  | escape => cases empty
  | character c => exact absurd (List.append_eq_nil_iff.mp empty.symm).1 String.utf8EncodeChar_ne_nil

/-- A dot that is decoded is written as one, or escaped. -/
theorem Decodes.dropDot? (h : Decodes s (dot :: rest)) : ∃ t, Uri.dropDot? s = some t ∧ Decodes t rest := by
  generalize whole : dot :: rest = bytes at h
  cases h with
  | nil => cases whole
  | @escape high low h l first second s bytes behind =>
    obtain ⟨octet, rfl⟩ := List.cons.inj whole
    have one := hexDigit?_cases first
    have two := hexDigit?_cases second
    have value : h * 16 + l = 0x2E := by
      have same := congrArg UInt8.toNat octet
      rwa [UInt8.toNat_ofNat_of_lt' (show _ < 256 by omega), eq_comm] at same
    obtain rfl : high = '2' := Char.toNat_inj.mp (show _ = 0x32 by omega)
    have letter : low = 'e' ∨ low = 'E' := by
      obtain lower | upper : low.toNat = 0x65 ∨ low.toNat = 0x45 := by omega
      · exact .inl (Char.toNat_inj.mp lower)
      · exact .inr (Char.toNat_inj.mp upper)
    exact ⟨s, if_pos letter, behind⟩
  | @character c s bytes behind =>
    obtain ⟨d, more, encoded⟩ := List.exists_cons_of_ne_nil (String.utf8EncodeChar_ne_nil (c := c))
    rw [encoded, List.cons_append] at whole
    obtain ⟨rfl, rfl⟩ := List.cons.inj whole
    obtain ⟨rfl, single⟩ := eq_of_mem_utf8EncodeChar (encoded ▸ List.mem_cons_self) (by decide)
    rw [encoded] at single
    cases single
    exact ⟨s, rfl, behind⟩

theorem isDoubleDot_of_decodes (h : Decodes s [dot, dot]) : isDoubleDot s = true := by
  obtain ⟨t, first, behind⟩ := h.dropDot?
  obtain ⟨u, second, rest⟩ := behind.dropDot?
  rw [isDoubleDot, first, Option.any_some, isDot, second, rest.eq_nil]
  rfl

/-- An escaped slash. -/
def EscapedSlash (s : List Char) : Prop := "%2F".toList <:+: s ∨ "%2f".toList <:+: s

instance (s : List Char) : Decidable (EscapedSlash s) := inferInstanceAs (Decidable (_ ∨ _))

theorem EscapedSlash.mono {t : List Char} (h : EscapedSlash s) (part : s <:+: t) : EscapedSlash t :=
  h.imp (·.trans part) (·.trans part)

/-- A slash that is decoded is written as one, or escaped. -/
theorem Decodes.slash (h : Decodes s bytes) (member : Uri.slash ∈ bytes) : '/' ∈ s ∨ EscapedSlash s := by
  induction h with
  | nil => cases member
  | @escape high low h l first second s bytes behind ih =>
    have part : s <:+: '%' :: high :: low :: s := ⟨['%', high, low], [], by simp⟩
    obtain octet | later := List.mem_cons.mp member
    · have one := hexDigit?_cases first
      have two := hexDigit?_cases second
      have value : h * 16 + l = 0x2F := by
        have same := congrArg UInt8.toNat octet
        rwa [UInt8.toNat_ofNat_of_lt' (show _ < 256 by omega), eq_comm] at same
      obtain rfl : high = '2' := Char.toNat_inj.mp (show _ = 0x32 by omega)
      obtain lower | upper : low.toNat = 0x66 ∨ low.toNat = 0x46 := by omega
      · obtain rfl : low = 'f' := Char.toNat_inj.mp lower
        exact .inr (.inr ⟨[], s, rfl⟩)
      · obtain rfl : low = 'F' := Char.toNat_inj.mp upper
        exact .inr (.inl ⟨[], s, rfl⟩)
    · exact (ih later).imp (part.subset ·) (·.mono part)
  | @character c s bytes behind ih =>
    obtain own | later := List.mem_append.mp member
    · obtain ⟨rfl, _⟩ := eq_of_mem_utf8EncodeChar own (by decide)
      exact .inl List.mem_cons_self
    · exact (ih later).imp (List.mem_cons_of_mem c) (·.mono (List.suffix_cons c s).isInfix)

end BlockDiscovery.Uri
