import BlockDiscovery.Proofs.Framing.Written
import BlockDiscovery.Uri.Address

/-! # Percent coding can be undone

A path segment may hold any octets.  In percent coding it consists of visible characters that
neither end a segment nor a path, and it is a dot, or two, only if its octets are.
-/

namespace BlockDiscovery.Uri

open BlockDiscovery

/-! ## Decoding -/

theorem utf8EncodeChar_of_ascii {c : Char} (ascii : c.toNat < 0x80) :
    String.utf8EncodeChar c = [UInt8.ofNat c.toNat] :=
  String.utf8EncodeChar_eq_singleton (Framing.utf8Size_ascii ascii)

theorem toNat_ofNat_of_byte {n : Nat} (byte : n < 256) : (Char.ofNat n).toNat = n := by
  have valid : n.isValidChar := .inl (Nat.lt_trans byte (by decide))
  rw [Char.ofNat, dif_pos valid]
  rfl

theorem hexUpper_ascii : ∀ n < 16, (Text.hexUpper n).toNat < 0x80 := by decide

theorem hexDigit?_hexUpper : ∀ n < 16, Text.hexDigit? (Text.hexUpper n) = some n := by decide

theorem percentDecode_plain {c : UInt8} (plain : c ≠ percentSign) (rest : List UInt8) :
    percentDecode (c :: rest) = c :: percentDecode rest := by
  match rest with
  | [] => rfl
  | [a] => rfl
  | a :: b :: rest => rw [percentDecode, if_neg plain]

theorem percentDecode_escape {a b o : UInt8} (written : octet? a b = some o) (rest : List UInt8) :
    percentDecode (percentSign :: a :: b :: rest) = o :: percentDecode rest := by
  rw [percentDecode, if_pos rfl, written]

/-- Two digits write their octet. -/
theorem octet?_hexUpper (o : UInt8) :
    octet? (UInt8.ofNat (Text.hexUpper (o.toNat / 16)).toNat) (UInt8.ofNat (Text.hexUpper (o.toNat % 16)).toNat) =
      some o := by
  have bound := o.toNat_lt
  have back (n : Nat) (digit : n < 16) :
      Text.hexDigit? (Char.ofNat (UInt8.ofNat (Text.hexUpper n).toNat).toNat) = some n := by
    have byte : (Text.hexUpper n).toNat < 256 := Nat.lt_trans (hexUpper_ascii n digit) (by decide)
    rw [UInt8.toNat_ofNat_of_lt' byte, Char.ofNat_toNat, hexDigit?_hexUpper n digit]
  rw [octet?, back _ (by omega), back _ (by omega)]
  refine congrArg some (UInt8.toNat_inj.mp ?_)
  have byte : o.toNat / 16 * 16 + o.toNat % 16 < 256 := by omega
  rw [UInt8.toNat_ofNat_of_lt' byte]
  omega

theorem isPlain_ascii {o : UInt8} (plain : isPlain o = true) : o.toNat < 0x80 ∧ o ≠ percentSign := by
  simp only [isPlain, Bool.and_eq_true, decide_eq_true_eq, Bool.not_eq_true'] at plain
  obtain ⟨⟨_, high⟩, free⟩ := plain
  refine ⟨Nat.lt_trans (UInt8.lt_iff_toNat_lt.mp high) (by decide), ?_⟩
  rintro rfl
  revert free
  decide

/-- An octet comes back, whatever stands behind it. -/
theorem percentDecode_octet (o : UInt8) (rest : List UInt8) :
    percentDecode (Text.utf8 (encodeOctet o) ++ rest) = o :: percentDecode rest := by
  rw [encodeOctet]
  split
  · next plain =>
    obtain ⟨ascii, unescaped⟩ := isPlain_ascii plain
    have same : (Char.ofNat o.toNat).toNat = o.toNat := toNat_ofNat_of_byte o.toNat_lt
    have bytes : Text.utf8 [Char.ofNat o.toNat] = [o] := by
      rw [Text.utf8, List.flatMap_singleton, utf8EncodeChar_of_ascii (by rwa [same]), same, UInt8.ofNat_toNat]
    rw [bytes]
    exact percentDecode_plain unescaped rest
  · have bound := o.toNat_lt
    have bytes : Text.utf8 ['%', Text.hexUpper (o.toNat / 16), Text.hexUpper (o.toNat % 16)] =
        [percentSign, UInt8.ofNat (Text.hexUpper (o.toNat / 16)).toNat,
          UInt8.ofNat (Text.hexUpper (o.toNat % 16)).toNat] := by
      have high := utf8EncodeChar_of_ascii (hexUpper_ascii (o.toNat / 16) (by omega))
      have low := utf8EncodeChar_of_ascii (hexUpper_ascii (o.toNat % 16) (by omega))
      have sign : String.utf8EncodeChar '%' = [percentSign] := utf8EncodeChar_of_ascii (by decide)
      simp only [Text.utf8, List.flatMap_cons, List.flatMap_nil, sign, high, low, List.cons_append, List.nil_append]
    rw [bytes]
    exact percentDecode_escape (octet?_hexUpper o) rest

theorem percentDecode_percentEncode (segment : List UInt8) :
    percentDecode (Text.utf8 (percentEncode segment)) = segment := by
  induction segment with
  | nil => rfl
  | cons o segment ih =>
    have bytes : Text.utf8 (percentEncode (o :: segment)) =
        Text.utf8 (encodeOctet o) ++ Text.utf8 (percentEncode segment) := by
      rw [percentEncode, List.flatMap_cons, Text.utf8, List.flatMap_append]
      rfl
    rw [bytes, percentDecode_octet, ih]

theorem percentEncode_eq_nil {segment : List UInt8} : percentEncode segment = [] ↔ segment = [] := by
  refine ⟨fun empty => ?_, fun empty => empty ▸ rfl⟩
  have back := percentDecode_percentEncode segment
  rw [empty] at back
  exact back.symm

/-! ## Characters -/

/-- Whether a character of an address is visible and belongs to a path segment. -/
def inSegment (c : Char) : Bool := 0x20 < c.toNat && !SchemeKind.file.separates c && !endsPath c

theorem encodeOctet_inSegment : ∀ n < 256, (encodeOctet (UInt8.ofNat n)).all inSegment = true := by
  decide +kernel

theorem percentEncode_inSegment {segment : List UInt8} {c : Char} (member : c ∈ percentEncode segment) :
    inSegment c = true := by
  obtain ⟨o, _, inside⟩ := List.mem_flatMap.mp member
  have all := encodeOctet_inSegment o.toNat o.toNat_lt
  rw [UInt8.ofNat_toNat] at all
  exact List.all_eq_true.mp all c inside

/-! ## Dots -/

/-- No escape of an octet is an escaped dot, since a dot needs none. -/
theorem escape_ne_dot : ∀ n < 256, isPlain (UInt8.ofNat n) = false →
    ¬ (Text.hexUpper (n / 16) = '2' ∧ (Text.hexUpper (n % 16) = 'e' ∨ Text.hexUpper (n % 16) = 'E')) := by
  decide +kernel

theorem plain_ne_dot : ∀ n < 256, isPlain (UInt8.ofNat n) = true → n ≠ dot.toNat →
    Char.ofNat n ≠ '.' ∧ Char.ofNat n ≠ '%' := by
  decide +kernel

theorem dropDot?_percentEncode (o : UInt8) (segment : List UInt8) :
    dropDot? (percentEncode (o :: segment)) = if o = dot then some (percentEncode segment) else none := by
  by_cases here : o = dot
  · rw [if_pos here, here]
    rfl
  · rw [if_neg here, percentEncode, List.flatMap_cons, encodeOctet]
    split
    · next plain =>
      have other : o.toNat ≠ dot.toNat := fun same => here (UInt8.toNat_inj.mp same)
      obtain ⟨noDot, noSign⟩ := plain_ne_dot o.toNat o.toNat_lt (by rwa [UInt8.ofNat_toNat]) other
      rw [List.singleton_append, dropDot?.eq_3]
      · exact fun rest first => noDot (List.cons.inj first).1
      · exact fun e rest first => noSign (List.cons.inj first).1
    · next escaped =>
      have noDot := escape_ne_dot o.toNat o.toNat_lt (by rw [UInt8.ofNat_toNat]; exact Bool.eq_false_iff.mpr escaped)
      by_cases two : Text.hexUpper (o.toNat / 16) = '2'
      · rw [two]
        exact if_neg fun digit => noDot ⟨two, digit⟩
      · rw [dropDot?.eq_3]
        · exact fun rest first => by cases first
        · exact fun e rest first => two (List.cons.inj (List.cons.inj first).2).1

theorem isDot_percentEncode {segment : List UInt8} : isDot (percentEncode segment) = true ↔ segment = [dot] := by
  cases segment with
  | nil => simp [isDot, percentEncode, dropDot?]
  | cons o segment =>
    rw [isDot, dropDot?_percentEncode]
    by_cases here : o = dot
    · simp [here, percentEncode_eq_nil]
    · simp [here]

theorem isDoubleDot_percentEncode {segment : List UInt8} :
    isDoubleDot (percentEncode segment) = true ↔ segment = [dot, dot] := by
  cases segment with
  | nil => simp [isDoubleDot, percentEncode, dropDot?]
  | cons o segment =>
    rw [isDoubleDot, dropDot?_percentEncode]
    by_cases here : o = dot
    · simp [here, isDot_percentEncode]
    · simp [here]

end BlockDiscovery.Uri
