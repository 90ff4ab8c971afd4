import BlockDiscovery.Text.Blank
import Mathlib.Data.List.Basic
import Mathlib.Data.List.DropRight

/-! # Laws of trimming, cutting and decimal numerals -/

namespace BlockDiscovery.Text

/-! ## Trimming -/

theorem trimStart_of_head {c : Char} {s : List Char} (h : isBlank c = false) :
    trimStart (c :: s) = c :: s := by
  simp [trimStart, h]

theorem trimStart_append {blanks s : List Char} (h : blanks.all isBlank = true) :
    trimStart (blanks ++ s) = trimStart s := by
  induction blanks with
  | nil => rfl
  | cons c blanks ih =>
    simp only [List.all_cons, Bool.and_eq_true] at h
    rw [← ih h.2]
    simp [trimStart, h.1]

theorem trimStart_append_cons {c : Char} (h : isBlank c = false) (a b : List Char) :
    trimStart (a ++ c :: b) = trimStart a ++ c :: b := by
  rw [trimStart, trimStart, List.dropWhile_append]
  split <;> simp_all

theorem trimStart_suffix (s : List Char) : trimStart s <:+ s := List.dropWhile_suffix _

theorem head?_trimStart {c : Char} {s : List Char} (first : (trimStart s).head? = some c) : isBlank c = false := by
  have start := List.head?_dropWhile_not isBlank s
  rw [trimStart] at first
  rwa [first] at start

theorem trimEnd_of_getLast {c : Char} {s : List Char} (last : s.getLast? = some c)
    (h : isBlank c = false) : trimEnd s = s := by
  obtain ⟨front, rfl⟩ := List.getLast?_eq_some_iff.mp last
  simp [trimEnd, dropEndWhile, h]

theorem trim_of_edges {c d : Char} {s : List Char} (head : s.head? = some c)
    (last : s.getLast? = some d) (hc : isBlank c = false) (hd : isBlank d = false) : trim s = s := by
  obtain ⟨rest, rfl⟩ := List.head?_eq_some_iff.mp head
  rw [trim, trimStart_of_head hc, trimEnd_of_getLast last hd]

theorem trim_cons {c : Char} {s : List Char} (h : isBlank c = true) : trim (c :: s) = trim s := by
  simp [trim, trimStart, h]

theorem trimStart_eq_nil_iff {s : List Char} : trimStart s = [] ↔ s.all isBlank = true :=
  List.dropWhile_eq_nil_iff.trans List.all_eq_true.symm

theorem trimStart_append_of_ne_nil {s : List Char} (filled : trimStart s ≠ []) (t : List Char) :
    trimStart (s ++ t) = trimStart s ++ t := by
  rw [trimStart, List.dropWhile_append, if_neg]
  · rfl
  · rwa [List.isEmpty_iff]

@[simp] theorem trimStart_trimStart (s : List Char) : trimStart (trimStart s) = trimStart s :=
  List.dropWhile_idempotent isBlank s

theorem trimEnd_append_blanks {blanks : List Char} (s : List Char) (h : blanks.all isBlank = true) :
    trimEnd (s ++ blanks) = trimEnd s := by
  have back : blanks.reverse.all isBlank = true := by rwa [List.all_reverse]
  rw [trimEnd, dropEndWhile, List.reverse_append]
  exact congrArg List.reverse (trimStart_append back)

theorem trimEnd_append_cons {c : Char} (h : isBlank c = false) (a b : List Char) :
    trimEnd (a ++ c :: b) = a ++ c :: trimEnd b := by
  have back := congrArg List.reverse (trimStart_append_cons h b.reverse a.reverse)
  simpa [trimEnd, dropEndWhile, trimStart] using back

theorem trimEnd_isPrefix (s : List Char) : trimEnd s <+: s := List.rdropWhile_prefix isBlank s

theorem trim_isInfix (s : List Char) : trim s <:+: s :=
  (trimEnd_isPrefix _).isInfix.trans (trimStart_suffix s).isInfix

theorem trim_append_blanks {blanks : List Char} (s : List Char) (h : blanks.all isBlank = true) :
    trim (s ++ blanks) = trim s := by
  by_cases filled : trimStart s = []
  · have all : trimStart (s ++ blanks) = [] := by
      rw [trimStart_eq_nil_iff, List.all_append, h, trimStart_eq_nil_iff.mp filled]
      rfl
    rw [trim, trim, filled, all]
  · rw [trim, trim, trimStart_append_of_ne_nil filled, trimEnd_append_blanks _ h]

/-- Behind a trimmed text there were only blanks. -/
theorem exists_append_trimEnd (s : List Char) : ∃ blanks, blanks.all isBlank = true ∧ s = trimEnd s ++ blanks := by
  have whole := List.takeWhile_append_dropWhile (p := isBlank) (l := s.reverse)
  refine ⟨(s.reverse.takeWhile isBlank).reverse, ?_, ?_⟩
  · rw [List.all_reverse, List.all_takeWhile]
  · rw [trimEnd, dropEndWhile, ← List.reverse_append, whole, List.reverse_reverse]

theorem isBlank_of_visible {c : Char} (low : 0x20 < c.toNat) (high : c.toNat < 0x80) :
    isBlank c = false := by
  simp only [isBlank, Bool.or_eq_false_iff, Bool.and_eq_false_iff, decide_eq_false_iff_not,
    beq_eq_false_iff_ne]
  omega

/-! ## Dropping at the edges -/

variable {p : Char → Bool} {s : List Char} {c : Char}

theorem head?_dropEdgesWhile (h : (dropEdgesWhile p s).head? = some c) : p c = false := by
  have start := List.head?_dropWhile_not p s
  obtain ⟨rest, kept⟩ := List.head?_eq_some_iff.mp h
  obtain ⟨more, whole⟩ : dropEdgesWhile p s <+: s.dropWhile p := List.rdropWhile_prefix p _
  rwa [← whole, kept] at start

theorem getLast?_dropEdgesWhile (h : (dropEdgesWhile p s).getLast? = some c) : p c = false := by
  have start := List.head?_dropWhile_not p (s.dropWhile p).reverse
  rw [dropEdgesWhile, dropEndWhile, List.getLast?_reverse] at h
  rwa [h] at start

theorem dropEndWhile_concat {d : Char} (drop : p d = true)
    (last : ∀ c, s.getLast? = some c → p c = false) : dropEndWhile p (s ++ [d]) = s := by
  have inner : (s.reverse.dropWhile p) = s.reverse := by
    cases back : s.reverse with
    | nil => rfl
    | cons c rest =>
      have kept := last c (by rw [← List.head?_reverse, back]; rfl)
      rw [List.dropWhile_cons_of_neg (by simp [kept])]
  rw [dropEndWhile, List.reverse_append, List.reverse_singleton, List.singleton_append,
    List.dropWhile_cons_of_pos drop, inner, List.reverse_reverse]

theorem dropEdgesWhile_concat {d : Char} (drop : p d = true) (head : ∀ c, s.head? = some c → p c = false)
    (last : ∀ c, s.getLast? = some c → p c = false) : dropEdgesWhile p (s ++ [d]) = s := by
  cases s with
  | nil => simp [dropEdgesWhile, dropEndWhile, drop]
  | cons c s =>
    have kept := head c rfl
    rw [dropEdgesWhile, List.cons_append, List.dropWhile_cons_of_neg (by simp [kept]), ← List.cons_append,
      dropEndWhile_concat drop last]

/-! ## Cutting -/

theorem cutAt?_append {sep : Char} {before : List Char} (after : List Char) (h : sep ∉ before) :
    cutAt? sep (before ++ sep :: after) = some (before, after) := by
  induction before with
  | nil => simp [cutAt?]
  | cons c before ih =>
    simp only [List.mem_cons, not_or] at h
    obtain ⟨differs, rest⟩ := h
    simp [cutAt?, Ne.symm differs, ih rest]

theorem cutAt?_eq_some_iff {sep : Char} {s before after : List Char} :
    cutAt? sep s = some (before, after) ↔ s = before ++ sep :: after ∧ sep ∉ before := by
  constructor
  · intro cut
    induction s generalizing before with
    | nil => cases cut
    | cons c s ih =>
      rw [cutAt?] at cut
      split at cut
      · next here =>
        cases cut
        simp [here]
      · next differs =>
        obtain ⟨⟨front, rest⟩, later, same⟩ := Option.map_eq_some_iff.mp cut
        cases same
        obtain ⟨whole, first⟩ := ih later
        simp [whole, first, Ne.symm differs]
  · rintro ⟨rfl, first⟩
    exact cutAt?_append after first

theorem cutAt?_eq_none_iff {sep : Char} {s : List Char} : cutAt? sep s = none ↔ sep ∉ s := by
  constructor
  · intro uncut member
    obtain ⟨before, after, rfl, first⟩ := List.eq_append_cons_of_mem member
    rw [cutAt?_append after first] at uncut
    cases uncut
  · intro absent
    apply Option.eq_none_iff_forall_ne_some.mpr
    rintro ⟨before, after⟩ cut
    obtain ⟨rfl, _⟩ := cutAt?_eq_some_iff.mp cut
    simp at absent

/-- A piece is made of characters of the text, and none of them is a separator. -/
theorem mem_of_mem_pieces {sep : Char} {s piece : List Char} (h : piece ∈ pieces sep s) (member : c ∈ piece) :
    c ∈ s ∧ c ≠ sep := by
  induction s generalizing piece with
  | nil =>
    obtain rfl := List.mem_singleton.mp h
    cases member
  | cons d s ih =>
    rw [pieces] at h
    split at h
    · obtain rfl | later := List.mem_cons.mp h
      · cases member
      · exact (ih later member).imp_left (List.mem_cons_of_mem d)
    next differs =>
      cases rest : pieces sep s with
      | nil =>
        rw [rest, List.mem_singleton] at h
        subst h
        obtain rfl := List.mem_singleton.mp member
        exact ⟨List.mem_cons_self, differs⟩
      | cons first more =>
        rw [rest] at h ih
        obtain rfl | later := List.mem_cons.mp h
        · obtain rfl | inside := List.mem_cons.mp member
          · exact ⟨List.mem_cons_self, differs⟩
          · exact (ih List.mem_cons_self inside).imp_left (List.mem_cons_of_mem d)
        · exact (ih (List.mem_cons_of_mem first later) member).imp_left (List.mem_cons_of_mem d)

theorem pieces_of_notMem {sep : Char} {s : List Char} (h : sep ∉ s) : pieces sep s = [s] := by
  induction s with
  | nil => rfl
  | cons c s ih =>
    simp only [List.mem_cons, not_or] at h
    simp [pieces, Ne.symm h.1, ih h.2]

theorem pieces_append {sep : Char} {s : List Char} (h : sep ∉ s) (t : List Char) :
    pieces sep (s ++ sep :: t) = s :: pieces sep t := by
  induction s with
  | nil => simp [pieces]
  | cons c s ih =>
    simp only [List.mem_cons, not_or] at h
    simp [pieces, Ne.symm h.1, ih h.2]

/-! ## Decimal numerals -/

theorem isDigit_of_mem_decimal {n : Nat} {c : Char} (h : c ∈ decimal n) : c.isDigit = true :=
  Nat.isDigit_of_mem_toDigits (by decide) (by decide) h

theorem isBlank_of_isDigit {c : Char} (h : c.isDigit = true) : isBlank c = false := by
  have bounds := Char.isDigit_iff_toNat.mp h
  have low : '0'.toNat = 0x30 := rfl
  have high : '9'.toNat = 0x39 := rfl
  exact isBlank_of_visible (by omega) (by omega)

theorem decimal_ne_nil (n : Nat) : decimal n ≠ [] := Nat.toDigits_ne_nil

theorem digitsValue_eq (ds : List Char) : digitsValue ds = Nat.ofDigitChars 10 ds 0 := by
  rw [digitsValue, Nat.ofDigitChars_eq_foldl]
  congr 1
  funext n d
  rw [Nat.mul_comm]

@[simp] theorem digitsValue_decimal (n : Nat) : digitsValue (decimal n) = n := by
  rw [digitsValue_eq, decimal, Nat.ofDigitChars_ten_toDigits]

theorem trim_decimal (n : Nat) : trim (decimal n) = decimal n := by
  have head := List.head?_eq_some_head (decimal_ne_nil n)
  have last := List.getLast?_eq_some_getLast (decimal_ne_nil n)
  exact trim_of_edges head last
    (isBlank_of_isDigit (isDigit_of_mem_decimal (List.head_mem _)))
    (isBlank_of_isDigit (isDigit_of_mem_decimal (List.getLast_mem _)))

/-- Only the numeral of zero starts with a zero. -/
theorem decimal_zero_head {n : Nat} {ds : List Char} (h : decimal n = '0' :: ds) : ds = [] := by
  induction n using Nat.strongRecOn generalizing ds with
  | ind n ih =>
    rw [decimal, Nat.toDigits_eq_if (by decide)] at h
    split at h
    next => exact (List.cons.inj h).2.symm
    next large =>
      cases front : Nat.toDigits 10 (n / 10) with
      | nil => exact absurd front Nat.toDigits_ne_nil
      | cons d more =>
        rw [front, List.cons_append] at h
        obtain ⟨rfl, rest⟩ := List.cons.inj h
        have zero := ih (n / 10) (by omega) front
        subst zero
        have value := digitsValue_decimal (n / 10)
        rw [decimal, front] at value
        simp [digitsValue] at value
        omega

end BlockDiscovery.Text
