import BlockDiscovery.Proofs.Diagnostic.Quoting
import BlockDiscovery.Server.Stub

/-! # The quotes of the server

The server quotes a payload by a backslash before every quote and leaves backslashes as they are.
An adapter that undoes quoting takes the one before a quote, and one of every two in a row: what
comes back is the text with its pairs of backslashes made one (`unescapeQuotes_quoteQuotes`).
-/

namespace BlockDiscovery.Server

open BlockDiscovery BlockDiscovery.Json BlockDiscovery.Diagnostic

variable {c : Char} {s t : List Char}

theorem quoteQuotes_cons_quote (s : List Char) : quoteQuotes ('"' :: s) = '\\' :: '"' :: quoteQuotes s := rfl

theorem quoteQuotes_cons (h : c ≠ '"') (s : List Char) : quoteQuotes (c :: s) = c :: quoteQuotes s := by
  simp [quoteQuotes, h]

theorem quoteQuotes_append (s t : List Char) : quoteQuotes (s ++ t) = quoteQuotes s ++ quoteQuotes t :=
  List.flatMap_append

theorem quoteQuotes_of_notMem (h : '"' ∉ s) : quoteQuotes s = s := by
  induction s with
  | nil => rfl
  | cons c s ih =>
    simp only [List.mem_cons, not_or] at h
    rw [quoteQuotes_cons (Ne.symm h.1), ih h.2]

theorem quoteQuotes_payloadText (s : List Char) : quoteQuotes (payloadText s) = payloadText (quoteQuotes s) := by
  rw [payloadText, quoteQuotes_append, quoteQuotes_of_notMem (by decide), quoteQuotes_cons (by decide)]
  rfl

theorem mem_quoteQuotes (h : c ∈ quoteQuotes s) : c ∈ s ∨ c = '\\' := by
  obtain ⟨d, inside, here⟩ := List.mem_flatMap.mp h
  split at here <;> simp at here
  · obtain rfl | rfl := here <;> simp_all
  · simp_all

/-- Every quote that is left stands behind a backslash. -/
theorem backslash_of_quoteQuotes {r : List Char} (h : quoteQuotes s = t ++ '"' :: r) : ∃ front, t = front ++ ['\\'] := by
  induction s generalizing t with
  | nil => simp [quoteQuotes] at h
  | cons c s ih =>
    by_cases quote : c = '"'
    · subst quote
      rw [quoteQuotes_cons_quote] at h
      obtain _ | ⟨a, _ | ⟨b, t⟩⟩ := t
      · simp at h
      · obtain rfl : '\\' = a := by simpa using congrArg List.head? h
        exact ⟨[], rfl⟩
      · obtain ⟨rfl, rfl, later⟩ : '\\' = a ∧ '"' = b ∧ quoteQuotes s = t ++ '"' :: r := by simpa using h
        obtain ⟨front, rfl⟩ := ih later
        exact ⟨'\\' :: '"' :: front, rfl⟩
    · rw [quoteQuotes_cons quote] at h
      cases t with
      | nil => exact absurd (List.cons.inj h).1 quote
      | cons a t =>
        obtain ⟨rfl, later⟩ := List.cons.inj h
        obtain ⟨front, rfl⟩ := ih later
        exact ⟨c :: front, rfl⟩

theorem prefix_of_quoteQuotes (plain : ∀ c ∈ t, ¬ IsQuotable c) (h : t <+: quoteQuotes s) : t <+: s := by
  induction t generalizing s with
  | nil => exact List.nil_prefix
  | cons d t ih =>
    obtain ⟨first, others⟩ := List.forall_mem_cons.mp plain
    cases s with
    | nil => simp [quoteQuotes] at h
    | cons c s =>
      by_cases quote : c = '"'
      · subst quote
        rw [quoteQuotes_cons_quote, List.cons_prefix_cons] at h
        exact absurd (.inr h.1) first
      · rw [quoteQuotes_cons quote, List.cons_prefix_cons] at h
        exact List.cons_prefix_cons.mpr ⟨h.1, ih others h.2⟩

theorem hasWord_quoteQuotes (plain : ∀ c ∈ t, ¬ IsQuotable c) (filled : t ≠ [])
    (h : Text.hasWord t s = false) : Text.hasWord t (quoteQuotes s) = false := by
  induction s with
  | nil => exact h
  | cons c s ih =>
    rw [Text.hasWord, Bool.or_eq_false_iff] at h
    have later := ih h.2
    by_cases quote : c = '"'
    · subst quote
      have missing : ∀ d, IsQuotable d → ∀ rest, t.isPrefixOf (d :: rest) = false := by
        intro d quotable rest
        cases t with
        | nil => exact absurd rfl filled
        | cons a t =>
          have differs : a ≠ d := by
            rintro rfl
            exact plain a List.mem_cons_self quotable
          simp [List.isPrefixOf, differs]
      rw [quoteQuotes_cons_quote, Text.hasWord, Text.hasWord, missing _ (.inr rfl), missing _ (.inl rfl), later]
      rfl
    · have here : t.isPrefixOf (c :: quoteQuotes s) = false := by
        rw [Bool.eq_false_iff]
        intro front
        have start := List.isPrefixOf_iff_prefix.mp front
        rw [← quoteQuotes_cons quote] at start
        rw [List.isPrefixOf_iff_prefix.mpr (prefix_of_quoteQuotes plain start)] at h
        cases h.1
      rw [quoteQuotes_cons quote, Text.hasWord, here, later]
      rfl

/-! ## Pairs of backslashes -/

/-- The text with every pair of backslashes made one. -/
def merged : List Char → List Char
  | [] => []
  | [c] => [c]
  | c :: d :: rest => if c = '\\' ∧ d = '\\' then '\\' :: merged rest else c :: merged (d :: rest)

/-- Undoing the quotes that the server puts in takes a backslash from every pair that was there. -/
theorem unescapeQuotes_quoteQuotes (s : List Char) : unescapeQuotes (quoteQuotes s) = merged s := by
  fun_induction merged s with
  | case1 => rfl
  | case2 c =>
    by_cases quote : c = '"'
    · subst quote
      rfl
    · rw [quoteQuotes_cons quote]
      rfl
  | case3 c d rest pair ih =>
    obtain ⟨rfl, rfl⟩ := pair
    rw [quoteQuotes_cons (by decide), quoteQuotes_cons (by decide), unescapeQuotes_pair (.inr rfl), ih]
  | case4 c d rest other ih =>
    by_cases quote : c = '"'
    · subst quote
      rw [quoteQuotes_cons_quote, unescapeQuotes_pair (.inl rfl), ih]
    by_cases backslash : c = '\\'
    · subst backslash
      rw [quoteQuotes_cons quote]
      by_cases escaped : d = '"'
      · subst escaped
        rw [quoteQuotes_cons_quote, unescapeQuotes_pair (.inl rfl)] at ih
        rw [quoteQuotes_cons_quote, unescapeQuotes_pair (.inr rfl), unescapeQuotes_cons (by decide), ih]
      · have plain : ¬ IsQuotable d := not_or.mpr ⟨escaped, fun same => other ⟨rfl, same⟩⟩
        rw [quoteQuotes_cons escaped] at ih ⊢
        rw [unescapeQuotes_backslash plain, ih]
    · rw [quoteQuotes_cons quote, unescapeQuotes_cons backslash, ih]

theorem merged_of_single (h : ¬ ['\\', '\\'] <:+: s) : merged s = s := by
  fun_induction merged s with
  | case1 => rfl
  | case2 => rfl
  | case3 c d rest pair ih =>
    obtain ⟨rfl, rfl⟩ := pair
    exact absurd (List.prefix_append ['\\', '\\'] rest).isInfix h
  | case4 c d rest _ ih => rw [ih fun later => h (List.infix_cons later)]

theorem length_merged_le (s : List Char) : (merged s).length ≤ s.length := by
  fun_induction merged s with
  | case1 => simp
  | case2 => simp
  | case3 c d rest pair ih => simp only [List.length_cons]; omega
  | case4 c d rest _ ih => simp only [List.length_cons] at ih ⊢; omega

theorem length_merged_lt (h : ['\\', '\\'] <:+: s) : (merged s).length < s.length := by
  fun_induction merged s with
  | case1 => simp at h
  | case2 c => simpa using h.length_le
  | case3 c d rest pair ih =>
    have shorter := length_merged_le rest
    simp only [List.length_cons]
    omega
  | case4 c d rest other ih =>
    obtain front | later := List.infix_cons_iff.mp h
    · simp [List.cons_prefix_cons] at front
      exact absurd ⟨front.1.symm, front.2.symm⟩ other
    · have shorter := ih later
      simp only [List.length_cons] at shorter ⊢
      omega

end BlockDiscovery.Server
