import BlockDiscovery.Diagnostic.Payload
import Mathlib.Data.List.Basic

/-! # The first marker of a text

A word that ends in a colon, and has no other, cannot begin before an occurrence of
itself and end inside it.  So the first marker of a text is the one before which no
marker stands.
-/

namespace BlockDiscovery.Text

variable {name s before : List Char}

/-- A word with its only colon at the end does not overlap itself: at the front of a
text with the word behind it, the word lies within the text. -/
theorem prefix_of_prefix_word (single : ':' ∉ name) (filled : s ≠ []) (rest : List Char)
    (h : name ++ [':'] <+: s ++ (name ++ ':' :: rest)) : name ++ [':'] <+: s := by
  by_cases long : (name ++ [':']).length ≤ s.length
  · exact List.prefix_of_prefix_length_le h (List.prefix_append s _) long
  have reach := Nat.le_of_not_le long
  obtain ⟨tail, split⟩ := List.prefix_of_prefix_length_le (List.prefix_append s _) h reach
  have lengths := congrArg List.length split
  have some : 0 < s.length := List.length_pos_iff.mpr filled
  simp only [List.length_append, List.length_singleton] at long lengths
  have nonempty : tail ≠ [] := by
    rintro rfl
    simp only [List.length_nil] at lengths
    omega
  rw [← split, List.prefix_append_right_inj] at h
  have inside : tail <+: name :=
    List.prefix_of_prefix_length_le h (List.prefix_append name _) (by omega)
  have last := congrArg List.getLast? split
  rw [List.getLast?_append, List.getLast?_eq_some_getLast nonempty, List.getLast?_concat,
    Option.some_or, Option.some.injEq] at last
  exact absurd (inside.subset (last ▸ List.getLast_mem nonempty)) single

/-- Behind text without the word, the first occurrence is the one that follows. -/
theorem afterEach_first (single : ':' ∉ name) (h : hasWord (name ++ [':']) before = false)
    (rest : List Char) : ∃ more,
      afterEach (name ++ [':']) (before ++ (name ++ ':' :: rest)) = rest :: more := by
  induction before with
  | nil =>
    have front : (name ++ [':']).isPrefixOf? (name ++ ':' :: rest) = some rest := by simp
    cases text : name ++ ':' :: rest with
    | nil => simp at text
    | cons c behind =>
      rw [text] at front
      exact ⟨afterEach (name ++ [':']) behind, by rw [List.nil_append, afterEach, front]; rfl⟩
  | cons c before ih =>
    rw [hasWord, Bool.or_eq_false_iff] at h
    obtain ⟨more, later⟩ := ih h.2
    refine ⟨more, ?_⟩
    have none : (name ++ [':']).isPrefixOf? (c :: (before ++ (name ++ ':' :: rest))) = none := by
      rw [Option.eq_none_iff_forall_not_mem]
      intro behind found
      have found := List.isPrefixOf?_eq_some_iff_append_eq.mp found
      have here := prefix_of_prefix_word (s := c :: before) single (List.cons_ne_nil c before) rest
        ⟨behind, found⟩
      rw [List.isPrefixOf_iff_prefix.mpr here] at h
      cases h.1
    rw [List.cons_append, afterEach, none, later]
    rfl

theorem mem_afterEach (word before rest : List Char) :
    rest ∈ afterEach word (before ++ (word ++ rest)) := by
  induction before with
  | nil =>
    have front : word.isPrefixOf? (word ++ rest) = some rest := by simp
    rw [List.nil_append]
    cases text : word ++ rest with
    | nil =>
      rw [text] at front
      simp [afterEach, front]
    | cons c behind =>
      rw [text] at front
      simp [afterEach, front]
  | cons c before ih =>
    rw [List.cons_append, afterEach]
    exact List.mem_append_right _ ih

/-- A text in which the word occurs once is cut at the occurrence that is given. -/
theorem afterEach_single {word rest : List Char} (text : s = before ++ (word ++ rest))
    (single : (afterEach word s).length = 1) : afterEach word s = [rest] := by
  obtain ⟨only, cut⟩ := List.length_eq_one_iff.mp single
  have member := mem_afterEach word before rest
  rw [← text, cut] at member
  rw [cut, List.mem_singleton.mp member]

theorem hasWord_append (word before rest : List Char) :
    hasWord word (before ++ (word ++ rest)) = true := by
  induction before with
  | nil =>
    rw [List.nil_append]
    cases text : word ++ rest with
    | nil => simp [hasWord, (List.append_eq_nil_iff.mp text).1]
    | cons c behind =>
      have front : word <+: c :: behind := ⟨rest, text⟩
      rw [hasWord, List.isPrefixOf_iff_prefix.mpr front, Bool.true_or]
  | cons c before ih => rw [List.cons_append, hasWord, ih, Bool.or_true]

/-! ## Words and separators -/

variable {c : Char} {w : List Char}

theorem isPrefixOf?_append_cons (h : c ∉ w) (a b : List Char) :
    w.isPrefixOf? (a ++ c :: b) = (w.isPrefixOf? a).map (· ++ c :: b) := by
  induction w generalizing a with
  | nil => rfl
  | cons d w ih =>
    simp only [List.mem_cons, not_or] at h
    cases a with
    | nil => simp [List.isPrefixOf?, Ne.symm h.1]
    | cons e a =>
      simp only [List.cons_append, List.isPrefixOf?]
      split
      · exact ih h.2 a
      · rfl

/-- A character that is not in the word parts the text: the word is on one side of it or on the other. -/
theorem afterEach_append_cons (h : c ∉ w) (a b : List Char) :
    afterEach w (a ++ c :: b) = (afterEach w a).map (· ++ c :: b) ++ afterEach w b := by
  induction a with
  | nil =>
    have here := isPrefixOf?_append_cons h [] b
    rw [List.nil_append] at here ⊢
    rw [afterEach, afterEach, here, Option.toList_map]
  | cons d a ih =>
    have here := isPrefixOf?_append_cons h (d :: a) b
    rw [List.cons_append] at here ⊢
    rw [afterEach, here, ih, afterEach, List.map_append, Option.toList_map, List.append_assoc]

theorem afterEach_eq_nil (h : hasWord w s = false) : afterEach w s = [] := by
  induction s with
  | nil => cases w <;> simp_all [hasWord, afterEach, List.isPrefixOf?]
  | cons d s ih =>
    rw [hasWord, Bool.or_eq_false_iff] at h
    have none : w.isPrefixOf? (d :: s) = none := by
      apply Option.eq_none_iff_forall_not_mem.mpr
      intro rest found
      have front := List.isPrefixOf?_eq_some_iff_append_eq.mp found
      have start : w.isPrefixOf (d :: s) = true := List.isPrefixOf_iff_prefix.mpr ⟨rest, front⟩
      rw [start] at h
      cases h.1
    rw [afterEach, none, ih h.2]
    rfl

theorem hasWord_of_notMem (inside : c ∈ w) (h : c ∉ s) : hasWord w s = false := by
  induction s with
  | nil => cases w <;> simp_all [hasWord]
  | cons d s ih =>
    have later := ih fun member => h (List.mem_cons_of_mem d member)
    rw [hasWord, later, Bool.or_false, Bool.eq_false_iff]
    intro front
    exact h ((List.isPrefixOf_iff_prefix.mp front).subset inside)

theorem exists_of_mem_afterEach {rest : List Char} (h : rest ∈ afterEach w s) : ∃ before, s = before ++ (w ++ rest) := by
  induction s with
  | nil =>
    have found := Option.mem_toList.mp h
    exact ⟨[], (List.isPrefixOf?_eq_some_iff_append_eq.mp found).symm⟩
  | cons d s ih =>
    obtain here | later := List.mem_append.mp h
    · have found := Option.mem_toList.mp here
      exact ⟨[], (List.isPrefixOf?_eq_some_iff_append_eq.mp found).symm⟩
    · obtain ⟨before, rfl⟩ := ih later
      exact ⟨d :: before, rfl⟩

end BlockDiscovery.Text
