import BlockDiscovery.Proofs.Text.Blank
import Mathlib.Data.List.Basic
import Mathlib.Data.List.Infix

/-! # Pieces, lines and words

A line of a text is a stretch of it, and so is a word that occurs in it.  Pieces that are joined at their
separator come apart again.
-/

namespace BlockDiscovery.Text

variable {s line piece : List Char}

theorem hasWord_iff_isInfix {word : List Char} : hasWord word s = true ↔ word <:+: s := by
  induction s with
  | nil => simp [hasWord]
  | cons c s ih => rw [hasWord, Bool.or_eq_true, List.isPrefixOf_iff_prefix, ih, List.infix_cons_iff]

/-- Every piece is a stretch of the text, and the first one is the start of it. -/
theorem pieces_isInfix (sep : Char) (s : List Char) :
    (∀ piece ∈ pieces sep s, piece <:+: s) ∧ ∀ first ∈ (pieces sep s).head?, first <+: s := by
  induction s with
  | nil => simp [pieces]
  | cons c s ih =>
    obtain ⟨inside, start⟩ := ih
    have later : ∀ piece ∈ pieces sep s, piece <:+: c :: s := fun piece member =>
      List.infix_cons (inside piece member)
    rw [pieces]
    split
    · refine ⟨List.forall_mem_cons.mpr ⟨List.nil_infix, later⟩, ?_⟩
      rintro first ⟨⟩
      exact List.nil_prefix
    split
    · next none =>
      have whole : [c] <+: c :: s := List.prefix_append [c] s
      refine ⟨List.forall_mem_singleton.mpr whole.isInfix, ?_⟩
      rintro first ⟨⟩
      exact whole
    · next front more cut =>
      rw [cut] at later start
      have longer : c :: front <+: c :: s := (List.prefix_cons_inj c).mpr (start front rfl)
      refine ⟨List.forall_mem_cons.mpr ⟨longer.isInfix, (List.forall_mem_cons.mp later).2⟩, ?_⟩
      rintro first ⟨⟩
      exact longer

theorem pieces_intercalate {sep : Char} {parts : List (List Char)} (filled : parts ≠ [])
    (single : ∀ piece ∈ parts, sep ∉ piece) : pieces sep ([sep].intercalate parts) = parts := by
  induction parts with
  | nil => exact absurd rfl filled
  | cons first more ih =>
    obtain ⟨here, later⟩ := List.forall_mem_cons.mp single
    cases more with
    | nil =>
      rw [List.intercalate_singleton]
      exact pieces_of_notMem here
    | cons second more =>
      rw [List.intercalate_cons_cons, List.append_assoc, List.singleton_append, pieces_append here,
        ih (List.cons_ne_nil second more) later]

theorem notMem_intercalate {sep c : Char} {parts : List (List Char)} (other : c ≠ sep)
    (outside : ∀ piece ∈ parts, c ∉ piece) : c ∉ [sep].intercalate parts := by
  induction parts with
  | nil => exact List.not_mem_nil
  | cons first more ih =>
    obtain ⟨here, later⟩ := List.forall_mem_cons.mp outside
    cases more with
    | nil => rwa [List.intercalate_singleton]
    | cons second more =>
      rw [List.intercalate_cons_cons, List.append_assoc, List.mem_append, List.mem_append, List.mem_singleton]
      rintro (inside | same | inside)
      · exact here inside
      · exact other same
      · exact ih later inside

theorem dropReturn_isPrefix (line : List Char) : dropReturn line <+: line := by
  rw [dropReturn]
  split
  · exact List.dropLast_prefix line
  · exact List.prefix_rfl

theorem mem_linesOfPieces {all : List (List Char)} (h : line ∈ linesOfPieces all) :
    ∃ piece ∈ all, line <+: piece := by
  induction all with
  | nil => cases h
  | cons first more ih =>
    cases more with
    | nil =>
      rw [linesOfPieces] at h
      split at h
      · cases h
      · rw [List.mem_singleton.mp h]
        exact ⟨first, List.mem_singleton_self first, List.prefix_rfl⟩
    | cons second more =>
      obtain rfl | later := List.mem_cons.mp h
      · exact ⟨first, List.mem_cons_self, dropReturn_isPrefix first⟩
      · obtain ⟨piece, member, start⟩ := ih later
        exact ⟨piece, List.mem_cons_of_mem first member, start⟩

/-- A line is a stretch of the text. -/
theorem isInfix_of_mem_lines (h : line ∈ lines s) : line <:+: s := by
  obtain ⟨piece, member, start⟩ := mem_linesOfPieces h
  exact start.isInfix.trans ((pieces_isInfix '\n' s).1 piece member)

end BlockDiscovery.Text
