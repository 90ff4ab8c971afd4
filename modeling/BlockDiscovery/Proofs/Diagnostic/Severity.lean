import BlockDiscovery.Proofs.Diagnostic.Label
import Mathlib

/-! # Texts behind severity labels

Stripping is a loop that drops one label after the other, with the blanks behind it, until the text
starts with none.  So every text is what is left of it behind blanks and labels, and what is left
starts with neither.
-/

namespace BlockDiscovery.Diagnostic

open BlockDiscovery

variable {s : List Char} {c : Char}

/-! ## Words in any case -/

theorem isLetter_iff : isLetter c = true ↔
    0x61 ≤ c.toNat ∧ c.toNat ≤ 0x7A ∨ 0x41 ≤ c.toNat ∧ c.toNat ≤ 0x5A := by
  simp [isLetter, Char.le_def, UInt32.le_iff_toNat_le, ← Char.toNat_val]

theorem isBlank_of_isLetter (letter : isLetter c = true) : Text.isBlank c = false := by
  have codes := isLetter_iff.mp letter
  exact Text.isBlank_of_visible (by omega) (by omega)

theorem isLetter_eq_isAlpha (c : Char) : isLetter c = c.isAlpha := by
  simp only [isLetter, Char.isAlpha, Char.isUpper, Char.isLower, Char.le_def, Bool.decide_and]
  exact Bool.or_comm _ _

theorem isLetter_toLower (c : Char) : isLetter c.toLower = isLetter c := by
  rw [isLetter_eq_isAlpha, isLetter_eq_isAlpha, Char.isAlpha_toLower_eq_isAlpha]

/-- A word that is one of the list up to case is made of letters. -/
theorem severityWord_of_known {word : List Char}
    (known : severityWords.any (Text.sameIgnoringCase · word) = true) : SeverityWord word := by
  refine ⟨fun c member => (isLetter_toLower c).symm.trans ?_, known⟩
  obtain ⟨severity, listed, same⟩ := List.any_eq_true.mp known
  have lower : c.toLower ∈ Text.asciiLower severity := by
    rw [eq_of_beq same]
    exact List.mem_map_of_mem member
  have letters : severityWords.all (fun severity => (Text.asciiLower severity).all isLetter) = true := by decide
  exact List.all_eq_true.mp (List.all_eq_true.mp letters severity listed) _ lower

theorem SeverityWord.trimStart {word : List Char} (named : SeverityWord word) (rest : List Char) :
    Text.trimStart (word ++ rest) = word ++ rest := by
  cases word with
  | nil =>
    have unknown : ¬ severityWords.any (Text.sameIgnoringCase · []) = true := by decide
    exact absurd named.known unknown
  | cons c word => exact Text.trimStart_of_head (isBlank_of_isLetter (named.letters c List.mem_cons_self))

theorem SeverityLabel.trimStart {label : List Char} (isLabel : SeverityLabel label) (rest : List Char) :
    Text.trimStart (label ++ rest) = label ++ rest := by
  cases isLabel with
  | bare named => rw [List.append_assoc, named.trimStart]
  | coded named _ => rw [List.append_assoc, named.trimStart]

/-! ## Headings -/

/-- A severity label and the blanks behind it. -/
structure Heading where
  word : List Char
  /-- What stands in brackets behind the word, if they are there. -/
  code : Option (List Char)
  blanks : List Char
  named : severityWords.any (Text.sameIgnoringCase · word) = true
  closed : ∀ inside ∈ code, ']' ∉ inside
  blank : blanks.all Text.isBlank = true

def Heading.label (h : Heading) : List Char :=
  match h.code with
  | none => h.word ++ [':']
  | some inside => h.word ++ '[' :: (inside ++ [']', ':'])

def Heading.text (h : Heading) : List Char := h.label ++ h.blanks

theorem Heading.isLabel (h : Heading) : SeverityLabel h.label := by
  have named := severityWord_of_known h.named
  rw [Heading.label]
  split
  · exact .bare named
  · next inside bracketed => exact .coded named (h.closed inside bracketed)

theorem SeverityLabel.heading {label blanks : List Char} (isLabel : SeverityLabel label)
    (blank : blanks.all Text.isBlank = true) : ∃ h : Heading, h.label = label ∧ h.blanks = blanks := by
  cases isLabel with
  | @bare word named => exact ⟨⟨word, none, blanks, named.known, nofun, blank⟩, rfl, rfl⟩
  | @coded word code named closed =>
    refine ⟨⟨word, some code, blanks, named.known, ?_, blank⟩, rfl, rfl⟩
    rintro _ ⟨⟩
    exact closed

/-- A text that does not start with a label. -/
def Unlabelled (s : List Char) : Prop := ∀ h : Heading, ¬ h.label <+: s

theorem unlabelled_iff : Unlabelled s ↔ afterSeverity? s = none := by
  rw [Option.eq_none_iff_forall_ne_some]
  constructor
  · intro unlabelled rest found
    obtain ⟨label, isLabel, rfl⟩ := afterSeverity?_eq_some_iff.mp found
    obtain ⟨h, rfl, _⟩ := isLabel.heading (rfl : List.all [] Text.isBlank = true)
    exact unlabelled h (List.prefix_append _ _)
  · rintro none h ⟨rest, rfl⟩
    exact none rest (afterSeverity?_eq_some_iff.mpr ⟨h.label, h.isLabel, rfl⟩)

/-! ## The loop -/

/-- One turn of the loop: a label at the start goes, and the blanks behind it. -/
def shed? (s : List Char) : Option (List Char) := (afterSeverity? s).map Text.trimStart

theorem shed?_eq_none_iff : shed? s = none ↔ Unlabelled s := by
  rw [shed?, Option.map_eq_none_iff, unlabelled_iff]

/-- The loop starts at the text without its leading blanks, and what it comes to is the stripped text. -/
theorem sheds_stripSeverity (s : List Char) :
    Relation.ReflTransGen (fun s t => shed? s = some t) (Text.trimStart s) (stripSeverity s) := by
  induction s using label_induction with
  | unlabelled s unlabelled => rw [stripSeverity_of_unlabelled unlabelled]
  | labelled s label rest isLabel start ih =>
    have turn : shed? (Text.trimStart s) = some (Text.trimStart rest) := by
      rw [shed?, afterSeverity?_eq_some_iff.mpr ⟨label, isLabel, start⟩, Option.map_some]
    rw [stripSeverity_of_label isLabel start]
    exact .head turn ih

theorem stripSeverity_unlabelled (s : List Char) :
    Unlabelled (stripSeverity s) ∧ Text.trimStart (stripSeverity s) = stripSeverity s := by
  induction s using label_induction with
  | unlabelled s unlabelled =>
    rw [stripSeverity_of_unlabelled unlabelled, Text.trimStart_trimStart]
    exact ⟨unlabelled_iff.mpr unlabelled, rfl⟩
  | labelled s label rest isLabel start ih => rwa [stripSeverity_of_label isLabel start]

/-- Headings are stripped, whatever blanks stand before them. -/
theorem stripSeverity_headings {lead : List Char} (blank : lead.all Text.isBlank = true) (headings : List Heading)
    (s : List Char) : stripSeverity (lead ++ (headings.flatMap Heading.text ++ s)) = stripSeverity s := by
  induction headings generalizing lead with
  | nil =>
    rw [List.flatMap_nil, List.nil_append, ← stripSeverity_trimStart, Text.trimStart_append blank,
      stripSeverity_trimStart]
  | cons h headings ih =>
    have start : Text.trimStart (lead ++ ((h :: headings).flatMap Heading.text ++ s)) =
        h.label ++ (h.blanks ++ (headings.flatMap Heading.text ++ s)) := by
      rw [Text.trimStart_append blank, List.flatMap_cons, Heading.text, List.append_assoc, List.append_assoc,
        h.isLabel.trimStart]
    rw [stripSeverity_of_label h.isLabel start, ih h.blank]

/-- What stripping takes away is blanks and headings. -/
theorem exists_headings (s : List Char) : ∃ lead, ∃ headings : List Heading, lead.all Text.isBlank = true ∧
    s = lead ++ (headings.flatMap Heading.text ++ stripSeverity s) := by
  induction s using label_induction with
  | unlabelled s unlabelled =>
    refine ⟨s.takeWhile Text.isBlank, [], List.all_takeWhile, ?_⟩
    rw [stripSeverity_of_unlabelled unlabelled]
    exact List.takeWhile_append_dropWhile.symm
  | labelled s label rest isLabel start ih =>
    obtain ⟨blanks, headings, blank, whole⟩ := ih
    obtain ⟨h, rfl, rfl⟩ := isLabel.heading blank
    refine ⟨s.takeWhile Text.isBlank, h :: headings, List.all_takeWhile, ?_⟩
    rw [stripSeverity_of_label isLabel start, List.flatMap_cons, Heading.text, List.append_assoc, List.append_assoc,
      ← whole, ← start]
    exact List.takeWhile_append_dropWhile.symm

/-- Behind blanks and any number of severity labels, with blanks behind each, a text that does not start
with a label is left, without its own leading blanks.  Every text is what is left of it behind
blanks and labels.  That starts with neither a blank nor a label, and so stays as it is when it is
stripped again.  The loop that drops one label in each turn comes to it, and ends there. -/
theorem stripSeverity_drops_headings :
    (∀ (lead : List Char) (headings : List Heading) (s : List Char), lead.all Text.isBlank = true → Unlabelled (Text.trimStart s) →
      stripSeverity (lead ++ (headings.flatMap Heading.text ++ s)) = Text.trimStart s) ∧
    ∀ s, (∃ lead, ∃ headings : List Heading, lead.all Text.isBlank = true ∧
        s = lead ++ (headings.flatMap Heading.text ++ stripSeverity s)) ∧
      (∀ c ∈ (stripSeverity s).head?, Text.isBlank c = false) ∧ Unlabelled (stripSeverity s) ∧
      stripSeverity (stripSeverity s) = stripSeverity s ∧
      Relation.ReflTransGen (fun s t => shed? s = some t) (Text.trimStart s) (stripSeverity s) ∧
      shed? (stripSeverity s) = none := by
  constructor
  · intro lead headings s blank unlabelled
    rw [stripSeverity_headings blank, stripSeverity_of_unlabelled (unlabelled_iff.mp unlabelled)]
  · intro s
    obtain ⟨unlabelled, trimmed⟩ := stripSeverity_unlabelled s
    have again : stripSeverity (stripSeverity s) = stripSeverity s := by
      rw [stripSeverity_of_unlabelled (by rw [trimmed]; exact unlabelled_iff.mp unlabelled), trimmed]
    refine ⟨exists_headings s, fun c first => ?_, unlabelled, again, sheds_stripSeverity s,
      shed?_eq_none_iff.mpr unlabelled⟩
    rw [← trimmed] at first
    exact Text.head?_trimStart first

/-- Three headings, the first with an unusual code and the second with no blanks behind it, before a
word that only starts like a label. -/
theorem stripSeverity_drops_headings_three :
    let lead := " \t".toList
    let headings : List Heading :=
      [⟨"Error".toList, some "E[0:".toList, "\u3000".toList, by decide, by simp, by decide⟩,
        ⟨"WARNING".toList, none, [], by decide, by simp, by decide⟩,
        ⟨"noTe".toList, some [], "\r\n".toList, by decide, by simp, by decide⟩]
    lead.all Text.isBlank = true ∧ Unlabelled (Text.trimStart "\u00a0errors: 3 ".toList) ∧
      lead ++ (headings.flatMap Heading.text ++ "\u00a0errors: 3 ".toList) =
        " \tError[E[0:]:\u3000WARNING:noTe[]:\r\n\u00a0errors: 3 ".toList ∧
      stripSeverity " \tError[E[0:]:\u3000WARNING:noTe[]:\r\n\u00a0errors: 3 ".toList = "errors: 3 ".toList := by
  intro lead headings
  have blank : lead.all Text.isBlank = true := by decide
  have unlabelled : Unlabelled (Text.trimStart "\u00a0errors: 3 ".toList) := unlabelled_iff.mpr (by decide)
  have text : lead ++ (headings.flatMap Heading.text ++ "\u00a0errors: 3 ".toList) =
      " \tError[E[0:]:\u3000WARNING:noTe[]:\r\n\u00a0errors: 3 ".toList := by decide
  refine ⟨blank, unlabelled, text, ?_⟩
  rw [← text, stripSeverity_drops_headings.1 lead headings _ blank unlabelled]
  decide

end BlockDiscovery.Diagnostic
