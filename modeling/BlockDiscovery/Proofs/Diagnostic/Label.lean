import BlockDiscovery.Diagnostic.Label
import BlockDiscovery.Proofs.Text.Blank

/-! # Severity labels

A label ends in a colon, so blanks behind a text neither make nor break one.  `stripSeverity` drops blanks
and labels as long as there are any.
-/

namespace BlockDiscovery.Diagnostic

open BlockDiscovery

variable {s label rest : List Char}

/-! ## Labels -/

/-- A word that names a severity. -/
structure SeverityWord (word : List Char) : Prop where
  letters : ∀ c ∈ word, isLetter c = true
  known : severityWords.any (Text.sameIgnoringCase · word) = true

/-- A severity label, with a code in brackets or without one. -/
inductive SeverityLabel : List Char → Prop
  | bare {word : List Char} (named : SeverityWord word) : SeverityLabel (word ++ [':'])
  | coded {word code : List Char} (named : SeverityWord word) (closed : ']' ∉ code) :
      SeverityLabel (word ++ '[' :: (code ++ [']', ':']))

theorem SeverityLabel.getLast? (h : SeverityLabel label) : label.getLast? = some ':' := by
  cases h with
  | bare => simp
  | @coded word code =>
    have ending : word ++ '[' :: (code ++ [']', ':']) = (word ++ '[' :: (code ++ [']'])) ++ [':'] := by simp
    rw [ending, List.getLast?_concat]

theorem SeverityLabel.ne_nil (h : SeverityLabel label) : label ≠ [] := fun empty => by
  have last := h.getLast?
  rw [empty] at last
  cases last

theorem afterCode?_cases {t : List Char} (h : afterCode? t = some (':' :: rest)) :
    t = ':' :: rest ∨ ∃ code, ']' ∉ code ∧ t = '[' :: (code ++ [']', ':'] ++ rest) := by
  rw [afterCode?.eq_def] at h
  split at h
  · next behind =>
    obtain ⟨⟨code, after⟩, cut, same⟩ := Option.map_eq_some_iff.mp h
    obtain ⟨rfl, closed⟩ := Text.cutAt?_eq_some_iff.mp cut
    obtain rfl : after = ':' :: rest := same
    exact .inr ⟨code, closed, by simp⟩
  · exact .inl (Option.some.inj h)

theorem takeWhile_word {word : List Char} (letters : ∀ c ∈ word, isLetter c = true) {c : Char}
    (other : isLetter c = false) (behind : List Char) :
    (word ++ c :: behind).takeWhile isLetter = word ∧
      (word ++ c :: behind).dropWhile isLetter = c :: behind := by
  rw [List.takeWhile_append_of_pos letters, List.dropWhile_append_of_pos letters]
  simp [other]

/-- A text starts with a label exactly when there is something behind it. -/
theorem afterSeverity?_eq_some_iff :
    afterSeverity? s = some rest ↔ ∃ label, SeverityLabel label ∧ s = label ++ rest := by
  constructor
  · intro found
    rw [afterSeverity?] at found
    split at found
    · next known =>
      have named : SeverityWord (s.takeWhile isLetter) :=
        ⟨fun c member => List.mem_takeWhile_imp member, known⟩
      have whole := List.takeWhile_append_dropWhile (p := isLetter) (l := s)
      split at found
      · next behind after =>
        cases found
        obtain bare | ⟨code, closed, coded⟩ := afterCode?_cases after
        · refine ⟨_, .bare named, ?_⟩
          rw [List.append_assoc, List.singleton_append, ← bare, whole]
        · refine ⟨_, .coded named closed, ?_⟩
          rw [List.append_assoc, List.cons_append, ← coded, whole]
      · cases found
    · cases found
  · rintro ⟨label, isLabel, rfl⟩
    cases isLabel with
    | @bare word named =>
      obtain ⟨front, behind⟩ := takeWhile_word named.letters (c := ':') (by decide) rest
      have text : word ++ [':'] ++ rest = word ++ ':' :: rest := by simp
      rw [text, afterSeverity?, front, behind, if_pos named.known]
      rfl
    | @coded word code named closed =>
      obtain ⟨front, behind⟩ := takeWhile_word named.letters (c := '[') (by decide) (code ++ ']' :: ':' :: rest)
      have text : word ++ '[' :: (code ++ [']', ':']) ++ rest = word ++ '[' :: (code ++ ']' :: ':' :: rest) := by simp
      rw [text, afterSeverity?, front, behind, if_pos named.known, afterCode?, Text.cutAt?_append _ closed]
      rfl

theorem length_lt_of_afterSeverity? (found : afterSeverity? s = some rest) : rest.length < s.length := by
  obtain ⟨label, isLabel, rfl⟩ := afterSeverity?_eq_some_iff.mp found
  have := List.length_pos_iff.mpr isLabel.ne_nil
  rw [List.length_append]
  omega

/-! ## Stripping -/

/-- More turns than the text is long change nothing. -/
theorem dropSeverities_succ {limit : Nat} (enough : s.length ≤ limit) :
    dropSeverities (limit + 1) s = dropSeverities limit s := by
  induction limit generalizing s with
  | zero =>
    obtain rfl := List.eq_nil_of_length_eq_zero (Nat.le_zero.mp enough)
    rfl
  | succ limit ih =>
    rw [dropSeverities, dropSeverities]
    cases found : afterSeverity? (Text.trimStart s) with
    | none => rfl
    | some rest =>
      have shorter := length_lt_of_afterSeverity? found
      have most := (Text.trimStart_suffix s).length_le
      exact ih (by omega)

theorem dropSeverities_eq {limit : Nat} (enough : s.length ≤ limit) : dropSeverities limit s = stripSeverity s := by
  induction limit, enough using Nat.le_induction with
  | base => rfl
  | succ limit enough ih => rw [dropSeverities_succ enough, ih]

theorem stripSeverity_of_unlabelled (unlabelled : afterSeverity? (Text.trimStart s) = none) :
    stripSeverity s = Text.trimStart s := by
  rw [← dropSeverities_eq (Nat.le_succ s.length), dropSeverities, unlabelled]

theorem stripSeverity_of_label (isLabel : SeverityLabel label) (start : Text.trimStart s = label ++ rest) :
    stripSeverity s = stripSeverity rest := by
  have found := afterSeverity?_eq_some_iff.mpr ⟨label, isLabel, start⟩
  have shorter := length_lt_of_afterSeverity? found
  have most := (Text.trimStart_suffix s).length_le
  rw [← dropSeverities_eq (Nat.le_succ s.length), dropSeverities, found]
  exact dropSeverities_eq (by omega)

/-- What holds of texts without a label, and of a labelled text if it holds of what is behind the label,
holds of every text. -/
@[elab_as_elim]
theorem label_induction {motive : List Char → Prop}
    (unlabelled : ∀ s, afterSeverity? (Text.trimStart s) = none → motive s)
    (labelled : ∀ s label rest, SeverityLabel label → Text.trimStart s = label ++ rest → motive rest → motive s)
    (s : List Char) : motive s := by
  induction length : s.length using Nat.strong_induction_on generalizing s with
  | _ n ih =>
    cases found : afterSeverity? (Text.trimStart s) with
    | none => exact unlabelled s found
    | some rest =>
      have shorter := length_lt_of_afterSeverity? found
      have most := (Text.trimStart_suffix s).length_le
      obtain ⟨label, isLabel, start⟩ := afterSeverity?_eq_some_iff.mp found
      exact labelled s label rest isLabel start (ih rest.length (by omega) rest rfl)

theorem stripSeverity_suffix (s : List Char) : stripSeverity s <:+ s := by
  induction s using label_induction with
  | unlabelled s unlabelled =>
    rw [stripSeverity_of_unlabelled unlabelled]
    exact Text.trimStart_suffix s
  | labelled s label rest isLabel start ih =>
    rw [stripSeverity_of_label isLabel start]
    have behind : rest <:+ Text.trimStart s := ⟨label, start.symm⟩
    exact (ih.trans behind).trans (Text.trimStart_suffix s)

/-- Blanks behind a text make no label. -/
theorem afterSeverity?_append_blanks {blanks : List Char} (blank : blanks.all Text.isBlank = true)
    (unlabelled : afterSeverity? s = none) : afterSeverity? (s ++ blanks) = none := by
  refine Option.eq_none_iff_forall_ne_some.mpr fun rest found => ?_
  obtain ⟨label, isLabel, text⟩ := afterSeverity?_eq_some_iff.mp found
  have start (more : List Char) (same : s = label ++ more) : False := by
    rw [afterSeverity?_eq_some_iff.mpr ⟨label, isLabel, same⟩] at unlabelled
    cases unlabelled
  obtain ⟨more, longer, behind⟩ | ⟨more, shorter, _⟩ := List.append_eq_append_iff.mp text
  · cases last : more.getLast? with
    | none =>
      rw [List.getLast?_eq_none_iff.mp last, List.append_nil] at longer
      exact start [] (by rw [longer, List.append_nil])
    | some c =>
      have colon := isLabel.getLast?
      rw [longer, List.getLast?_append, last, Option.some_or] at colon
      have member : c ∈ blanks := behind ▸ List.mem_append_left rest (List.mem_of_getLast? last)
      have visible := List.all_eq_true.mp blank c member
      rw [Option.some.inj colon] at visible
      revert visible
      decide
  · exact start more shorter

/-- Blanks behind a text do not matter when labels are stripped. -/
theorem trim_stripSeverity_append_blanks {blanks : List Char} (blank : blanks.all Text.isBlank = true)
    (s : List Char) : Text.trim (stripSeverity (s ++ blanks)) = Text.trim (stripSeverity s) := by
  induction s using label_induction with
  | unlabelled s unlabelled =>
    by_cases filled : Text.trimStart s = []
    · have nothing : Text.trimStart (s ++ blanks) = [] := by
        rw [Text.trimStart_eq_nil_iff, List.all_append, blank, Text.trimStart_eq_nil_iff.mp filled]
        rfl
      rw [stripSeverity_of_unlabelled unlabelled, filled, stripSeverity_of_unlabelled (by rw [nothing]; rfl), nothing]
    · have later := Text.trimStart_append_of_ne_nil filled blanks
      have still := afterSeverity?_append_blanks blank unlabelled
      rw [stripSeverity_of_unlabelled unlabelled, stripSeverity_of_unlabelled (by rw [later, still]), later,
        Text.trim_append_blanks _ blank]
  | labelled s label rest isLabel start ih =>
    have filled : Text.trimStart s ≠ [] := start ▸ List.append_ne_nil_of_left_ne_nil isLabel.ne_nil rest
    have later : Text.trimStart (s ++ blanks) = label ++ (rest ++ blanks) := by
      rw [Text.trimStart_append_of_ne_nil filled, start, List.append_assoc]
    rw [stripSeverity_of_label isLabel start, stripSeverity_of_label isLabel later, ih]

theorem stripSeverity_trimStart (s : List Char) : stripSeverity (Text.trimStart s) = stripSeverity s := by
  cases found : afterSeverity? (Text.trimStart s) with
  | none =>
    rw [stripSeverity_of_unlabelled found, stripSeverity_of_unlabelled (by rwa [Text.trimStart_trimStart]),
      Text.trimStart_trimStart]
  | some rest =>
    obtain ⟨label, isLabel, start⟩ := afterSeverity?_eq_some_iff.mp found
    have again : Text.trimStart (Text.trimStart s) = label ++ rest := by rw [Text.trimStart_trimStart, start]
    rw [stripSeverity_of_label isLabel start, stripSeverity_of_label isLabel again]

end BlockDiscovery.Diagnostic
