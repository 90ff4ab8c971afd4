import BlockDiscovery.Proofs.Diagnostic.Escape

/-! # Runs and escape sequences

A coloured text is made of plain runs and whole escape sequences, in any order: a control
sequence, a control string, a charset designation, or the escape character with any other
character behind it.  Stripping leaves its runs.  Of any text, one that ends inside a sequence
too, stripping leaves some of the characters in their order.
-/

namespace BlockDiscovery.Diagnostic

/-! ## Pieces of a coloured text -/

/-- What opens a control sequence: two characters, or one. -/
inductive Introducer where
  | pair
  | single

def Introducer.text : Introducer → List Char
  | .pair => [esc, '[']
  | .single => [singleIntroducer]

/-- What ends a control string. -/
inductive Terminator where
  | bell
  | escaped

def Terminator.text : Terminator → List Char
  | .bell => [Diagnostic.bell]
  | .escaped => [esc, '\\']

/-- A plain run or one whole escape sequence. -/
inductive Piece where
  | run (text : List Char) (visible : esc ∉ text ∧ singleIntroducer ∉ text)
  | sequence (opening : Introducer) (parameters : List Char) (final : Char)
      (inside : ∀ c ∈ parameters, ¬ ('@' ≤ c ∧ c ≤ '~')) (last : '@' ≤ final ∧ final ≤ '~')
  | controlString (opener : Char) (content : List Char) (ending : Terminator)
      (opens : opener ∈ [']', 'P', 'X', '^', '_'])
      (inside : bell ∉ content ∧ ¬ [esc, '\\'] <:+: content)
  | designation (opener charset : Char) (designates : opener ∈ ['(', ')', '*', '+'])
  | pair (c : Char) (other : c ∉ ['[', ']', 'P', 'X', '^', '_', '(', ')', '*', '+'])

namespace Piece

/-- The characters of a piece. -/
def text : Piece → List Char
  | run text _ => text
  | sequence opening parameters final _ _ => opening.text ++ (parameters ++ [final])
  | controlString opener content ending _ _ => esc :: opener :: (content ++ ending.text)
  | designation opener charset _ => [esc, opener, charset]
  | pair c _ => [esc, c]

/-- The characters of a piece that are shown. -/
def shown : Piece → List Char
  | run text _ => text
  | sequence .. | controlString .. | designation .. | pair .. => []

end Piece

/-! ## Scanning a sequence -/

/-- From one state a scan goes to another and keeps nothing of the text. -/
def Skips (a b : EscapeState) (s : List Char) : Prop :=
  ∀ rest, keptFrom a (s ++ rest) = keptFrom b rest

variable {a b d : EscapeState} {c : Char} {s t : List Char}

theorem Skips.nil (a : EscapeState) : Skips a a [] := fun _ => rfl

theorem Skips.cons (step : a.next c = (b, false)) (later : Skips b d s) : Skips a d (c :: s) := by
  intro rest
  rw [List.cons_append, keptFrom, step]
  exact later rest

theorem Skips.append (first : Skips a b s) (second : Skips b d t) : Skips a d (s ++ t) := by
  intro rest
  rw [List.append_assoc, first, second]

theorem skips_introducer (opening : Introducer) : Skips .plain .sequence opening.text := by
  cases opening with
  | pair => exact .cons (b := .opened) rfl (.cons rfl (.nil _))
  | single => exact .cons rfl (.nil _)

theorem skips_parameters (inside : ∀ c ∈ s, ¬ ('@' ≤ c ∧ c ≤ '~')) : Skips .sequence .sequence s := by
  induction s with
  | nil => exact .nil _
  | cons c s ih =>
    have first := inside c List.mem_cons_self
    have step : EscapeState.sequence.next c = (.sequence, false) := by
      simp [EscapeState.next, endsControlSequence, first]
    exact .cons step (ih fun d member => inside d (List.mem_cons_of_mem c member))

theorem skips_final (last : '@' ≤ c ∧ c ≤ '~') : Skips .sequence .plain [c] :=
  .cons (by simp [EscapeState.next, endsControlSequence, last]) (.nil _)

/-- Inside a control string, behind an escape character or not. -/
def InString (a : EscapeState) : Prop := a = .controlString ∨ a = .controlStringEscape

theorem next_inString (inString : InString a) (quiet : c ≠ bell)
    (unended : a = .controlStringEscape → c ≠ '\\') :
    a.next c = (if c = esc then .controlStringEscape else .controlString, false) := by
  obtain rfl | rfl := inString
  · simp [EscapeState.next, quiet]
  · simp [EscapeState.next, quiet, unended]

/-- Content leaves a scan inside its control string.  It may end in an escape character, and then
the scan is behind one. -/
theorem skips_content (inString : InString a) (quiet : bell ∉ s) (unended : ¬ [esc, '\\'] <:+: s)
    (first : a = .controlStringEscape → s.head? ≠ some '\\') : ∃ b, InString b ∧ Skips a b s := by
  -- `first` says of the escape character before `s` what `unended` says of those in `s`
  induction s generalizing a with
  | nil => exact ⟨a, inString, .nil a⟩
  | cons c s ih =>
    simp only [List.mem_cons, not_or] at quiet
    have step := next_inString inString (Ne.symm quiet.1) (by simpa using first)
    have shorter : ¬ [esc, '\\'] <:+: s := fun inner => unended (inner.trans (List.suffix_cons c s).isInfix)
    have next : InString (if c = esc then .controlStringEscape else .controlString) := by
      split
      · exact .inr rfl
      · exact .inl rfl
    obtain ⟨b, inside, skips⟩ := ih next quiet.2 shorter (by
      intro behind backslash
      obtain ⟨s, rfl⟩ := List.head?_eq_some_iff.mp backslash
      split at behind
      · next escape =>
        subst escape
        exact unended ⟨[], s, rfl⟩
      · cases behind)
    exact ⟨b, inside, .cons step skips⟩

theorem skips_terminator (inString : InString a) (ending : Terminator) : Skips a .plain ending.text := by
  cases ending with
  | bell => obtain rfl | rfl := inString <;> exact .cons rfl (.nil _)
  | escaped =>
    obtain rfl | rfl := inString <;> exact .cons (b := .controlStringEscape) rfl (.cons rfl (.nil _))

theorem skips_controlString {opener : Char} (opens : opener ∈ [']', 'P', 'X', '^', '_'])
    (quiet : bell ∉ s) (unended : ¬ [esc, '\\'] <:+: s) (ending : Terminator) :
    Skips .plain .plain (esc :: opener :: (s ++ ending.text)) := by
  have opened : EscapeState.opened.next opener = (.controlString, false) := by
    simp only [List.mem_cons, List.not_mem_nil, or_false] at opens
    obtain rfl | rfl | rfl | rfl | rfl := opens <;> rfl
  obtain ⟨b, inside, skips⟩ := skips_content (.inl rfl) quiet unended (by simp)
  exact .cons rfl (.cons opened (skips.append (skips_terminator inside ending)))

theorem skips_designation {opener : Char} (designates : opener ∈ ['(', ')', '*', '+']) (charset : Char) :
    Skips .plain .plain [esc, opener, charset] := by
  have opened : EscapeState.opened.next opener = (.charset, false) := by
    simp only [List.mem_cons, List.not_mem_nil, or_false] at designates
    obtain rfl | rfl | rfl | rfl := designates <;> rfl
  exact .cons rfl (.cons opened (.cons rfl (.nil _)))

theorem skips_pair (other : c ∉ ['[', ']', 'P', 'X', '^', '_', '(', ')', '*', '+']) :
    Skips .plain .plain [esc, c] := by
  have opened : EscapeState.opened.next c = (.plain, false) := by
    simp only [List.mem_cons, List.not_mem_nil, or_false, not_or] at other
    simp [EscapeState.next, opensControlString, designatesCharset, other]
  exact .cons rfl (.cons opened (.nil _))

/-! ## Stripping -/

theorem Piece.kept (piece : Piece) (rest : List Char) :
    keptFrom .plain (piece.text ++ rest) = piece.shown ++ keptFrom .plain rest := by
  cases piece with
  | run text visible =>
    have plain : ∀ c ∈ text, isPlain c = true := by
      intro c member
      have notEsc : c ≠ esc := fun same => visible.1 (same ▸ member)
      have notSingle : c ≠ singleIntroducer := fun same => visible.2 (same ▸ member)
      simp [isPlain, notEsc, notSingle]
    exact keptFrom_plain_append plain rest
  | sequence opening parameters final inside last =>
    exact (skips_introducer opening).append ((skips_parameters inside).append (skips_final last)) rest
  | controlString opener content ending opens inside =>
    exact skips_controlString opens inside.1 inside.2 ending rest
  | designation opener charset designates => exact skips_designation designates charset rest
  | pair c other => exact skips_pair other rest

theorem keptFrom_sublist (a : EscapeState) (s : List Char) : (keptFrom a s).Sublist s := by
  induction s generalizing a with
  | nil => exact .slnil
  | cons c s ih =>
    rw [keptFrom]
    split
    · next b _ => exact (ih b).cons_cons c
    · next b _ => exact (ih b).cons c

/-- Of a text made of runs and escape sequences the runs are left.  Of any text some of the
characters are left, in their order, and none that opens an escape sequence; so there is nothing
for a second stripping to take away. -/
theorem stripEscapes_leaves_runs :
    (∀ pieces : List Piece, stripEscapes (pieces.flatMap Piece.text) = pieces.flatMap Piece.shown) ∧
    ∀ s, (stripEscapes s).Sublist s ∧ esc ∉ stripEscapes s ∧ singleIntroducer ∉ stripEscapes s ∧
      stripEscapes (stripEscapes s) = stripEscapes s := by
  constructor
  · intro pieces
    induction pieces with
    | nil => rfl
    | cons piece pieces ih =>
      rw [List.flatMap_cons, List.flatMap_cons, stripEscapes, piece.kept, ← stripEscapes, ih]
  · intro s
    have plain : ∀ c ∈ stripEscapes s, isPlain c = true := fun c => isPlain_of_mem_stripEscapes
    refine ⟨keptFrom_sublist .plain s, ?_, ?_, stripEscapes_of_plain plain⟩
    · intro member
      exact absurd (plain esc member) (by decide)
    · intro member
      exact absurd (plain singleIntroducer member) (by decide)

/-- Sequences of all kinds, one right behind the other, with escape characters inside some. -/
example : stripEscapes
    "a\x1b]8;;x\x1b\x1b\\b\x1b_\x1bc\x07\x1b(\x1b[1m\x1b[1;31md\u009b32m\x1b\x1b[\x1b7e".toList =
      "ab[1md[e".toList := by decide

end BlockDiscovery.Diagnostic
