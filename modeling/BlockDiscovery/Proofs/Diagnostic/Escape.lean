import BlockDiscovery.Diagnostic.Escape

/-! # What is left without escape sequences

No character that opens an escape sequence is left, and a text without such characters
is left as it is; so stripping twice is stripping once.
-/

namespace BlockDiscovery.Diagnostic

/-- Whether a character opens no escape sequence. -/
def isPlain (c : Char) : Bool := c ≠ esc && c ≠ singleIntroducer

/-- A scan outside every sequence keeps a plain run and stays outside. -/
theorem keptFrom_plain_append {s : List Char} (h : ∀ c ∈ s, isPlain c = true) (rest : List Char) :
    keptFrom .plain (s ++ rest) = s ++ keptFrom .plain rest := by
  induction s with
  | nil => rfl
  | cons c s ih =>
    have plain := h c List.mem_cons_self
    simp only [isPlain, Bool.and_eq_true, decide_eq_true_eq] at plain
    have stays : EscapeState.plain.next c = (.plain, true) := by
      simp [EscapeState.next, plain.1, plain.2]
    rw [List.cons_append, keptFrom, stays]
    dsimp only
    rw [ih fun d member => h d (List.mem_cons_of_mem _ member), List.cons_append]

theorem keptFrom_of_plain {s : List Char} (h : ∀ c ∈ s, isPlain c = true) : keptFrom .plain s = s := by
  simpa [keptFrom] using keptFrom_plain_append h []

/-- No character of the text opens an escape sequence. -/
def AllPlain (s : List Char) : Prop := ∀ c ∈ s, isPlain c = true

theorem AllPlain.append {s t : List Char} (first : AllPlain s) (second : AllPlain t) : AllPlain (s ++ t) :=
  List.forall_mem_append.mpr ⟨first, second⟩

theorem allPlain_of_all {s : List Char} (h : s.all isPlain = true) : AllPlain s := List.all_eq_true.mp h

theorem keptFrom_append (state : EscapeState) (s t : List Char) :
    keptFrom state (s ++ t) =
      keptFrom state s ++ keptFrom (s.foldl (fun state c => (state.next c).1) state) t := by
  induction s generalizing state with
  | nil => rfl
  | cons c s ih =>
    rw [List.cons_append, keptFrom, keptFrom, List.foldl_cons]
    rcases state.next c with ⟨next, _ | _⟩
    · exact ih next
    · exact congrArg (c :: ·) (ih next)

theorem isPlain_of_kept {s t : EscapeState} {c : Char} (h : s.next c = (t, true)) :
    isPlain c = true := by
  cases s with
  | plain =>
    simp only [EscapeState.next] at h
    split at h
    · cases h
    next visible =>
      split at h
      · cases h
      next other => simp [isPlain, visible, other]
  | opened =>
    simp only [EscapeState.next] at h
    split at h
    · cases h
    split at h
    · cases h
    split at h <;> cases h
  | sequence | controlString | controlStringEscape | charset => cases h

theorem isPlain_of_mem_keptFrom {s : EscapeState} {text : List Char} {c : Char}
    (h : c ∈ keptFrom s text) : isPlain c = true := by
  induction text generalizing s with
  | nil => cases h
  | cons d text ih =>
    rw [keptFrom] at h
    split at h
    · next t kept =>
      obtain rfl | later := List.mem_cons.mp h
      · exact isPlain_of_kept kept
      · exact ih later
    · exact ih h

theorem stripEscapes_of_plain {s : List Char} (h : ∀ c ∈ s, isPlain c = true) : stripEscapes s = s :=
  keptFrom_of_plain h

theorem isPlain_of_mem_stripEscapes {s : List Char} {c : Char} (h : c ∈ stripEscapes s) :
    isPlain c = true :=
  isPlain_of_mem_keptFrom h

end BlockDiscovery.Diagnostic
