import BlockDiscovery.Diagnostic.Payload

/-! # Brace matching and the loose reader

Brace matching knows nothing of JSON, but it agrees with the reader about where an
object ends.  What a reader passes over leaves the matcher at the depth it was
(`Passed`); so the brace that closes an object for the reader is the one that closes
it for the matcher.
-/

namespace BlockDiscovery.Diagnostic

open BlockDiscovery BlockDiscovery.Json

/-! ## Text that keeps the depth -/

/-- Inside any object the matcher goes from `s` to `r` without a change of depth, and
from one state to another. -/
def Passed (before after : BraceState) (s r : List Char) : Prop :=
  ∃ t, s = t ++ r ∧ ∀ depth behind, balancedFrom? (depth + 1) before (t ++ behind) =
    (balancedFrom? (depth + 1) after behind).map (t ++ ·)

variable {a b d : BraceState} {c : Char} {s r q : List Char}

theorem Passed.refl (a : BraceState) (s : List Char) : Passed a a s s :=
  ⟨[], rfl, fun depth behind => by simp⟩

theorem Passed.trans (first : Passed a b s r) (second : Passed b d r q) : Passed a d s q := by
  obtain ⟨t, rfl, level⟩ := first
  obtain ⟨u, rfl, further⟩ := second
  refine ⟨t ++ u, by rw [List.append_assoc], fun depth behind => ?_⟩
  rw [List.append_assoc, level, further, Option.map_map]
  congr 1
  funext rest
  simp

theorem passed_character (step : ∀ depth behind, balancedFrom? (depth + 1) a (c :: behind) =
    (balancedFrom? (depth + 1) b behind).map (c :: ·)) (s : List Char) : Passed a b (c :: s) s :=
  ⟨[c], rfl, step⟩

/-- A character that means nothing to the matcher. -/
def Inert (c : Char) : Prop := c ≠ '"' ∧ c ≠ '\x7b' ∧ c ≠ '\x7d'

instance (c : Char) : Decidable (Inert c) := inferInstanceAs (Decidable (_ ∧ _))

theorem passed_inert (inert : Inert c) (s : List Char) : Passed .outside .outside (c :: s) s :=
  passed_character (fun depth behind => by simp [balancedFrom?, inert.1, inert.2.1, inert.2.2]) s

theorem passed_braces (inner : Passed .outside .outside s ('\x7d' :: r)) :
    Passed .outside .outside ('\x7b' :: s) r := by
  -- `level` is used one deeper: the depth in `Passed` is that of any object around
  obtain ⟨t, rfl, level⟩ := inner
  refine ⟨'\x7b' :: (t ++ ['\x7d']), by simp, fun depth behind => ?_⟩
  have opened : balancedFrom? (depth + 1) .outside ('\x7b' :: (t ++ ['\x7d']) ++ behind) =
      (balancedFrom? (depth + 1 + 1) .outside (t ++ ('\x7d' :: behind))).map ('\x7b' :: ·) := by
    simp [balancedFrom?]
  have closed : balancedFrom? (depth + 1 + 1) .outside ('\x7d' :: behind) =
      (balancedFrom? (depth + 1) .outside behind).map ('\x7d' :: ·) := by
    simp [balancedFrom?]
  rw [opened, level, closed, Option.map_map, Option.map_map]
  congr 1
  funext rest
  simp

/-- Outside every object, braces around text that keeps the depth are what the matcher
finds at the front, whatever is behind them. -/
theorem balancedFrom?_braces (inner : Passed .outside .outside s ('\x7d' :: r)) (behind : List Char) :
    ∃ t, '\x7b' :: s = t ++ r ∧ balancedFrom? 0 .outside (t ++ behind) = some t := by
  obtain ⟨t, rfl, level⟩ := inner
  refine ⟨'\x7b' :: (t ++ ['\x7d']), by simp, ?_⟩
  have opened : balancedFrom? 0 .outside ('\x7b' :: (t ++ ['\x7d']) ++ behind) =
      (balancedFrom? (0 + 1) .outside (t ++ ('\x7d' :: behind))).map ('\x7b' :: ·) := by
    simp [balancedFrom?]
  have closed : balancedFrom? (0 + 1) .outside ('\x7d' :: behind) = some ['\x7d'] := by
    simp [balancedFrom?]
  rw [opened, level, closed]
  rfl

/-! ## String literals -/

/-- A character of a string literal that neither ends it nor starts an escape. -/
def Quoted (c : Char) : Prop := c ≠ '"' ∧ c ≠ '\\'

theorem passed_quoted (quoted : Quoted c) (s : List Char) : Passed .inString .inString (c :: s) s :=
  passed_character (fun depth behind => by simp [balancedFrom?, quoted.1, quoted.2]) s

theorem passed_openQuote (s : List Char) : Passed .outside .inString ('"' :: s) s :=
  passed_character (fun depth behind => by simp [balancedFrom?]) s

theorem passed_quote (s : List Char) : Passed .inString .outside ('"' :: s) s :=
  passed_character (fun depth behind => by simp [balancedFrom?]) s

theorem passed_escape (c : Char) (s : List Char) : Passed .inString .inString ('\\' :: c :: s) s :=
  .trans (b := .escaped) (passed_character (fun depth behind => by simp [balancedFrom?]) (c :: s))
    (passed_character (fun depth behind => by simp [balancedFrom?]) s)

theorem quoted_hexDigit {n : Nat} (h : Text.hexDigit? c = some n) : Quoted c := by
  constructor <;> rintro rfl <;> cases h

theorem passed_unit {h₁ h₂ h₃ h₄ : Char} {unit : Nat} (h : codeUnit? h₁ h₂ h₃ h₄ = some unit)
    (s : List Char) :
    Passed .inString .inString ('\\' :: 'u' :: h₁ :: h₂ :: h₃ :: h₄ :: s) s := by
  simp only [codeUnit?, Option.bind_eq_bind, Option.bind_eq_some_iff] at h
  obtain ⟨_, first, _, second, _, third, _, fourth, _⟩ := h
  exact ((((passed_escape 'u' _).trans (passed_quoted (quoted_hexDigit first) _)).trans
    (passed_quoted (quoted_hexDigit second) _)).trans
    (passed_quoted (quoted_hexDigit third) _)).trans (passed_quoted (quoted_hexDigit fourth) s)

/-- Where the reader leaves a string literal, the matcher leaves it. -/
theorem passed_string (h : passString s = .ok r) : Passed .inString .outside s r := by
  fun_induction passString s generalizing r with
  | case1 => cases h
  | case2 rest =>
    cases h
    exact passed_quote rest
  | case3 | case4 | case6 | case8 | case9 => cases h
  | case5 h₁ h₂ h₃ h₄ more unit some _ ih => exact (passed_unit some more).trans (ih h)
  | case7 e more _ other c some _ ih => exact (passed_escape e more).trans (ih h)
  | case10 c rest quote backslash _ ih => exact (passed_quoted ⟨quote, backslash⟩ rest).trans (ih h)

theorem passed_literal (h : passString s = .ok r) : Passed .outside .outside ('"' :: s) r :=
  (passed_openQuote s).trans (passed_string h)

/-! ## What the matcher finds -/

variable {t found : List Char}

theorem balancedFrom?_of_unclosed (h : '\x7d' ∉ s) (depth : Nat) (state : BraceState) :
    balancedFrom? depth state s = none := by
  induction s generalizing depth state with
  | nil => cases state <;> rfl
  | cons c s ih =>
    simp only [List.mem_cons, not_or] at h
    cases state <;> simp [balancedFrom?, Ne.symm h.1, ih h.2]

/-- Text without a closing brace ends no object. -/
theorem balancedFrom?_append (h : '\x7d' ∉ t) (depth : Nat) (state : BraceState) (s : List Char) :
    balancedFrom? depth state (s ++ t) = balancedFrom? depth state s := by
  induction s generalizing depth state with
  | nil => rw [List.nil_append, balancedFrom?_of_unclosed h, balancedFrom?_of_unclosed List.not_mem_nil]
  | cons c s ih =>
    cases state with
    | escaped | inString => simp [balancedFrom?, ih]
    | outside =>
      simp only [List.cons_append, balancedFrom?, ih]

theorem leadingObject?_append (h : '\x7d' ∉ t) (s : List Char) : leadingObject? (s ++ t) = leadingObject? s := by
  cases s with
  | nil => cases t <;> simp [leadingObject?, balancedFrom?_of_unclosed h]
  | cons c s =>
    have whole := balancedFrom?_append h 0 .outside (c :: s)
    rw [List.cons_append] at whole
    simp only [leadingObject?, List.cons_append, whole]

/-- What the matcher finds: a start of the text that ends in a closing brace. -/
def FrontOf (s found : List Char) : Prop := found <+: s ∧ found.getLast? = some '\x7d'

theorem FrontOf.cons {o : Option (List Char)} (inner : ∀ {t}, o = some t → FrontOf s t)
    (h : o.map (c :: ·) = some found) : FrontOf (c :: s) found := by
  obtain ⟨t, rest, rfl⟩ := Option.map_eq_some_iff.mp h
  obtain ⟨front, closed⟩ := inner rest
  refine ⟨(List.prefix_cons_inj c).mpr front, ?_⟩
  simp [List.getLast?_cons, closed]

theorem frontOf_of_balancedFrom? {depth : Nat} {state : BraceState} (h : balancedFrom? depth state s = some found) :
    FrontOf s found := by
  fun_induction balancedFrom? depth state s generalizing found with
  | case1 => cases h
  | case2 depth c rest ih => exact .cons ih h
  | case3 depth c rest ih => exact .cons ih h
  | case4 depth rest ih => exact .cons ih h
  | case5 depth rest _ ih => exact .cons ih h
  | case6 => cases h
  | case7 =>
    cases h
    simp [FrontOf]
  | case8 rest _ _ depth ih => exact .cons ih h
  | case9 depth c rest _ _ _ ih => exact .cons ih h

theorem frontOf_of_leadingObject? (h : leadingObject? s = some found) :
    FrontOf s found ∧ found.head? = some '\x7b' := by
  cases s with
  | nil => cases h
  | cons c s =>
    rw [leadingObject?] at h
    split at h
    · next opening =>
      subst opening
      have front := frontOf_of_balancedFrom? h
      refine ⟨front, ?_⟩
      obtain ⟨more, whole⟩ := front.1
      cases found with
      | nil => simpa using front.2
      | cons d found => simpa using congrArg List.head? whole
    · cases h

end BlockDiscovery.Diagnostic
