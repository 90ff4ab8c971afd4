import BlockDiscovery.Proofs.Diagnostic.Braces
import Mathlib.Data.List.TakeWhile

/-! # Where an object ends

What is true of every token of JSON, and of the text between braces only with the braces, is true
of whatever a reader passes over (`Crosses`): for the tokens by their characters, and for values
by induction on the calls.

The matcher is at the depth it was behind a value.  An object therefore ends for the matcher where
it ends for the reader (`leadingObject?_objectText`).  And a control character in a text of JSON is
a blank (`isJsonBlank_of_control`).
-/

namespace BlockDiscovery.Diagnostic

open BlockDiscovery BlockDiscovery.Json

variable {s r : List Char}

/-! ## Tokens -/

theorem inert_of_test {p : Char → Bool} {c : Char} (h : p c = true) (quote : p '"' = false)
    (opening : p '\x7b' = false) (closing : p '\x7d' = false) : Inert c := by
  refine ⟨?_, ?_, ?_⟩ <;> rintro rfl <;> simp_all

theorem not_le_of_control {c d : Char} (control : c.toNat < 0x20) (low : 0x20 ≤ d.toNat) : ¬ d ≤ c := by
  intro above
  have order : d.toNat ≤ c.toNat := UInt32.le_iff_toNat_le.mp above
  omega

/-- A character of a token that is no string literal, or of the blanks between tokens. -/
def IsTokenChar (c : Char) : Prop := Inert c ∧ (c.toNat < 0x20 → isJsonBlank c = true)

instance (c : Char) : Decidable (IsTokenChar c) := inferInstanceAs (Decidable (_ ∧ _))

theorem isTokenChar_of_blank {c : Char} (blank : isJsonBlank c = true) : IsTokenChar c :=
  ⟨inert_of_test blank rfl rfl rfl, fun _ => blank⟩

theorem isTokenChar_of_digit {c : Char} (digit : isDigit c = true) : IsTokenChar c := by
  refine ⟨inert_of_test digit rfl rfl rfl, fun control => ?_⟩
  simp only [isDigit, Bool.and_eq_true, decide_eq_true_eq] at digit
  exact absurd digit.1 (not_le_of_control control (by decide))

/-- What holds between the two ends of every token, and so between the two ends of whatever a
reader passes goes. -/
structure Crosses (R : List Char → List Char → Prop) : Prop where
  refl : ∀ s, R s s
  trans : ∀ {s r q}, R s r → R r q → R s q
  token : ∀ {c}, IsTokenChar c → ∀ s, R (c :: s) s
  literal : ∀ {s r}, passString s = .ok r → R ('"' :: s) r
  braces : ∀ {s r}, R s ('\x7d' :: r) → R ('\x7b' :: s) r

/-- A relation holds across what the readers of values, items and members, with the same fuel,
pass goes.  Members end at the brace of their object, which does not. -/
structure CrossedBy (R : List Char → List Char → Prop) (fuel : Nat) : Prop where
  value : ∀ {s r}, (readValue fuel s).rest = some r → R s r
  items : ∀ {done s r}, (readItems fuel done s).rest = some r → R s r
  members : ∀ {done s r}, (readMembers fuel done s).rest = some r → R s ('\x7d' :: r)

namespace Crosses

variable {R : List Char → List Char → Prop} (goes : Crosses R)
include goes

theorem dropWhile {p : Char → Bool} (tokens : ∀ c, p c = true → IsTokenChar c) (s : List Char) :
    R s (s.dropWhile p) := by
  induction s with
  | nil => exact goes.refl []
  | cons c s ih =>
    cases test : p c with
    | false =>
      rw [List.dropWhile_cons_of_neg (by simp [test])]
      exact goes.refl (c :: s)
    | true =>
      rw [List.dropWhile_cons_of_pos test]
      exact goes.trans (goes.token (tokens c test) s) ih

theorem skipBlank (s : List Char) : R s (skipBlank s) :=
  goes.dropWhile (fun _ => isTokenChar_of_blank) s

theorem takeDigits (s : List Char) : R s (takeDigits s).2 :=
  goes.dropWhile (fun _ => isTokenChar_of_digit) s

theorem word {doc : Doc} {letters : List Char} (tokens : letters.all (IsTokenChar ·) = true)
    (h : (readWord doc letters s).rest = some r) : R s r := by
  induction letters generalizing s with
  | nil =>
    obtain rfl : s = r := by simpa [readWord] using h
    exact goes.refl s
  | cons l letters ih =>
    simp only [List.all_cons, Bool.and_eq_true, decide_eq_true_eq] at tokens
    cases s with
    | nil => cases h
    | cons c s =>
      rw [readWord] at h
      split at h
      · next same =>
        subst same
        exact goes.trans (goes.token tokens.1 s) (ih tokens.2 h)
      · cases h

theorem whole {ds : List Char} (h : readWhole s = .ok (ds, r)) : R s r := by
  have digits := goes.takeDigits s
  rw [readWhole] at h
  split at h
  · cases h
  · cases h
  · next ds rest _ _ taken =>
    cases h
    rwa [taken] at digits

theorem fraction {ds : Option (List Char)} (h : readFraction s = .ok (ds, r)) : R s r := by
  unfold readFraction at h
  split at h
  · next rest =>
    have digits := goes.takeDigits rest
    split at h
    · cases h
    · next ds rest' _ taken =>
      cases h
      rw [taken] at digits
      exact goes.trans (goes.token (by decide) rest) digits
  · cases h
    exact goes.refl _

theorem exponent {e : Option (Bool × List Char)} (h : readExponent s = .ok (e, r)) : R s r := by
  unfold readExponent at h
  split at h
  · next c rest =>
    split at h
    · next letter =>
      have first : IsTokenChar c := by obtain rfl | rfl := letter <;> decide
      apply goes.trans (goes.token first rest)
      split at h
      next sign rest' signed =>
        split at h
        · cases h
        · next ds rest'' _ taken =>
          cases h
          have digits := goes.takeDigits rest'
          rw [taken] at digits
          split at signed
          · cases signed
            exact goes.trans (goes.token (by decide) _) digits
          · cases signed
            exact goes.trans (goes.token (by decide) _) digits
          · cases signed
            exact digits
    · cases h
      exact goes.refl _
  · cases h
    exact goes.refl _

theorem numeral {n : Numeral} (h : readNumeral s = .ok (n, r)) : R s r := by
  unfold readNumeral at h
  split at h
  next negative s' signed =>
    have sign : R s s' := by
      split at signed
      · cases signed
        exact goes.token (by decide) _
      · cases signed
        exact goes.refl _
    simp only [bind, Except.bind] at h
    split at h
    · cases h
    · next whole readWhole =>
      split at h
      · cases h
      · next fraction readFraction =>
        split at h
        · cases h
        · next exponent readExponent =>
          cases h
          exact goes.trans sign (goes.trans (goes.whole readWhole)
            (goes.trans (goes.fraction readFraction) (goes.exponent readExponent)))

theorem number (h : (readNumber s).rest = some r) : R s r := by
  rw [readNumber] at h
  split at h
  · cases h
  · next numeral rest read =>
    split at h
    · cases h
      exact goes.numeral read
    · cases h
      exact goes.numeral read

theorem stringLiteral {string : Except Fault String} (h : readLiteral s = .ok (string, r)) :
    R ('"' :: s) r := by
  rw [readLiteral] at h
  split at h
  · next rest passed =>
    cases h
    exact goes.literal passed
  · split at h <;> cases h

/-! ## Values -/

theorem object {fuel : Nat} (calls : CrossedBy R fuel)
    (h : (readValue (fuel + 1) ('\x7b' :: s)).rest = some r) : R s ('\x7d' :: r) := by
  have inside := goes.skipBlank s
  have brace : Json.skipBlank ('\x7b' :: s) = '\x7b' :: s := rfl
  rw [readValue, brace] at h
  simp only [Char.reduceEq, if_false, if_true] at h
  split at h
  · cases h
  next d more behind =>
    rw [behind] at inside
    split at h
    · next closing =>
      subst closing
      cases h
      exact inside
    · exact goes.trans inside (calls.members h)

theorem value {fuel : Nat} (calls : CrossedBy R fuel)
    (h : (readValue (fuel + 1) s).rest = some r) : R s r := by
  -- one case for each first character of a value; where the reader fails there is no rest
  rw [readValue] at h
  apply goes.trans (goes.skipBlank s)
  split at h
  · cases h
  next c rest front =>
    rw [front]
    by_cases quote : c = '"'
    · rw [if_pos quote] at h
      subst quote
      split at h
      · next read =>
        cases h
        exact goes.stringLiteral read
      · cases h
    rw [if_neg quote] at h
    by_cases bracket : c = '['
    · rw [if_pos bracket] at h
      subst bracket
      have inside := goes.trans (goes.token (c := '[') (by decide) rest) (goes.skipBlank rest)
      split at h
      · cases h
      next d more behind =>
        rw [behind] at inside
        split at h
        · next closing =>
          subst closing
          cases h
          exact goes.trans inside (goes.token (by decide) _)
        · exact goes.trans inside (calls.items h)
    rw [if_neg bracket] at h
    by_cases brace : c = '\x7b'
    · rw [if_pos brace] at h
      subst brace
      exact goes.braces (goes.object calls (by rw [readValue]; exact h))
    rw [if_neg brace] at h
    split at h
    · next letter =>
      subst letter
      exact goes.trans (goes.token (by decide) rest) (goes.word (by decide) h)
    split at h
    · next letter =>
      subst letter
      exact goes.trans (goes.token (by decide) rest) (goes.word (by decide) h)
    split at h
    · next letter =>
      subst letter
      exact goes.trans (goes.token (by decide) rest) (goes.word (by decide) h)
    split at h
    · exact goes.number h
    · cases h

theorem items {fuel : Nat} (calls : CrossedBy R fuel) {done : List Doc}
    (h : (readItems (fuel + 1) done s).rest = some r) : R s r := by
  rw [readItems] at h
  split at h
  · cases h
  next rest item =>
    apply goes.trans (goes.trans (calls.value item) (goes.skipBlank rest))
    split at h
    · cases h
    next c more behind =>
      rw [behind]
      by_cases closing : c = ']'
      · subst closing
        cases h
        exact goes.token (by decide) _
      rw [if_neg closing] at h
      split at h
      · next comma =>
        subst comma
        exact goes.trans (goes.token (by decide) more) (calls.items h)
      · cases h

theorem members {fuel : Nat} (calls : CrossedBy R fuel) {done : List (Except Fault String × Doc)}
    (h : (readMembers (fuel + 1) done s).rest = some r) : R s ('\x7d' :: r) := by
  rw [readMembers] at h
  apply goes.trans (goes.skipBlank s)
  split at h
  · cases h
  next c rest front =>
    rw [front]
    split at h
    · next quote =>
      subst quote
      split at h
      · cases h
      next key keyEnd read =>
        apply goes.trans (goes.trans (goes.stringLiteral read) (goes.skipBlank keyEnd))
        split at h
        · cases h
        next c rest separated =>
          rw [separated]
          split at h
          · next colon =>
            subst colon
            apply goes.trans (goes.token (by decide) rest)
            dsimp only at h
            split at h
            · cases h
            next valueEnd member =>
              apply goes.trans (goes.trans (calls.value member) (goes.skipBlank valueEnd))
              split at h
              · cases h
              next c rest behind =>
                rw [behind]
                by_cases closing : c = '\x7d'
                · subst closing
                  cases h
                  exact goes.refl _
                rw [if_neg closing] at h
                split at h
                · next comma =>
                  subst comma
                  exact goes.trans (goes.token (by decide) rest) (calls.members h)
                · cases h
          · cases h
    · cases h

theorem readers (fuel : Nat) : CrossedBy R fuel := by
  induction fuel with
  | zero => exact ⟨nofun, nofun, nofun⟩
  | succ fuel ih => exact ⟨goes.value ih, goes.items ih, goes.members ih⟩

end Crosses

/-! ## What is passed over -/

theorem crosses_passed : Crosses (Passed .outside .outside) where
  refl := .refl .outside
  trans := .trans
  token tokens s := passed_inert tokens.1 s
  literal := passed_literal
  braces := passed_braces

/-- From `s` to `r` the control characters are blanks. -/
def Printed (s r : List Char) : Prop := ∃ t, s = t ++ r ∧ ∀ c ∈ t, c.toNat < 0x20 → isJsonBlank c = true

theorem printed_char {c : Char} (blank : c.toNat < 0x20 → isJsonBlank c = true) (s : List Char) :
    Printed (c :: s) s :=
  ⟨[c], rfl, by simpa using blank⟩

theorem Printed.trans {s r q : List Char} (first : Printed s r) (second : Printed r q) : Printed s q := by
  obtain ⟨t, rfl, blank⟩ := first
  obtain ⟨u, rfl, further⟩ := second
  refine ⟨t ++ u, by rw [List.append_assoc], fun c member => ?_⟩
  exact (List.mem_append.mp member).elim (blank c) (further c)

theorem printed_char_of_visible {c : Char} (visible : ¬ c.toNat < 0x20) (s : List Char) : Printed (c :: s) s :=
  printed_char (fun control => absurd control visible) s

theorem visible_of_hexDigit {c : Char} {n : Nat} (h : Text.hexDigit? c = some n) : ¬ c.toNat < 0x20 := by
  intro control
  have below (d : Char) := not_le_of_control (d := d) control
  simp [Text.hexDigit?, below '0' (by decide), below 'a' (by decide), below 'A' (by decide)] at h

theorem visible_of_escaped {c d : Char} (h : escaped? c = some d) : ¬ c.toNat < 0x20 := by
  intro control
  have differs (e : Char) (low : 0x20 ≤ e.toNat) : c ≠ e := by
    rintro rfl
    omega
  simp [escaped?, differs '"' (by decide), differs '\\' (by decide), differs '/' (by decide),
    differs 'b' (by decide), differs 'f' (by decide), differs 'n' (by decide), differs 'r' (by decide),
    differs 't' (by decide)] at h

theorem printed_string (h : passString s = .ok r) : Printed s r := by
  fun_induction passString s generalizing r with
  | case1 => cases h
  | case2 rest =>
    cases h
    exact printed_char (by decide) rest
  | case3 | case4 | case6 | case8 | case9 => cases h
  | case5 h₁ h₂ h₃ h₄ more unit some _ ih =>
    simp only [codeUnit?, Option.bind_eq_bind, Option.bind_eq_some_iff] at some
    obtain ⟨_, first, _, second, _, third, _, fourth, _⟩ := some
    have digits := (((printed_char_of_visible (visible_of_hexDigit first) _).trans
      (printed_char_of_visible (visible_of_hexDigit second) _)).trans
      (printed_char_of_visible (visible_of_hexDigit third) _)).trans
      (printed_char_of_visible (visible_of_hexDigit fourth) more)
    exact ((printed_char (by decide) _).trans (printed_char (by decide) _)).trans (digits.trans (ih h))
  | case7 e more _ other c some _ ih =>
    have pair := (printed_char (c := '\\') (by decide) _).trans
      (printed_char_of_visible (visible_of_escaped some) more)
    exact pair.trans (ih h)
  | case10 c rest quote backslash visible ih => exact (printed_char_of_visible visible rest).trans (ih h)

theorem crosses_printed : Crosses Printed where
  refl s := ⟨[], rfl, by simp⟩
  trans := .trans
  token tokens s := printed_char tokens.2 s
  literal h := (printed_char (by decide) _).trans (printed_string h)
  braces inner := by
    have closed := inner.trans (printed_char (c := '\x7d') (by decide) _)
    exact (printed_char (by decide) _).trans closed

/-! ## Objects -/

/-- A text of a JSON object: it starts and ends with the braces of the object, and the
loose reader passes over it. -/
structure IsObjectText (s : List Char) : Prop where
  opening : s.head? = some '\x7b'
  closing : s.getLast? = some '\x7d'
  valid : isLooseJson s = true

theorem read_objectText (h : IsObjectText s) : (Doc.read s).rest = some [] := by
  have valid := h.valid
  rw [isLooseJson] at valid
  split at valid
  · next doc rest read =>
    obtain ⟨t, text, _⟩ := (crosses_passed.readers _).value (s := s) (congrArg Reading.rest read)
    obtain ⟨_, blank⟩ := Bool.and_eq_true_iff.mp valid
    have blanks : ∀ c ∈ rest, isJsonBlank c = true := by
      exact List.dropWhile_eq_nil_iff.mp (List.isEmpty_iff.mp blank)
    rw [read, Option.some.injEq]
    refine Decidable.byContradiction fun left => ?_
    have last : rest.getLast left = '\x7d' := by
      have closing := h.closing
      rw [text, List.getLast?_append, List.getLast?_eq_some_getLast left] at closing
      simpa using closing
    exact absurd (blanks _ (List.getLast_mem left)) (by rw [last]; decide)
  · cases valid

/-- The matcher finds an object at the front of a text, whatever is behind it. -/
theorem leadingObject?_objectText (h : IsObjectText s) (behind : List Char) :
    leadingObject? (s ++ behind) = some s := by
  have read := read_objectText h
  obtain ⟨rest, rfl⟩ : ∃ rest, s = '\x7b' :: rest := by
    cases s with
    | nil => cases h.opening
    | cons c rest => exact ⟨rest, by rw [Option.some.inj h.opening]⟩
  have inside := crosses_passed.object (crosses_passed.readers _) read
  obtain ⟨t, text, found⟩ := balancedFrom?_braces inside behind
  rw [List.append_nil] at text
  rw [← text] at found
  exact found

/-- The only control characters in a text of an object are blanks. -/
theorem isJsonBlank_of_control {c : Char} (h : IsObjectText s) (member : c ∈ s) (control : c.toNat < 0x20) :
    isJsonBlank c = true := by
  obtain ⟨t, text, blank⟩ := (crosses_printed.readers _).value (read_objectText h)
  rw [List.append_nil] at text
  exact blank c (text ▸ member) control

end BlockDiscovery.Diagnostic
