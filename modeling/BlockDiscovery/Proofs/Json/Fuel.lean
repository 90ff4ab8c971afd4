import BlockDiscovery.Json.Reader

/-! # More fuel than enough

A reader that gets through a text with some fuel gets through it in the same way with
more.  Blanks before a text, which only add fuel, therefore change nothing.
-/

namespace BlockDiscovery.Json

open BlockDiscovery

variable {fuel : Nat} {s r : List Char}

/-- One more unit of fuel changes nothing for the readers of values, items and members
where they get through a text. -/
structure Enough (fuel : Nat) : Prop where
  value : ∀ {s r}, (readValue fuel s).rest = some r → readValue (fuel + 1) s = readValue fuel s
  items : ∀ {done s r}, (readItems fuel done s).rest = some r →
    readItems (fuel + 1) done s = readItems fuel done s
  members : ∀ {done s r}, (readMembers fuel done s).rest = some r →
    readMembers (fuel + 1) done s = readMembers fuel done s

theorem enough_value (calls : Enough fuel) (h : (readValue (fuel + 1) s).rest = some r) :
    readValue (fuel + 2) s = readValue (fuel + 1) s := by
  -- one layer of each call is opened; what is left below are the calls that `calls` covers
  rw [readValue] at h
  rw [readValue, readValue]
  cases front : skipBlank s with
  | nil => rfl
  | cons c rest =>
    simp only [front] at h ⊢
    by_cases quote : c = '"'
    · simp only [if_pos quote]
    simp only [if_neg quote] at h ⊢
    by_cases bracket : c = '['
    · simp only [if_pos bracket] at h ⊢
      cases inside : skipBlank rest with
      | nil => rfl
      | cons d more =>
        simp only [inside] at h ⊢
        by_cases closing : d = ']'
        · simp only [if_pos closing]
        · simp only [if_neg closing] at h ⊢
          exact calls.items h
    simp only [if_neg bracket] at h ⊢
    by_cases brace : c = '\x7b'
    · simp only [if_pos brace] at h ⊢
      cases inside : skipBlank rest with
      | nil => rfl
      | cons d more =>
        simp only [inside] at h ⊢
        by_cases closing : d = '\x7d'
        · simp only [if_pos closing]
        · simp only [if_neg closing] at h ⊢
          exact calls.members h
    · simp only [if_neg brace]

theorem enough_items (calls : Enough fuel) {done : List Doc}
    (h : (readItems (fuel + 1) done s).rest = some r) :
    readItems (fuel + 2) done s = readItems (fuel + 1) done s := by
  rw [readItems] at h
  rw [readItems, readItems]
  -- `h` says that the item was got through, or else the items after it were not read
  cases item : (readValue fuel s).rest with
  | none =>
    simp only [item] at h
    cases h
  | some rest =>
    rw [calls.value item]
    simp only [item] at h ⊢
    cases behind : skipBlank rest with
    | nil => rfl
    | cons c more =>
      simp only [behind] at h ⊢
      by_cases closing : c = ']'
      · simp only [if_pos closing]
      simp only [if_neg closing] at h ⊢
      by_cases comma : c = ','
      · simp only [if_pos comma] at h ⊢
        exact calls.items h
      · simp only [if_neg comma]

theorem enough_members (calls : Enough fuel) {done : List (Except Fault String × Doc)}
    (h : (readMembers (fuel + 1) done s).rest = some r) :
    readMembers (fuel + 2) done s = readMembers (fuel + 1) done s := by
  rw [readMembers] at h
  rw [readMembers, readMembers]
  cases front : skipBlank s with
  | nil => rfl
  | cons c rest =>
    simp only [front] at h ⊢
    by_cases quote : c = '"'
    · simp only [if_pos quote] at h ⊢
      cases read : readLiteral rest with
      | error faults => rfl
      | ok literal =>
        obtain ⟨key, keyEnd⟩ := literal
        simp only [read] at h ⊢
        cases separated : skipBlank keyEnd with
        | nil => rfl
        | cons c rest =>
          simp only [separated] at h ⊢
          by_cases colon : c = ':'
          · simp only [if_pos colon] at h ⊢
            cases member : (readValue fuel rest).rest with
            | none =>
              simp only [member] at h
              cases h
            | some valueEnd =>
              rw [calls.value member]
              simp only [member] at h ⊢
              cases behind : skipBlank valueEnd with
              | nil => rfl
              | cons c rest =>
                simp only [behind] at h ⊢
                by_cases closing : c = '\x7d'
                · simp only [if_pos closing]
                simp only [if_neg closing] at h ⊢
                by_cases comma : c = ','
                · simp only [if_pos comma] at h ⊢
                  exact calls.members h
                · simp only [if_neg comma]
          · simp only [if_neg colon]
    · simp only [if_neg quote]

theorem enough (fuel : Nat) : Enough fuel := by
  induction fuel with
  | zero => exact ⟨nofun, nofun, nofun⟩
  | succ fuel ih => exact ⟨enough_value ih, enough_items ih, enough_members ih⟩

/-- A reader that gets through a text does so in the same way behind a blank. -/
theorem read_blank {b : Char} (blank : isJsonBlank b = true) (h : (Doc.read s).rest = some r) :
    Doc.read (b :: s) = Doc.read s := by
  have skipped : Doc.read (b :: s) = readValue (2 * s.length + 2 + 2) s := by
    rw [Doc.read, List.length_cons, Nat.mul_succ]
    simp only [readValue, skipBlank, List.dropWhile_cons_of_pos blank]
  have once := (enough (2 * s.length + 2)).value h
  have twice := (enough (2 * s.length + 2 + 1)).value ((congrArg Reading.rest once).trans h)
  rw [skipped, twice, once, Doc.read]

end BlockDiscovery.Json
