import BlockDiscovery.Proofs.Diagnostic.Braces
import BlockDiscovery.Proofs.Diagnostic.Marker
import BlockDiscovery.Proofs.Text.Blank

/-! # Balanced objects behind markers

In a balanced text every brace outside string literals has its partner; nothing else is asked of
the text.  What the matcher finds at the front of a text is the shortest balanced start of it that
begins with a brace (`leadingObject?_eq_some_iff`), and the payload of a text is the object behind
the first marker that has one.
-/

namespace BlockDiscovery.Diagnostic

open BlockDiscovery

/-! ## Balanced text -/

/-- The inside of a string literal, where a backslash takes the next character with it. -/
inductive InLiteral : List Char → Prop where
  | nil : InLiteral []
  | plain {c s} : Quoted c → InLiteral s → InLiteral (c :: s)
  | escape {s} (c) : InLiteral s → InLiteral ('\\' :: c :: s)

/-- Text whose braces outside string literals balance. -/
inductive Balanced : List Char → Prop where
  | nil : Balanced []
  | plain {c s} : Inert c → Balanced s → Balanced (c :: s)
  | literal {content s} : InLiteral content → Balanced s → Balanced ('"' :: (content ++ '"' :: s))
  | braces {inner s} : Balanced inner → Balanced s → Balanced ('\x7b' :: (inner ++ '\x7d' :: s))

/-- A balanced start of a text that begins with a brace. -/
structure BalancedStart (s object : List Char) : Prop where
  front : object <+: s
  opening : object.head? = some '\x7b'
  balanced : Balanced object

/-- The shortest balanced start of a text that begins with a brace. -/
structure LeadingObject (s object : List Char) : Prop extends BalancedStart s object where
  shortest : ∀ other, BalancedStart s other → object.length ≤ other.length

variable {s t object : List Char} {depth : Nat} {state : BraceState}

/-! ## The matcher passes balanced text -/

theorem InLiteral.passed (h : InLiteral t) (r : List Char) : Passed .inString .inString (t ++ r) r := by
  induction h with
  | nil => exact .refl .inString r
  | plain quoted _ ih => exact (passed_quoted quoted _).trans ih
  | escape c _ ih => exact (passed_escape c _).trans ih

theorem Balanced.passed (h : Balanced t) (r : List Char) : Passed .outside .outside (t ++ r) r := by
  induction h generalizing r with
  | nil => exact .refl .outside r
  | plain inert _ ih => exact (passed_inert inert _).trans (ih r)
  | @literal content s inside _ ih =>
    have opening := passed_openQuote (content ++ '"' :: (s ++ r))
    have whole := ((opening.trans (inside.passed _)).trans (passed_quote _)).trans (ih r)
    simpa using whole
  | @braces inner s _ _ ihInner ih =>
    have whole := (passed_braces (ihInner ('\x7d' :: (s ++ r)))).trans (ih r)
    simpa using whole

/-- Where a text has a balanced start, the matcher finds an object, and one that is no longer. -/
theorem BalancedStart.found (h : BalancedStart s object) :
    ∃ found, leadingObject? s = some found ∧ found.length ≤ object.length := by
  obtain ⟨behind, rfl⟩ := h.front
  have opening := h.opening
  cases h.balanced with
  | nil => cases opening
  | plain inert _ => simp [inert.2.1] at opening
  | literal _ _ => simp at opening
  | @braces inner rest balanced _ =>
    obtain ⟨found, split, matched⟩ := balancedFrom?_braces (balanced.passed ['\x7d']) (rest ++ behind)
    rw [List.append_nil] at split
    subst split
    refine ⟨'\x7b' :: (inner ++ ['\x7d']), ?_, by simp⟩
    simpa [leadingObject?] using matched

/-! ## What the matcher finds is balanced -/

/-- Text that closes as many objects as it stands in, and ends at the last of their braces. -/
def Closes : Nat → List Char → Prop
  | 0, s => s = []
  | depth + 1, s => ∃ inner rest, Balanced inner ∧ Closes depth rest ∧ s = inner ++ '\x7d' :: rest

/-- Text that closes what it stands in, a string literal first if it starts inside one. -/
def ClosesFrom (depth : Nat) : BraceState → List Char → Prop
  | .outside, s => Closes depth s
  | .inString, s => ∃ content rest, InLiteral content ∧ Closes depth rest ∧ s = content ++ '"' :: rest
  | .escaped, s => ∃ c content rest, InLiteral content ∧ Closes depth rest ∧ s = c :: (content ++ '"' :: rest)

theorem Closes.plain {c : Char} (inert : Inert c) (h : Closes (depth + 1) s) : Closes (depth + 1) (c :: s) := by
  obtain ⟨inner, rest, balanced, closes, rfl⟩ := h
  exact ⟨c :: inner, rest, .plain inert balanced, closes, rfl⟩

theorem Closes.literal {content : List Char} (inside : InLiteral content) (h : Closes (depth + 1) s) :
    Closes (depth + 1) ('"' :: (content ++ '"' :: s)) := by
  obtain ⟨inner, rest, balanced, closes, rfl⟩ := h
  exact ⟨'"' :: (content ++ '"' :: inner), rest, .literal inside balanced, closes, by simp⟩

theorem Closes.opened (h : Closes (depth + 2) s) : Closes (depth + 1) ('\x7b' :: s) := by
  obtain ⟨inner, _, inside, ⟨behind, rest, after, closes, rfl⟩, rfl⟩ := h
  exact ⟨'\x7b' :: (inner ++ '\x7d' :: behind), rest, .braces inside after, closes, by simp⟩

theorem closesFrom_of_balancedFrom? (h : balancedFrom? (depth + 1) state s = some t) :
    ClosesFrom (depth + 1) state t := by
  induction s generalizing depth state t with
  | nil => cases state <;> cases h
  | cons c s ih =>
    cases state with
    | escaped =>
      obtain ⟨t, later, rfl⟩ := Option.map_eq_some_iff.mp h
      obtain ⟨content, rest, inside, closes, rfl⟩ := ih later
      exact ⟨c, content, rest, inside, closes, rfl⟩
    | inString =>
      obtain ⟨t, later, rfl⟩ := Option.map_eq_some_iff.mp h
      have after := ih later
      by_cases backslash : c = '\\'
      · rw [if_pos backslash] at after
        obtain ⟨d, content, rest, inside, closes, rfl⟩ := after
        exact ⟨'\\' :: d :: content, rest, .escape d inside, closes, by simp [backslash]⟩
      by_cases quote : c = '"'
      · rw [if_neg backslash, if_pos quote] at after
        exact ⟨[], t, .nil, after, by simp [quote]⟩
      · rw [if_neg backslash, if_neg quote] at after
        obtain ⟨content, rest, inside, closes, rfl⟩ := after
        exact ⟨c :: content, rest, .plain ⟨quote, backslash⟩ inside, closes, rfl⟩
    | outside =>
      simp only [balancedFrom?] at h
      by_cases quote : c = '"'
      · rw [if_pos quote] at h
        obtain ⟨t, later, rfl⟩ := Option.map_eq_some_iff.mp h
        obtain ⟨content, rest, inside, closes, rfl⟩ := ih later
        subst quote
        exact closes.literal inside
      rw [if_neg quote] at h
      by_cases opening : c = '\x7b'
      · rw [if_pos opening] at h
        obtain ⟨t, later, rfl⟩ := Option.map_eq_some_iff.mp h
        subst opening
        exact Closes.opened (ih later)
      rw [if_neg opening] at h
      by_cases closing : c = '\x7d'
      · rw [if_pos closing] at h
        subst closing
        cases depth with
        | zero =>
          cases h
          exact ⟨[], [], .nil, rfl, rfl⟩
        | succ depth =>
          obtain ⟨t, later, rfl⟩ := Option.map_eq_some_iff.mp h
          exact ⟨[], t, .nil, ih later, rfl⟩
      · rw [if_neg closing] at h
        obtain ⟨t, later, rfl⟩ := Option.map_eq_some_iff.mp h
        exact Closes.plain ⟨quote, opening, closing⟩ (ih later)

theorem balancedStart_of_leadingObject? (h : leadingObject? s = some object) : BalancedStart s object := by
  obtain ⟨front, opening⟩ := frontOf_of_leadingObject? h
  refine ⟨front.1, opening, ?_⟩
  cases s with
  | nil => cases h
  | cons c s =>
    rw [leadingObject?] at h
    split at h
    · next brace =>
      subst brace
      have inside : (balancedFrom? 1 .outside s).map ('\x7b' :: ·) = some object := by
        simpa [balancedFrom?] using h
      obtain ⟨t, later, rfl⟩ := Option.map_eq_some_iff.mp inside
      obtain ⟨inner, _, balanced, rfl, rfl⟩ := closesFrom_of_balancedFrom? later
      exact .braces balanced .nil
    · cases h

theorem leadingObject?_eq_some_iff : leadingObject? s = some object ↔ LeadingObject s object := by
  constructor
  · intro found
    refine ⟨balancedStart_of_leadingObject? found, fun other start => ?_⟩
    obtain ⟨least, matched, short⟩ := start.found
    rw [found, Option.some.injEq] at matched
    exact matched ▸ short
  · intro leading
    obtain ⟨found, matched, short⟩ := leading.found
    have start := balancedStart_of_leadingObject? matched
    have long := leading.shortest found start
    have same : found = object :=
      (List.prefix_of_prefix_length_le start.front leading.front short).eq_of_length (by omega)
    rw [matched, same]

/-- An object leads any text that goes on from it. -/
theorem LeadingObject.append (h : LeadingObject s object) (more : List Char) :
    LeadingObject (object ++ more) object := by
  refine ⟨⟨List.prefix_append object more, h.opening, h.balanced⟩, fun other start => ?_⟩
  by_contra short
  have inside : other <+: object :=
    List.prefix_of_prefix_length_le start.front (List.prefix_append object more) (by omega)
  exact short (h.shortest other ⟨inside.trans h.front, start.opening, start.balanced⟩)

theorem LeadingObject.trimStart (h : LeadingObject s object) : Text.trimStart s = s := by
  obtain ⟨behind, rfl⟩ := h.front
  obtain ⟨rest, rfl⟩ := List.head?_eq_some_iff.mp h.opening
  exact Text.trimStart_of_head (by decide)

/-! ## Objects behind markers -/

/-- Behind `before` the text has a marker, and behind that, after blanks, an object. -/
def MarksObject (s before object : List Char) : Prop :=
  ∃ blanks rest, s = before ++ (marker ++ (blanks ++ rest)) ∧ blanks.all Text.isBlank = true ∧
    LeadingObject rest object

theorem marksObject_iff {before : List Char} : MarksObject s before object ↔
    ∃ rest, s = before ++ (marker ++ rest) ∧ leadingObject? (Text.trimStart rest) = some object := by
  constructor
  · rintro ⟨blanks, rest, rfl, blank, leading⟩
    refine ⟨blanks ++ rest, rfl, ?_⟩
    rw [Text.trimStart_append blank, leading.trimStart]
    exact leadingObject?_eq_some_iff.mpr leading
  · rintro ⟨rest, rfl, found⟩
    refine ⟨rest.takeWhile Text.isBlank, Text.trimStart rest, ?_, List.all_takeWhile,
      leadingObject?_eq_some_iff.mp found⟩
    rw [Text.trimStart, List.takeWhile_append_dropWhile]

theorem findSome?_isPrefixOf? {α : Type} {f : List Char → Option α} {word : List Char} {a : α} :
    (word.isPrefixOf? s).toList.findSome? f = some a ↔ ∃ rest, s = word ++ rest ∧ f rest = some a := by
  constructor
  · intro found
    obtain ⟨rest, member, here⟩ := List.exists_of_findSome?_eq_some found
    exact ⟨rest, (List.isPrefixOf?_eq_some_iff_append_eq.mp (Option.mem_toList.mp member)).symm, here⟩
  · rintro ⟨rest, rfl, here⟩
    have front : word.isPrefixOf? (word ++ rest) = some rest := by simp
    rw [front, Option.toList_some, List.findSome?_singleton, here]

/-- A search behind each occurrence of a word ends at the first one behind which it succeeds. -/
theorem findSome?_afterEach {α : Type} {f : List Char → Option α} {word : List Char} {a : α} :
    (Text.afterEach word s).findSome? f = some a ↔ ∃ before rest, s = before ++ (word ++ rest) ∧
      f rest = some a ∧ ∀ earlier behind, s = earlier ++ (word ++ behind) → (f behind).isSome = true →
        before.length ≤ earlier.length := by
  induction s with
  | nil =>
    rw [Text.afterEach, findSome?_isPrefixOf?]
    constructor
    · rintro ⟨rest, split, here⟩
      exact ⟨[], rest, split, here, fun _ _ _ _ => Nat.zero_le _⟩
    · rintro ⟨before, rest, split, here, _⟩
      exact ⟨rest, (List.append_eq_nil_iff.mp split.symm).2.symm, here⟩
  | cons c s ih =>
    rw [Text.afterEach, List.findSome?_append, Option.or_eq_some_iff, findSome?_isPrefixOf?, ih]
    constructor
    · rintro (⟨rest, split, here⟩ | ⟨none, before, rest, split, here, first⟩)
      · exact ⟨[], rest, split, here, fun _ _ _ _ => Nat.zero_le _⟩
      refine ⟨c :: before, rest, by rw [split, List.cons_append], here, ?_⟩
      intro earlier behind split' finds
      cases earlier with
      | nil =>
        obtain ⟨b, finds⟩ := Option.isSome_iff_exists.mp finds
        rw [findSome?_isPrefixOf?.mpr ⟨behind, split', finds⟩] at none
        cases none
      | cons d earlier =>
        have later := first earlier behind (List.cons.inj split').2 finds
        simpa using later
    · rintro ⟨before, rest, split, here, first⟩
      cases before with
      | nil => exact .inl ⟨rest, split, here⟩
      | cons d before =>
        refine .inr ⟨?_, before, rest, (List.cons.inj split).2, here, ?_⟩
        · apply Option.eq_none_iff_forall_ne_some.mpr
          intro b found
          obtain ⟨behind, split', finds⟩ := findSome?_isPrefixOf?.mp found
          have none := first [] behind split' (by simp [finds])
          simp at none
        · intro earlier behind split' finds
          have later := first (c :: earlier) behind (by rw [split', List.cons_append]) finds
          simpa using later

/-- A marker with an object, and none before it has one. -/
def FirstObject (s before object : List Char) : Prop :=
  MarksObject s before object ∧
    ∀ earlier other, MarksObject s earlier other → before.length ≤ earlier.length

theorem payload?_eq_some_iff {p : List Char} : payload? s = some p ↔
    ∃ before object, FirstObject s before object ∧ p = payloadText object := by
  rw [payload?, Option.map_eq_some_iff]
  constructor
  · rintro ⟨object, found, rfl⟩
    obtain ⟨before, rest, split, here, first⟩ := findSome?_afterEach.mp found
    refine ⟨before, object, ⟨marksObject_iff.mpr ⟨rest, split, here⟩, fun earlier other marks => ?_⟩, rfl⟩
    obtain ⟨behind, split', there⟩ := marksObject_iff.mp marks
    exact first earlier behind split' (by rw [there, Option.isSome_some])
  · rintro ⟨before, object, ⟨marks, first⟩, rfl⟩
    obtain ⟨rest, split, here⟩ := marksObject_iff.mp marks
    refine ⟨object, findSome?_afterEach.mpr ⟨before, rest, split, here, ?_⟩, rfl⟩
    intro earlier behind split' finds
    obtain ⟨other, there⟩ := Option.isSome_iff_exists.mp finds
    exact first earlier other (marksObject_iff.mpr ⟨behind, split', there⟩)

theorem isSome_payload?_iff : (payload? s).isSome = true ↔ ∃ before object, MarksObject s before object := by
  constructor
  · intro some
    obtain ⟨p, found⟩ := Option.isSome_iff_exists.mp some
    obtain ⟨before, object, first, _⟩ := payload?_eq_some_iff.mp found
    exact ⟨before, object, first.1⟩
  · rintro ⟨before, object, marks⟩
    obtain ⟨rest, rfl, here⟩ := marksObject_iff.mp marks
    rw [payload?, Option.isSome_map]
    by_contra none
    have nowhere := List.findSome?_eq_none_iff.mp (Option.not_isSome_iff_eq_none.mp none) rest
      (Text.mem_afterEach marker before rest)
    rw [here] at nowhere
    cases nowhere

/-- A payload has its marker at the front, so it is found there whatever follows. -/
theorem payload?_payloadText (h : LeadingObject s object) (more : List Char) :
    payload? (payloadText object ++ more) = some (payloadText object) := by
  have marks : MarksObject (payloadText object ++ more) [] object :=
    ⟨[' '], object ++ more, by simp [payloadText], by decide, h.append more⟩
  exact payload?_eq_some_iff.mpr ⟨[], object, ⟨marks, fun _ _ _ => Nat.zero_le _⟩, rfl⟩

/-- There is a payload just when some marker is followed, after blanks, by an object.  It is the
object behind the first such marker, in one form; and whatever is written behind a payload, the
payload of the whole is the same. -/
theorem payload_is_first_object (s : List Char) :
    ((payload? s).isSome = true ↔ ∃ before object, MarksObject s before object) ∧
    (∀ p, payload? s = some p ↔
      ∃ before object, FirstObject s before object ∧ p = "vivafolio: ".toList ++ object) ∧
    ∀ p more, payload? s = some p → payload? (p ++ more) = some p := by
  refine ⟨isSome_payload?_iff, fun p => payload?_eq_some_iff, ?_⟩
  intro p more found
  obtain ⟨before, object, ⟨marks, _⟩, rfl⟩ := payload?_eq_some_iff.mp found
  obtain ⟨blanks, rest, _, _, leading⟩ := marks
  exact payload?_payloadText leading more

/-- The first marker has an object that is not complete, and the second stands inside it. -/
theorem payload_is_first_object_nested :
    payload? "vivafolio: \x7b\x7b vivafolio:\t\x7b\"\x7d\\\"\":\x7b\x7d\x7d !".toList =
        some "vivafolio: \x7b\"\x7d\\\"\":\x7b\x7d\x7d".toList ∧
    payload? ("vivafolio: \x7b\"\x7d\\\"\":\x7b\x7d\x7d".toList ++ "\x7d vivafolio: \x7b\x7d".toList) =
        some "vivafolio: \x7b\"\x7d\\\"\":\x7b\x7d\x7d".toList := by
  have found : payload? "vivafolio: \x7b\x7b vivafolio:\t\x7b\"\x7d\\\"\":\x7b\x7d\x7d !".toList =
      some "vivafolio: \x7b\"\x7d\\\"\":\x7b\x7d\x7d".toList := by decide
  exact ⟨found, (payload_is_first_object _).2.2 _ _ found⟩

end BlockDiscovery.Diagnostic
