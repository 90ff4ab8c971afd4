import BlockDiscovery.Proofs.Diagnostic.Noise

/-! # Quoted payloads

A toolchain may print a payload inside a quoted string.  Undoing the quoting gives the
payload back, and it moves no marker: what the scan drops is a backslash before a quote
or a backslash, and a marker holds neither.  The payload as it stands, still quoted, is
no JSON, because a key of an object starts with a quote.
-/

namespace BlockDiscovery.Diagnostic

open BlockDiscovery BlockDiscovery.Json

/-- The characters that quoting puts a backslash before. -/
def IsQuotable (c : Char) : Prop := c = '"' ∨ c = '\\'

instance (c : Char) : Decidable (IsQuotable c) := inferInstanceAs (Decidable (_ ∨ _))

/-- The text as it stands inside a quoted string. -/
def quoted (s : List Char) : List Char := s.flatMap fun c => if IsQuotable c then ['\\', c] else [c]

variable {c : Char} {w s t rest object : List Char}

@[simp] theorem quoted_append (s t : List Char) : quoted (s ++ t) = quoted s ++ quoted t :=
  List.flatMap_append

theorem quoted_cons_of_plain (h : ¬ IsQuotable c) (s : List Char) :
    quoted (c :: s) = c :: quoted s := by
  simp [quoted, h]

theorem quoted_cons_of_quotable (h : IsQuotable c) (s : List Char) :
    quoted (c :: s) = '\\' :: c :: quoted s := by
  simp [quoted, h]

theorem quoted_of_plain (h : ∀ c ∈ s, ¬ IsQuotable c) : quoted s = s := by
  induction s with
  | nil => rfl
  | cons c s ih =>
    obtain ⟨plain, others⟩ := List.forall_mem_cons.mp h
    rw [quoted_cons_of_plain plain, ih others]

/-! ## Undoing the quotes -/

theorem unescapeQuotes_cons (h : c ≠ '\\') (s : List Char) : unescapeQuotes (c :: s) = c :: unescapeQuotes s := by
  cases s with
  | nil => rfl
  | cons d s => simp [unescapeQuotes, h]

theorem unescapeQuotes_cons_of_plain (h : ¬ IsQuotable c) (s : List Char) :
    unescapeQuotes (c :: s) = c :: unescapeQuotes s :=
  unescapeQuotes_cons (fun same => h (.inr same)) s

theorem unescapeQuotes_pair (h : IsQuotable c) (s : List Char) :
    unescapeQuotes ('\\' :: c :: s) = c :: unescapeQuotes s := by
  have follows : c = '"' ∨ c = '\\' := h
  simp [unescapeQuotes, follows]

theorem unescapeQuotes_backslash (h : ¬ IsQuotable c) (s : List Char) :
    unescapeQuotes ('\\' :: c :: s) = '\\' :: unescapeQuotes (c :: s) := by
  have single : ¬ (c = '"' ∨ c = '\\') := h
  simp [unescapeQuotes, single]

/-- A character that is not quotable parts a text for the scan that undoes quotes. -/
theorem unescapeQuotes_append_cons (h : ¬ IsQuotable c) (s t : List Char) :
    unescapeQuotes (s ++ c :: t) = unescapeQuotes s ++ c :: unescapeQuotes t := by
  induction s using unescapeQuotes.induct with
  | case1 => exact unescapeQuotes_cons_of_plain h t
  | case2 d =>
    by_cases backslash : d = '\\'
    · subst backslash
      rw [List.singleton_append, unescapeQuotes_backslash h, unescapeQuotes_cons_of_plain h]
      rfl
    · rw [List.singleton_append, unescapeQuotes_cons backslash, unescapeQuotes_cons_of_plain h]
      rfl
  | case3 d e rest pair ih =>
    obtain ⟨rfl, quotable⟩ := pair
    rw [List.cons_append, List.cons_append, unescapeQuotes_pair quotable, unescapeQuotes_pair quotable, ih]
    rfl
  | case4 d e rest other ih =>
    rw [List.cons_append, List.cons_append, unescapeQuotes, if_neg other, ← List.cons_append, ih,
      unescapeQuotes, if_neg other, List.cons_append]

theorem unescapeQuotes_of_notMem (h : '\\' ∉ s) : unescapeQuotes s = s := by
  induction s with
  | nil => rfl
  | cons c s ih =>
    simp only [List.mem_cons, not_or] at h
    rw [unescapeQuotes_cons (Ne.symm h.1), ih h.2]

/-- Whatever is behind a quoted text, undoing the quotes gives that text. -/
theorem unescapeQuotes_quoted (s behind : List Char) :
    unescapeQuotes (quoted s ++ behind) = s ++ unescapeQuotes behind := by
  induction s with
  | nil => rfl
  | cons c s ih =>
    by_cases quotable : IsQuotable c
    · rw [quoted_cons_of_quotable quotable, List.cons_append, List.cons_append,
        unescapeQuotes_pair quotable, ih, List.cons_append]
    · rw [quoted_cons_of_plain quotable, List.cons_append, unescapeQuotes_cons_of_plain quotable, ih,
        List.cons_append]

/-- A word without quotes and backslashes starts the unescaped text where it starts the
text. -/
theorem isPrefixOf?_unescapeQuotes (plain : ∀ c ∈ w, ¬ IsQuotable c) (s : List Char) :
    w.isPrefixOf? (unescapeQuotes s) = (w.isPrefixOf? s).map unescapeQuotes := by
  induction w generalizing s with
  | nil => rfl
  | cons a w ih =>
    obtain ⟨first, others⟩ := List.forall_mem_cons.mp plain
    cases s with
    | nil => rfl
    | cons c s =>
      by_cases same : a = c
      · subst same
        rw [unescapeQuotes_cons_of_plain first]
        simp [List.isPrefixOf?, ih others]
      have differs : (a == c) = false := by simpa using same
      cases s with
      | nil => simp [unescapeQuotes, List.isPrefixOf?, differs]
      | cons d s =>
        rw [unescapeQuotes]
        split
        · next pair =>
          have kept : (a == d) = false := by
            rw [beq_eq_false_iff_ne]
            rintro rfl
            exact first pair.2
          simp [List.isPrefixOf?, differs, kept]
        · simp [List.isPrefixOf?, differs]

theorem afterEach_cons_unescapeQuotes (plain : ∀ c ∈ w, ¬ IsQuotable c)
    (kept : unescapeQuotes (c :: s) = c :: unescapeQuotes s)
    (ih : Text.afterEach w (unescapeQuotes s) = (Text.afterEach w s).map unescapeQuotes) :
    Text.afterEach w (unescapeQuotes (c :: s)) = (Text.afterEach w (c :: s)).map unescapeQuotes := by
  have here := isPrefixOf?_unescapeQuotes plain (c :: s)
  rw [kept] at here ⊢
  rw [Text.afterEach, here, ih, Text.afterEach, List.map_append, Option.toList_map]

/-- The unescaped text has a word without quotes and backslashes where the text has it. -/
theorem afterEach_unescapeQuotes (plain : ∀ c ∈ w, ¬ IsQuotable c) (filled : w ≠ []) (s : List Char) :
    Text.afterEach w (unescapeQuotes s) = (Text.afterEach w s).map unescapeQuotes := by
  have nothing : Text.afterEach w [] = [] := by
    cases w with
    | nil => exact absurd rfl filled
    | cons a w => rfl
  induction s using unescapeQuotes.induct with
  | case1 => simp only [unescapeQuotes, nothing, List.map_nil]
  | case2 c =>
    apply afterEach_cons_unescapeQuotes plain rfl
    simp only [unescapeQuotes, nothing, List.map_nil]
  | case3 c d rest pair ih =>
    obtain ⟨rfl, quotable⟩ := pair
    have missing : ∀ c, IsQuotable c → ∀ s, w.isPrefixOf? (c :: s) = none := by
      intro c quotable s
      cases w with
      | nil => exact absurd rfl filled
      | cons a w =>
        have differs : a ≠ c := by
          rintro rfl
          exact plain a List.mem_cons_self quotable
        simp [List.isPrefixOf?, differs]
    rw [unescapeQuotes_pair quotable, Text.afterEach, Text.afterEach, Text.afterEach, ih,
      missing d quotable, missing d quotable, missing '\\' (.inr rfl)]
    rfl
  | case4 c d rest other ih =>
    apply afterEach_cons_unescapeQuotes plain _ ih
    rw [unescapeQuotes, if_neg other]

/-! ## Objects still quoted -/

/-- Behind its brace, an object that is read ends or starts with the quote of a key. -/
theorem skipBlank_of_readValue {fuel : Nat} {inner r : List Char}
    (opening : skipBlank s = '\x7b' :: inner) (h : (readValue fuel s).rest = some r) :
    skipBlank inner = '\x7d' :: r ∨ ∃ more, skipBlank inner = '"' :: more := by
  cases fuel with
  | zero => cases h
  | succ fuel =>
    rw [readValue, opening] at h
    simp only [Char.reduceEq, if_false, if_true] at h
    cases front : skipBlank inner with
    | nil =>
      simp only [front] at h
      cases h
    | cons d more =>
      simp only [front] at h
      by_cases closing : d = '\x7d'
      · simp only [if_pos closing, Option.some.injEq] at h
        exact .inl (by rw [closing, h])
      simp only [if_neg closing] at h
      by_cases quote : d = '"'
      · exact .inr ⟨more, by rw [quote]⟩
      have still : skipBlank (d :: more) = d :: more := by
        rw [← front, skipBlank, skipBlank, List.dropWhile_idempotent]
      cases fuel with
      | zero => cases h
      | succ fuel =>
        simp only [readMembers, still, if_neg quote] at h
        cases h

/-- The braces of an object with nothing in it. -/
def emptyBraces (blanks : List Char) : List Char := '\x7b' :: (blanks ++ ['\x7d'])

/-- A payload that is JSON has braces with nothing in them, or a key behind the first brace. -/
theorem object_cases_of_isJsonPayload (h : leadingObject? s = some found)
    (json : isJsonPayload (payloadText found) = true) :
    ∃ blanks, (∀ c ∈ blanks, isJsonBlank c = true) ∧
      (found = emptyBraces blanks ∨ ∃ more, found = '\x7b' :: (blanks ++ '"' :: more)) := by
  obtain ⟨⟨-, closing⟩, opening⟩ := frontOf_of_leadingObject? h
  obtain ⟨inner, rfl⟩ := List.head?_eq_some_iff.mp opening
  have behind : marker.isPrefixOf? (payloadText ('\x7b' :: inner)) = some (' ' :: '\x7b' :: inner) := by
    simp [payloadText]
  rw [isJsonPayload, behind] at json
  have parts : inner.takeWhile isJsonBlank ++ skipBlank inner = inner := List.takeWhile_append_dropWhile
  refine ⟨inner.takeWhile isJsonBlank, fun _ member => List.mem_takeWhile_imp member, ?_⟩
  dsimp only at json
  rw [isLooseJson] at json
  split at json
  · next doc rest read =>
    have front : skipBlank (' ' :: '\x7b' :: inner) = '\x7b' :: inner := rfl
    obtain closed | ⟨more, quote⟩ := skipBlank_of_readValue front (congrArg Reading.rest read)
    · left
      have blank : ∀ c ∈ rest, isJsonBlank c = true :=
        List.dropWhile_eq_nil_iff.mp (List.isEmpty_iff.mp (Bool.and_eq_true_iff.mp json).2)
      obtain rfl : rest = [] := by
        by_contra filled
        have last : rest.getLast filled = '\x7d' := by
          rw [← parts, closed, ← List.cons_append, List.getLast?_append, List.getLast?_cons,
            List.getLast?_eq_some_getLast filled] at closing
          simpa using closing
        exact absurd (blank _ (List.getLast_mem filled)) (by rw [last]; decide)
      rw [emptyBraces, ← closed, parts]
    · right
      exact ⟨more, by rw [← quote, parts]⟩
  · cases json

theorem isObjectText_emptyBraces {blanks : List Char} (blank : ∀ c ∈ blanks, isJsonBlank c = true) :
    IsObjectText (emptyBraces blanks) where
  opening := rfl
  closing := by rw [emptyBraces, List.getLast?_cons, List.getLast?_concat]; rfl
  valid := by
    have inside : skipBlank (blanks ++ ['\x7d']) = ['\x7d'] := by
      rw [skipBlank, List.dropWhile_append_of_pos blank]
      rfl
    have opened : skipBlank (emptyBraces blanks) = emptyBraces blanks := rfl
    have read : Doc.read (emptyBraces blanks) = ⟨.object [] .closed, some []⟩ := by
      rw [Doc.read, readValue, opened]
      simp [emptyBraces, inside]
    rw [isLooseJson, read]
    rfl

theorem objectText_cases (h : IsObjectText object) :
    ∃ blanks, (∀ c ∈ blanks, isJsonBlank c = true) ∧
      (object = emptyBraces blanks ∨ ∃ more, object = '\x7b' :: (blanks ++ '"' :: more)) := by
  have alone := leadingObject?_objectText h []
  exact object_cases_of_isJsonPayload (by simpa using alone) (isJsonPayload_payloadText h)

theorem plain_of_isJsonBlank (blank : isJsonBlank c = true) : ¬ IsQuotable c := by
  rintro (rfl | rfl) <;> cases blank

/-- What the matcher finds of an object that is still quoted is no JSON. -/
theorem isJsonPayload_quoted {blanks more found : List Char}
    (blank : ∀ c ∈ blanks, isJsonBlank c = true)
    (h : leadingObject? ('\x7b' :: (blanks ++ '\\' :: more)) = some found) :
    isJsonPayload (payloadText found) = false := by
  rw [Bool.eq_false_iff]
  intro json
  obtain ⟨behind, whole⟩ := (frontOf_of_leadingObject? h).1.1
  have stuck : skipBlank (blanks ++ '\\' :: more) = '\\' :: more := by
    rw [skipBlank, List.dropWhile_append_of_pos blank]
    rfl
  obtain ⟨inner, inside, rfl | ⟨key, rfl⟩⟩ := object_cases_of_isJsonPayload h json
  · have same : inner ++ '\x7d' :: behind = blanks ++ '\\' :: more := by simpa [emptyBraces] using whole
    rw [← same, skipBlank, List.dropWhile_append_of_pos inside] at stuck
    cases stuck
  · have same : inner ++ '"' :: (key ++ behind) = blanks ++ '\\' :: more := by simpa using whole
    rw [← same, skipBlank, List.dropWhile_append_of_pos inside] at stuck
    cases stuck

/-! ## Adapters -/

theorem plain_marker : ∀ c ∈ marker, ¬ IsQuotable c := by
  have letters : (marker.all fun c => !decide (IsQuotable c)) = true := by decide
  simpa using letters

theorem payload?_single (h : Text.afterEach marker s = [' ' :: rest]) :
    payload? s = (leadingObject? (Text.trimStart rest)).map payloadText := by
  have blank : Text.trimStart ([' '] ++ rest) = Text.trimStart rest := Text.trimStart_append rfl
  rw [payload?, h, List.findSome?_singleton, ← List.singleton_append, blank]

theorem payload?_object (valid : IsObjectText object) {behind : List Char}
    (h : Text.afterEach marker s = [' ' :: (object ++ behind)]) :
    payload? s = some (payloadText object) := by
  rw [payload?_single h, trimStart_objectText valid, leadingObject?_objectText valid]
  rfl

/-- The only marker of a text has a quoted object behind it: the text as it stands has no
payload that is JSON, unless quoting left the object alone. -/
theorem payloadIn?_quoted (valid : IsObjectText object) {before behind : List Char}
    (text : s = before ++ (marker ++ ' ' :: (quoted object ++ behind)))
    (single : (Text.afterEach marker s).length = 1) :
    payloadIn? s = some (payloadText object) := by
  have cut := Text.afterEach_single text single
  have good := isJsonPayload_payloadText valid
  obtain ⟨blanks, blank, empty | ⟨more, key⟩⟩ := objectText_cases valid
  · have same : quoted object = object := by
      apply quoted_of_plain
      intro c member
      rw [empty, emptyBraces, List.mem_cons, List.mem_append, List.mem_singleton] at member
      obtain rfl | inside | rfl := member
      · decide
      · exact plain_of_isJsonBlank (blank c inside)
      · decide
    rw [same] at cut
    simp [payloadIn?, payload?_object valid cut, good]
  have still : quoted object = '\x7b' :: (blanks ++ '\\' :: '"' :: quoted more) := by
    rw [key, quoted_cons_of_plain (by decide), quoted_append, quoted_cons_of_quotable (.inl rfl),
      quoted_of_plain fun c member => plain_of_isJsonBlank (blank c member)]
  have direct : (payload? s).any isJsonPayload = false := by
    rw [payload?_single cut, still, List.cons_append, Text.trimStart_of_head (by decide),
      List.append_assoc, List.cons_append]
    cases matched : leadingObject? ('\x7b' :: (blanks ++ '\\' :: ('"' :: quoted more ++ behind))) with
    | none => rfl
    | some found => exact isJsonPayload_quoted blank matched
  have escaped : Text.hasWord ['\\', '"'] s = true := by
    have here := Text.hasWord_append ['\\', '"'] (before ++ (marker ++ ' ' :: '\x7b' :: blanks))
      (quoted more ++ behind)
    rw [text, still]
    simpa using here
  have unquoted : Text.afterEach marker (unescapeQuotes s) = [' ' :: (object ++ unescapeQuotes behind)] := by
    rw [afterEach_unescapeQuotes plain_marker (by decide), cut, List.map_singleton,
      unescapeQuotes_cons_of_plain (by decide), unescapeQuotes_quoted]
  simp [payloadIn?, direct, escaped, payload?_object valid unquoted, good]

/-- A payload that a message holds in quotes, behind its only marker, is handed on without
the quotes, whatever stands around it. -/
theorem clean_quoted {language : String} {adapter : Adapter} {message before behind : List Char}
    (known : Registry.standard.get? language = some adapter) (valid : IsObjectText object)
    (split : stripEscapes message = before ++ quoted (payloadText object) ++ behind)
    (single : (Text.afterEach marker (stripEscapes message)).length = 1) :
    adapter.clean message = payloadText object := by
  obtain ⟨noise, pipeline⟩ := clean_builtin known
  have text : stripEscapes message = before ++ (marker ++ ' ' :: (quoted object ++ behind)) := by
    rw [split, payloadText, quoted_append, quoted_of_plain plain_marker, quoted_cons_of_plain (by decide)]
    simp
  rw [pipeline]
  simp only [cleanWith, payloadIn?_quoted valid text single]

/-- A panic message that quotes a payload with a quote and a backslash in a string. -/
theorem clean_quoted_panic :
    Registry.standard.get? "go" = some .go ∧
    IsObjectText "\x7b \"a\": \"\\\"\x7d\\\\\"\x7d".toList ∧
    stripEscapes "C:\\\"vivafolio: \x7b \\\"a\\\": \\\"\\\\\\\"\x7d\\\\\\\\\\\"\x7d\" \x7d".toList =
      "C:\\\"".toList ++ quoted (payloadText "\x7b \"a\": \"\\\"\x7d\\\\\"\x7d".toList) ++
        "\" \x7d".toList ∧
    Adapter.clean .go
        "C:\\\"vivafolio: \x7b \\\"a\\\": \\\"\\\\\\\"\x7d\\\\\\\\\\\"\x7d\" \x7d".toList =
      "vivafolio: \x7b \"a\": \"\\\"\x7d\\\\\"\x7d".toList := by
  have known : Registry.standard.get? "go" = some .go := by cbv
  have valid : IsObjectText "\x7b \"a\": \"\\\"\x7d\\\\\"\x7d".toList := ⟨rfl, rfl, by cbv⟩
  have split : stripEscapes
      "C:\\\"vivafolio: \x7b \\\"a\\\": \\\"\\\\\\\"\x7d\\\\\\\\\\\"\x7d\" \x7d".toList =
      "C:\\\"".toList ++ quoted (payloadText "\x7b \"a\": \"\\\"\x7d\\\\\"\x7d".toList) ++
        "\" \x7d".toList := by
    cbv
  exact ⟨known, valid, split, clean_quoted known valid split (by cbv)⟩

end BlockDiscovery.Diagnostic
