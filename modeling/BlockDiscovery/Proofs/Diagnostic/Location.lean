import BlockDiscovery.Proofs.Diagnostic.Label
import BlockDiscovery.Proofs.Diagnostic.Quoting
import BlockDiscovery.Proofs.Text.Lines

/-! # Leading locations

A location is a path and numbers, written with colons or in parentheses.  `Located` says of a location
what may stand behind it; whatever else that is, the location is taken away and nothing more.
-/

namespace BlockDiscovery.Diagnostic

open BlockDiscovery

/-! ## Locations -/

/-- A number as it is written. -/
structure Digits (s : List Char) : Prop where
  filled : s ≠ []
  digits : ∀ c ∈ s, c.isDigit = true

/-- A number with blanks around it. -/
inductive Padded : List Char → Prop
  | mk {left number right : List Char} (before : left.all Text.isBlank = true) (written : Digits number)
      (after : right.all Text.isBlank = true) : Padded (left ++ (number ++ right))

/-- Without blanks and opening parentheses. -/
def Compact (s : List Char) : Prop := ∀ c ∈ s, Text.isBlank c = false ∧ c ≠ '('

instance (s : List Char) : Decidable (Compact s) :=
  List.decidableBAll _ s

/-- A path that a location may begin with. -/
structure LocationPath (path : List Char) : Prop where
  filled : path ≠ []
  compact : Compact path

/-- Nothing, or something that a blank sets apart. -/
def Apart (rest : List Char) : Prop := ∀ c ∈ rest.head?, Text.isBlank c = true

instance (rest : List Char) : Decidable (Apart rest) :=
  Option.decidableForallMem _

/-- A location and what may stand behind it. -/
inductive Located : List Char → List Char → Prop
  /-- With a line and a column. -/
  | point {path line column rest : List Char} (place : LocationPath path) (row : Digits line)
      (offset : Digits column) (apart : Apart rest) :
      Located (path ++ ':' :: (line ++ ':' :: (column ++ [':']))) rest
  /-- With a line only, when the part of the path behind its last colon is no number. -/
  | line {folder name line rest : List Char} (place : LocationPath (folder ++ name))
      (last : folder = [] ∨ folder.getLast? = some ':') (single : ':' ∉ name) (named : name ≠ [])
      (unnumbered : ¬ Digits name) (row : Digits line) (apart : Apart rest) :
      Located (folder ++ (name ++ ':' :: (line ++ [':']))) rest
  /-- With numbers in parentheses. -/
  | call {path rest : List Char} {numbers : List (List Char)} {colon : List Char} (place : LocationPath path)
      (several : numbers ≠ []) (padded : ∀ n ∈ numbers, Padded n) (optional : colon = [] ∨ colon = [':'])
      (unlike : rest.head? ≠ some ':') :
      Located (path ++ '(' :: ([','].intercalate numbers ++ ')' :: colon)) rest

variable {s path word place rest blanks : List Char}

theorem isNumeral_iff : isNumeral s = true ↔ Digits s := by
  rw [isNumeral, Bool.and_eq_true, List.all_eq_true]
  constructor
  · rintro ⟨filled, digits⟩
    exact ⟨by simpa using filled, digits⟩
  · rintro ⟨filled, digits⟩
    exact ⟨by simpa using filled, digits⟩

theorem Digits.compact (h : Digits s) : Compact s := fun c member => by
  have digit := h.digits c member
  refine ⟨Text.isBlank_of_isDigit digit, ?_⟩
  rintro rfl
  cases digit

theorem compact_nil : Compact [] := List.forall_mem_nil _

theorem Compact.append {t : List Char} (first : Compact s) (second : Compact t) : Compact (s ++ t) :=
  fun _ => List.forall_mem_append.mpr ⟨first, second⟩ _

theorem Compact.colon (h : Compact s) : Compact (':' :: s) :=
  fun _ => List.forall_mem_cons.mpr ⟨by decide, h⟩ _

theorem Compact.notMem (h : Compact s) : '(' ∉ s := fun member => (h '(' member).2 rfl

/-! ## Colons -/

theorem cutAtLastColon?_append {after : List Char} (before : List Char) (h : ':' ∉ after) :
    cutAtLastColon? (before ++ ':' :: after) = some (before, after) := by
  have first : ':' ∉ after.reverse := by rwa [List.mem_reverse]
  rw [cutAtLastColon?, List.reverse_append, List.reverse_cons, List.append_assoc, List.singleton_append,
    Text.cutAt?_append _ first]
  simp

theorem cutAtLastColon?_of_notMem (h : ':' ∉ s) : cutAtLastColon? s = none := by
  rw [cutAtLastColon?, Text.cutAt?_eq_none_iff.mpr (by simpa using h)]
  rfl

theorem Digits.notMem (h : Digits s) {c : Char} (other : c.isDigit = false) : c ∉ s := fun member => by
  rw [h.digits c member] at other
  cases other

theorem isColonLocation_point {line column : List Char} (filled : path ≠ []) (row : Digits line)
    (offset : Digits column) : isColonLocation (path ++ ':' :: (line ++ ':' :: column)) = true := by
  have outer := cutAtLastColon?_append (path ++ ':' :: line) (offset.notMem (c := ':') (by decide))
  have inner := cutAtLastColon?_append path (row.notMem (c := ':') (by decide))
  rw [List.append_assoc, List.cons_append] at outer
  rw [isColonLocation, outer]
  simp [inner, isNumeral_iff.mpr offset, row.filled, filled]

theorem isColonLocation_line {folder name line : List Char} (last : folder = [] ∨ folder.getLast? = some ':')
    (single : ':' ∉ name) (named : name ≠ []) (unnumbered : ¬ Digits name) (row : Digits line) :
    isColonLocation (folder ++ (name ++ ':' :: line)) = true := by
  have outer := cutAtLastColon?_append (folder ++ name) (row.notMem (c := ':') (by decide))
  have unlike : isNumeral name = false := Bool.eq_false_iff.mpr fun h => unnumbered (isNumeral_iff.mp h)
  rw [List.append_assoc] at outer
  rw [isColonLocation, outer]
  obtain rfl | colon := last
  · simp [cutAtLastColon?_of_notMem single, isNumeral_iff.mpr row, named, unlike]
  · obtain ⟨front, rfl⟩ := List.getLast?_eq_some_iff.mp colon
    have inner := cutAtLastColon?_append front single
    rw [List.append_assoc, List.singleton_append]
    simp [inner, isNumeral_iff.mpr row, named, unlike]

theorem afterColonLocation?_append (compact : Compact (word ++ [':'])) (located : isColonLocation word = true)
    (apart : Apart rest) : afterColonLocation? ((word ++ [':']) ++ rest) = some (Text.trimStart rest) := by
  have visible : ∀ c ∈ word ++ [':'], (!Text.isBlank c) = true := fun c member => by
    rw [(compact c member).1]
    rfl
  have stops : rest.takeWhile (fun c => !Text.isBlank c) = [] ∧ rest.dropWhile (fun c => !Text.isBlank c) = rest := by
    cases rest with
    | nil => exact ⟨rfl, rfl⟩
    | cons c rest =>
      have blank := apart c rfl
      simp [blank]
  rw [afterColonLocation?, List.takeWhile_append_of_pos visible, List.dropWhile_append_of_pos visible, stops.1,
    stops.2, List.append_nil]
  simp [located]

/-- A parenthesis behind the first blank belongs to no location. -/
theorem afterParenLocation?_apart (compact : Compact place) (apart : Apart rest) :
    afterParenLocation? (place ++ rest) = none := by
  rw [afterParenLocation?]
  cases cut : Text.cutAt? '(' (place ++ rest) with
  | none => rfl
  | some parts =>
    obtain ⟨front, behind⟩ := parts
    obtain ⟨text, _⟩ := Text.cutAt?_eq_some_iff.mp cut
    have blank : front.any Text.isBlank = true := by
      obtain ⟨more, rfl, tail⟩ | ⟨more, rfl, tail⟩ := List.append_eq_append_iff.mp text
      · cases more with
        | nil => exact absurd (apart '(' (by simp [tail])) (by decide)
        | cons c more => simp [apart c (by simp [tail])]
      · cases more with
        | nil =>
          obtain rfl : '(' :: behind = rest := tail
          exact absurd (apart '(' rfl) (by decide)
        | cons c more =>
          cases tail
          exact absurd (List.mem_append_right front List.mem_cons_self) compact.notMem
    simp [blank]

/-! ## Parentheses -/

theorem Digits.trim (h : Digits s) : Text.trim s = s := by
  have visible {c : Char} (member : c ∈ s) : Text.isBlank c = false := Text.isBlank_of_isDigit (h.digits c member)
  have first := List.head?_eq_some_head h.filled
  have last := List.getLast?_eq_some_getLast h.filled
  exact Text.trim_of_edges first last (visible (List.mem_of_head? first)) (visible (List.mem_of_getLast? last))

theorem Padded.isNumeral {n : List Char} (padded : Padded n) : isNumeral (Text.trim n) = true := by
  cases padded with
  | @mk left number right before written after =>
    have inner : Text.trim (left ++ (number ++ right)) = number := by
      rw [← List.append_assoc, Text.trim_append_blanks _ after, Text.trim, Text.trimStart_append before]
      exact written.trim
    rw [inner]
    exact isNumeral_iff.mpr written

theorem Padded.notMem {n : List Char} (padded : Padded n) {c : Char} (visible : Text.isBlank c = false)
    (other : c.isDigit = false) : c ∉ n := by
  cases padded with
  | @mk left number right before written after =>
    have outside {blanks : List Char} (blank : blanks.all Text.isBlank = true) : c ∉ blanks := fun member => by
      rw [List.all_eq_true.mp blank c member] at visible
      cases visible
    simp [outside before, outside after, written.notMem other]

theorem afterParenLocation?_append {numbers : List (List Char)} {colon : List Char} (place : LocationPath path)
    (several : numbers ≠ []) (padded : ∀ n ∈ numbers, Padded n) (optional : colon = [] ∨ colon = [':'])
    (unlike : rest.head? ≠ some ':') :
    afterParenLocation? ((path ++ '(' :: ([','].intercalate numbers ++ ')' :: colon)) ++ rest) =
      some (Text.trimStart rest) := by
  have closed : ')' ∉ [','].intercalate numbers :=
    Text.notMem_intercalate (by decide) fun n member => (padded n member).notMem (by decide) (by decide)
  have parts := Text.pieces_intercalate several fun n member =>
    (padded n member).notMem (c := ',') (by decide) (by decide)
  have unbroken : path.any Text.isBlank = false := by
    simpa using fun c member => (place.compact c member).1
  have numerals : numbers.all (fun n => isNumeral (Text.trim n)) = true :=
    List.all_eq_true.mpr fun n member => (padded n member).isNumeral
  have text : (path ++ '(' :: ([','].intercalate numbers ++ ')' :: colon)) ++ rest =
      path ++ '(' :: ([','].intercalate numbers ++ ')' :: (colon ++ rest)) := by simp
  rw [text, afterParenLocation?, Text.cutAt?_append _ place.compact.notMem]
  simp only [List.isEmpty_eq_false_iff.mpr place.filled, unbroken, Bool.or_self, Bool.false_eq_true, if_false,
    Text.cutAt?_append _ closed, parts, numerals, if_true]
  obtain rfl | rfl := optional
  · rw [List.nil_append]
    split
    · next behind => exact absurd rfl unlike
    · rfl
  · rfl

/-! ## Every location -/

/-- What is written with colons is one word, and nothing in parentheses. -/
theorem behind_word (compact : Compact (word ++ [':'])) (located : isColonLocation word = true) (apart : Apart rest) :
    (afterParenLocation? ((word ++ [':']) ++ rest)).or (afterColonLocation? ((word ++ [':']) ++ rest)) =
      some (Text.trimStart rest) := by
  rw [afterParenLocation?_apart compact apart, afterColonLocation?_append compact located apart]
  rfl

namespace Located

theorem behind (located : Located place rest) :
    (afterParenLocation? (place ++ rest)).or (afterColonLocation? (place ++ rest)) = some (Text.trimStart rest) := by
  cases located with
  | @point path line column rest place row offset apart =>
    have word : path ++ ':' :: (line ++ ':' :: (column ++ [':'])) =
        (path ++ ':' :: (line ++ ':' :: column)) ++ [':'] := by simp
    have compact : Compact (path ++ ':' :: (line ++ ':' :: (column ++ [':']))) :=
      place.compact.append (row.compact.append (offset.compact.append compact_nil.colon).colon).colon
    rw [word] at compact ⊢
    exact behind_word compact (isColonLocation_point place.filled row offset) apart
  | @line folder name line rest place last single named unnumbered row apart =>
    have word : folder ++ (name ++ ':' :: (line ++ [':'])) = (folder ++ (name ++ ':' :: line)) ++ [':'] := by simp
    have compact : Compact ((folder ++ name) ++ ':' :: (line ++ [':'])) :=
      place.compact.append (row.compact.append compact_nil.colon).colon
    rw [List.append_assoc, word] at compact
    rw [word]
    exact behind_word compact (isColonLocation_line last single named unnumbered row) apart
  | call place several padded optional unlike =>
    rw [afterParenLocation?_append place several padded optional unlike]
    rfl

theorem beginning (located : Located place rest) : ∃ c more, place = c :: more ∧ Text.isBlank c = false := by
  have start {path : List Char} (h : LocationPath path) (more : List Char) :
      ∃ c behind, path ++ more = c :: behind ∧ Text.isBlank c = false := by
    obtain ⟨c, path, rfl⟩ := List.exists_cons_of_ne_nil h.filled
    exact ⟨c, path ++ more, rfl, (h.compact c List.mem_cons_self).1⟩
  cases located with
  | point place => exact start place _
  | line place => exact List.append_assoc _ _ _ ▸ start place _
  | call place => exact start place _

theorem ending (located : Located place rest) : ∃ front c, place = front ++ [c] ∧ Text.isBlank c = false := by
  cases located with
  | @point path line column rest => exact ⟨path ++ ':' :: (line ++ ':' :: column), ':', by simp, by decide⟩
  | @line folder name line rest => exact ⟨folder ++ (name ++ ':' :: line), ':', by simp, by decide⟩
  | @call path rest numbers colon place several padded optional =>
    obtain rfl | rfl := optional
    · exact ⟨path ++ '(' :: [','].intercalate numbers, ')', by simp, by decide⟩
    · exact ⟨path ++ '(' :: ([','].intercalate numbers ++ [')']), ':', by simp, by decide⟩

theorem trimStart (located : Located place rest) (blank : blanks.all Text.isBlank = true) :
    Text.trimStart (blanks ++ (place ++ rest)) = place ++ rest := by
  obtain ⟨c, more, same, visible⟩ := located.beginning
  rw [Text.trimStart_append blank, same]
  exact Text.trimStart_of_head visible

theorem trim (located : Located place rest) (blank : blanks.all Text.isBlank = true) :
    Text.trim (blanks ++ (place ++ rest)) = place ++ Text.trimEnd rest := by
  obtain ⟨front, c, same, visible⟩ := located.ending
  rw [Text.trim, located.trimStart blank, same, List.append_assoc, List.append_assoc]
  exact Text.trimEnd_append_cons visible front rest

theorem stripLocation (located : Located place rest) (blank : blanks.all Text.isBlank = true) :
    stripLocation (blanks ++ (place ++ rest)) = Text.trimStart rest := by
  rw [Diagnostic.stripLocation, located.trimStart blank, located.behind]
  rfl

/-- What may stand behind a location may end earlier. -/
theorem shorten {more : List Char} (located : Located place (rest ++ more)) : Located place rest := by
  have start {c : Char} (first : rest.head? = some c) : (rest ++ more).head? = some c := by
    rw [List.head?_append, first]
    rfl
  cases located with
  | point place row offset apart => exact .point place row offset fun c first => apart c (start first)
  | line place last single named unnumbered row apart =>
    exact .line place last single named unnumbered row fun c first => apart c (start first)
  | call place several padded optional unlike =>
    exact .call place several padded optional fun first => unlike (start first)

end Located

/-! ## Texts without a marker -/

theorem payloadIn?_of_unmarked (unmarked : Text.hasWord marker s = false) : payloadIn? s = none := by
  have direct : payload? s = none := by
    rw [payload?, Text.afterEach_eq_nil unmarked]
    rfl
  have unescaped : payload? (unescapeQuotes s) = none := by
    rw [payload?, afterEach_unescapeQuotes plain_marker (by decide), Text.afterEach_eq_nil unmarked]
    rfl
  simp [payloadIn?, direct, unescaped]

theorem markerLine?_of_unmarked (unmarked : Text.hasWord marker s = false) : markerLine? s = none := by
  refine List.find?_eq_none.mpr fun line member marked => ?_
  have inside := (Text.hasWord_iff_isInfix.mp marked).trans (Text.isInfix_of_mem_lines member)
  rw [Text.hasWord_iff_isInfix.mpr inside] at unmarked
  cases unmarked

theorem cleanWith_unmarked {message : List Char} (noise : List Char → List Char)
    (plain : esc ∉ message ∧ singleIntroducer ∉ message) (unmarked : ¬ marker <:+: message) :
    cleanWith noise message = Text.trim (noise (Text.trim message)) := by
  have missing : Text.hasWord marker message = false := Bool.eq_false_iff.mpr fun h =>
    unmarked (Text.hasWord_iff_isInfix.mp h)
  have kept : stripEscapes message = message := stripEscapes_of_plain fun c member => by
    have opens : c ≠ esc := fun same => plain.1 (same ▸ member)
    have introduces : c ≠ singleIntroducer := fun same => plain.2 (same ▸ member)
    simp [isPlain, opens, introduces]
  simp only [cleanWith, kept, payloadIn?_of_unmarked missing, markerLine?_of_unmarked missing, Option.getD_none]

theorem Located.stripLocated (located : Located place rest) (blank : blanks.all Text.isBlank = true) :
    Text.trim (stripLocated (Text.trim (blanks ++ (place ++ rest)))) = Text.trim (stripSeverity rest) := by
  obtain ⟨tail, empty, whole⟩ := Text.exists_append_trimEnd rest
  have shorter : Located place (Text.trimEnd rest) := by
    rw [whole] at located
    exact located.shorten
  have removed : Diagnostic.stripLocation (place ++ Text.trimEnd rest) = Text.trimStart (Text.trimEnd rest) :=
    shorter.stripLocation List.all_nil
  calc Text.trim (Diagnostic.stripLocated (Text.trim (blanks ++ (place ++ rest))))
      = Text.trim (stripSeverity (Text.trimStart (Text.trimEnd rest))) := by
        rw [located.trim blank, Diagnostic.stripLocated, removed]
    _ = Text.trim (stripSeverity (Text.trimEnd rest ++ tail)) := by
        rw [stripSeverity_trimStart, trim_stripSeverity_append_blanks empty]
    _ = Text.trim (stripSeverity rest) := by rw [← whole]

/-! ## What is left -/

/-- A leading location is taken away and nothing but the blanks around it, whatever follows.  So the
adapters that know locations make of a message without escape sequences and markers what is behind its
location, without labels and blanks. -/
theorem leading_location_is_removed (located : Located place rest)
    (blank : blanks.all Text.isBlank = true) :
    stripLocation (blanks ++ (place ++ rest)) = Text.trimStart rest ∧
    (esc ∉ blanks ++ (place ++ rest) ∧ singleIntroducer ∉ blanks ++ (place ++ rest) →
      ¬ marker <:+: blanks ++ (place ++ rest) →
      ∀ adapter ∈ [Adapter.rust, .zig, .d, .lean, .go],
        adapter.clean (blanks ++ (place ++ rest)) = Text.trim (stripSeverity rest)) := by
  refine ⟨located.stripLocation blank, fun plain unmarked adapter member => ?_⟩
  have pipeline : adapter.clean = cleanWith stripLocated := by
    revert member adapter
    simp [Adapter.clean]
  rw [pipeline, cleanWith_unmarked _ plain unmarked]
  exact located.stripLocated blank

/-- A path with colons and numbers, and padded numbers in parentheses, before messages that have some of
both. -/
theorem leading_location_is_removed_misleading :
    Located "C:\\src:12:7:3:".toList " Error: note[a b]: f(1, 2): 3:4: (x) ".toList ∧
    Located "app.d( 7 ,12\t):".toList " C:5: error: f(3): x".toList ∧
    stripLocation " C:\\src:12:7:3: Error: note[a b]: f(1, 2): 3:4: (x) ".toList =
      "Error: note[a b]: f(1, 2): 3:4: (x) ".toList ∧
    Adapter.clean .zig " C:\\src:12:7:3: Error: note[a b]: f(1, 2): 3:4: (x) ".toList =
      "f(1, 2): 3:4: (x)".toList ∧
    Adapter.clean .d "app.d( 7 ,12\t): C:5: error: f(3): x".toList = "C:5: error: f(3): x".toList := by
  have point : Located "C:\\src:12:7:3:".toList " Error: note[a b]: f(1, 2): 3:4: (x) ".toList :=
    @Located.point "C:\\src:12".toList "7".toList "3".toList _ ⟨by decide, by decide⟩ (isNumeral_iff.mp rfl)
      (isNumeral_iff.mp rfl) (by decide)
  have seven : Padded " 7 ".toList :=
    @Padded.mk " ".toList "7".toList " ".toList (by decide) (isNumeral_iff.mp rfl) (by decide)
  have twelve : Padded "12\t".toList :=
    @Padded.mk [] "12".toList "\t".toList (by decide) (isNumeral_iff.mp rfl) (by decide)
  have padded : ∀ n ∈ [" 7 ".toList, "12\t".toList], Padded n :=
    List.forall_mem_cons.mpr ⟨seven, List.forall_mem_singleton.mpr twelve⟩
  have call : Located "app.d( 7 ,12\t):".toList " C:5: error: f(3): x".toList :=
    @Located.call "app.d".toList _ [" 7 ".toList, "12\t".toList] [':'] ⟨by decide, by decide⟩ (by decide) padded
      (.inr rfl) (by decide)
  have blank : " ".toList.all Text.isBlank = true := by decide
  have text : " C:\\src:12:7:3: Error: note[a b]: f(1, 2): 3:4: (x) ".toList = " ".toList ++
      ("C:\\src:12:7:3:".toList ++ " Error: note[a b]: f(1, 2): 3:4: (x) ".toList) := rfl
  have other : "app.d( 7 ,12\t): C:5: error: f(3): x".toList = [] ++
      ("app.d( 7 ,12\t):".toList ++ " C:5: error: f(3): x".toList) := rfl
  obtain ⟨removed, cleans⟩ := leading_location_is_removed point blank
  obtain ⟨_, leaves⟩ := leading_location_is_removed call List.all_nil
  refine ⟨point, call, removed, ?_, ?_⟩
  · rw [text, cleans ⟨by decide, by decide⟩ (by decide) .zig (by simp)]
    decide +kernel
  · rw [other, leaves ⟨by decide, by decide⟩ (by decide) .d (by simp)]
    decide +kernel

end BlockDiscovery.Diagnostic
