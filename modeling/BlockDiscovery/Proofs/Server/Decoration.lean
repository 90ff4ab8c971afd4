import BlockDiscovery.Proofs.Server.Quotes

/-! # Decorated payloads

The server can report a payload as a toolchain would, and the adapter of that toolchain is to hand
it on without the decoration.  The styles of Nim and Python put text around the payload, which is
found behind the first marker.

The style of Rust puts the payload in quotes.  It is looked for first as it stands, where the quote
of every key has a backslash before it and nothing but an empty object can be JSON, and then with
the quoting undone.
-/

namespace BlockDiscovery.Server

open BlockDiscovery BlockDiscovery.Json BlockDiscovery.Diagnostic

variable {c : Char} {s t object before behind : List Char} {line : Nat}

/-! ## Text between single quotes -/

/-- Text around a quotation that has no marker before it, and no marker and no closing brace behind it. -/
structure Surrounds (before behind : List Char) : Prop where
  first : Text.hasWord marker before = false
  last : Text.hasWord marker behind = false
  unclosed : '\x7d' ∉ behind
  plain : '\\' ∉ before ++ behind

/-- The text between single quotes, with text around it. -/
def quotation (before s behind : List Char) : List Char := before ++ '\'' :: (s ++ '\'' :: behind)

theorem payload?_quotation (h : Surrounds before behind) (s : List Char) :
    payload? (quotation before s behind) = payload? s := by
  have blank : Text.isBlank '\'' = false := by decide
  have unclosed : '\x7d' ∉ '\'' :: behind := by simp [h.unclosed]
  rw [payload?, payload?, quotation, Text.afterEach_append_cons (by decide), Text.afterEach_append_cons (by decide),
    Text.afterEach_eq_nil h.first, Text.afterEach_eq_nil h.last, List.map_nil, List.nil_append, List.append_nil,
    List.findSome?_map]
  congr 2
  funext rest
  rw [Function.comp_apply, Text.trimStart_append_cons blank, leadingObject?_append unclosed]

theorem unescapeQuotes_quotation (h : Surrounds before behind) (s : List Char) :
    unescapeQuotes (quotation before s behind) = quotation before (unescapeQuotes s) behind := by
  obtain ⟨front, back⟩ := not_or.mp (mt List.mem_append.mpr h.plain)
  rw [quotation, unescapeQuotes_append_cons (by decide), unescapeQuotes_append_cons (by decide),
    unescapeQuotes_of_notMem front, unescapeQuotes_of_notMem back]
  rfl

theorem afterEach_payloadText (s : List Char) :
    Text.afterEach marker (payloadText s) = (' ' :: s) :: Text.afterEach marker s := by
  have alone : Text.afterEach marker marker = [[]] := by cbv
  rw [payloadText, Text.afterEach_append_cons (by decide), alone]
  rfl

/-- What is found behind a marker of a payload lies in the object of the payload. -/
theorem object_of_payload? {p : List Char} (h : payload? (payloadText s) = some p) :
    ∃ found rest, p = payloadText found ∧ leadingObject? rest = some found ∧ rest <:+ s := by
  obtain ⟨found, search, rfl⟩ := Option.map_eq_some_iff.mp h
  obtain ⟨rest, inside, here⟩ := List.exists_of_findSome?_eq_some search
  refine ⟨found, Text.trimStart rest, rfl, here, ?_⟩
  rw [afterEach_payloadText] at inside
  obtain rfl | later := List.mem_cons.mp inside
  · exact Text.trimStart_suffix s
  · obtain ⟨front, rfl⟩ := Text.exists_of_mem_afterEach later
    exact (Text.trimStart_suffix rest).trans ((List.suffix_append marker rest).trans (List.suffix_append front _))

/-! ## What the adapters are given -/

theorem allPlain_decimal (n : Nat) : AllPlain (Text.decimal n) := by
  intro c member
  have digit := Char.isDigit_iff_toNat.mp (Text.isDigit_of_mem_decimal member)
  have low : '0'.toNat = 0x30 := rfl
  have high : '9'.toNat = 0x39 := rfl
  simp only [isPlain, Bool.and_eq_true, decide_eq_true_eq]
  constructor
  · rintro rfl
    have code : esc.toNat = 0x1b := rfl
    omega
  · rintro rfl
    have code : singleIntroducer.toNat = 0x9b := rfl
    omega

theorem notMem_decimal (h : c.isDigit = false) (n : Nat) : c ∉ Text.decimal n := by
  intro member
  rw [Text.isDigit_of_mem_decimal member] at h
  cases h

theorem allPlain_objectText (valid : IsObjectText object) (single : singleIntroducer ∉ object) :
    AllPlain object := by
  intro c member
  simp only [isPlain, Bool.and_eq_true, decide_eq_true_eq]
  constructor
  · rintro rfl
    have blank := isJsonBlank_of_control valid member (by decide)
    cases blank
  · rintro rfl
    exact single member

/-- The text before the quoted payload, without its escapes. -/
def panicHeading : List Char :=
  "error[E0080]: evaluation of constant value failed\n  the evaluated program panicked at ".toList

/-- The text behind the quoted payload. -/
def panicPlace (line : Nat) : List Char :=
  ", src/lib.rs:".toList ++ (Text.decimal (line + 1) ++ ":5".toList)

theorem decorate_rust (payload : List Char) (line : Nat) :
    decorate .rust payload line =
      "\x1b[1m\x1b[31merror[E0080]\x1b[0m: evaluation of constant value failed\n  ".toList ++
      ("the evaluated program panicked at '".toList ++ (quoteQuotes payload ++ '\'' :: panicPlace line)) := by
  have place : "', src/lib.rs:".toList = '\'' :: ", src/lib.rs:".toList := by cbv
  unfold decorate panicPlace
  generalize "', src/lib.rs:".toList = front at place ⊢
  subst place
  simp only [List.append_assoc, List.cons_append]

theorem allPlain_panicPlace (line : Nat) : AllPlain (panicPlace line) := by
  apply AllPlain.append (allPlain_of_all (by cbv))
  exact (allPlain_decimal _).append (allPlain_of_all (by cbv))

theorem notMem_around (digit : c.isDigit = false) (front : c ∉ before) (back : c ∉ behind) (n : Nat) :
    c ∉ before ++ (Text.decimal n ++ behind) := by
  intro member
  obtain inside | later := List.mem_append.mp member
  · exact front inside
  obtain inside | inside := List.mem_append.mp later
  · exact notMem_decimal digit _ inside
  · exact back inside

theorem notMem_panicPlace (digit : c.isDigit = false) (front : c ∉ ", src/lib.rs:".toList) (back : c ∉ ":5".toList)
    (line : Nat) : c ∉ panicPlace line :=
  notMem_around digit front back (line + 1)

theorem stripEscapes_rust {payload : List Char} (plain : AllPlain (quoteQuotes payload)) (line : Nat) :
    stripEscapes (decorate .rust payload line) = quotation panicHeading (quoteQuotes payload) (panicPlace line) := by
  have label : keptFrom .plain
      "\x1b[1m\x1b[31merror[E0080]\x1b[0m: evaluation of constant value failed\n  ".toList =
      "error[E0080]: evaluation of constant value failed\n  ".toList := by cbv
  have closed : ("\x1b[1m\x1b[31merror[E0080]\x1b[0m: evaluation of constant value failed\n  ".toList).foldl
      (fun state c => (EscapeState.next state c).1) .plain = .plain := by cbv
  have words : AllPlain "the evaluated program panicked at '".toList := allPlain_of_all (by cbv)
  have heading : "error[E0080]: evaluation of constant value failed\n  ".toList ++
      "the evaluated program panicked at '".toList = panicHeading ++ ['\''] := by cbv
  rw [decorate_rust, stripEscapes, keptFrom_append, label, closed]
  generalize "the evaluated program panicked at '".toList = text at words heading ⊢
  generalize "error[E0080]: evaluation of constant value failed\n  ".toList = front at heading ⊢
  have behind : AllPlain ('\'' :: panicPlace line) :=
    List.forall_mem_cons.mpr ⟨by decide, allPlain_panicPlace line⟩
  rw [keptFrom_of_plain (words.append (plain.append behind)), ← List.append_assoc, heading, quotation,
    List.append_assoc, List.singleton_append]

theorem surrounds_panic (line : Nat) : Surrounds panicHeading (panicPlace line) where
  first := by cbv
  last := Text.hasWord_of_notMem (c := 'v') (by decide) (notMem_panicPlace rfl (by decide) (by decide) line)
  unclosed := notMem_panicPlace rfl (by decide) (by decide) line
  plain := by
    rw [List.mem_append, not_or]
    exact ⟨by decide, notMem_panicPlace rfl (by decide) (by decide) line⟩

/-! ## What is found of a quoted payload -/

theorem payloadText_inj : payloadText s = payloadText t ↔ s = t := by
  simp [payloadText]

/-- Of the text as it stands, only an empty object can be JSON: the quote of a key has a backslash before it. -/
theorem empty_of_direct {p : List Char} (h : payload? (payloadText (quoteQuotes s)) = some p)
    (json : isJsonPayload p = true) :
    ∃ blanks, (∀ c ∈ blanks, isJsonBlank c = true) ∧ p = payloadText (emptyBraces blanks) := by
  obtain ⟨found, rest, rfl, here, inside⟩ := object_of_payload? h
  obtain ⟨blanks, blank, rfl | ⟨more, rfl⟩⟩ := object_cases_of_isJsonPayload here json
  · exact ⟨blanks, blank, rfl⟩
  exfalso
  obtain ⟨tail, rfl⟩ := (frontOf_of_leadingObject? here).1.1
  obtain ⟨head, whole⟩ := inside
  have split : quoteQuotes s = (head ++ '\x7b' :: blanks) ++ '"' :: (more ++ tail) := by
    simp [← whole]
  obtain ⟨front, escaped⟩ := backslash_of_quoteQuotes split
  have last : '\\' ∈ '\x7b' :: blanks := by
    have ends := congrArg List.getLast? escaped
    rw [List.getLast?_concat, List.getLast?_append, List.getLast?_eq_some_getLast (List.cons_ne_nil _ _),
      Option.some_or, Option.some.injEq] at ends
    exact ends ▸ List.getLast_mem _
  obtain same | member := List.mem_cons.mp last
  · cases same
  · cases blank _ member

theorem quote_notMem_emptyBraces {blanks : List Char} (blank : ∀ c ∈ blanks, isJsonBlank c = true) :
    '"' ∉ emptyBraces blanks := by
  intro member
  obtain same | inside := List.mem_cons.mp member
  · cases same
  obtain inside | last := List.mem_append.mp inside
  · cases blank _ inside
  · cases List.mem_singleton.mp last

theorem unescapeQuotes_quoted_payloadText (s : List Char) :
    unescapeQuotes (payloadText (quoteQuotes s)) = payloadText (merged s) := by
  rw [payloadText, unescapeQuotes_append_cons (by decide), unescapeQuotes_of_notMem (by decide),
    unescapeQuotes_quoteQuotes]
  rfl

/-- With a pair of backslashes, what undoing the quotes leaves is too short for the object. -/
theorem payload?_merged_ne (pair : ['\\', '\\'] <:+: s) : payload? (payloadText (merged s)) ≠ some (payloadText s) := by
  intro same
  obtain ⟨found, rest, equal, here, inside⟩ := object_of_payload? same
  obtain rfl := payloadText_inj.mp equal
  have front := (frontOf_of_leadingObject? here).1.1.length_le
  have back := inside.length_le
  have shorter := length_merged_lt pair
  omega

theorem direct_invalid_iff : (payload? (payloadText (quoteQuotes s))).any isJsonPayload = false ↔
    ∀ blanks, (∀ c ∈ blanks, isJsonBlank c = true) →
      payload? (payloadText (quoteQuotes s)) ≠ some (payloadText (emptyBraces blanks)) := by
  constructor
  · intro invalid blanks blank same
    have json := isJsonPayload_payloadText (isObjectText_emptyBraces blank)
    simp [same, json] at invalid
  · intro others
    rw [Bool.eq_false_iff]
    intro json
    cases found : payload? (payloadText (quoteQuotes s)) with
    | none => simp [found] at json
    | some p =>
      rw [found] at json
      obtain ⟨blanks, blank, rfl⟩ := empty_of_direct found json
      exact others blanks blank found

/-! ## What is left when nothing is found -/

theorem stripLocation_the (s : List Char) : stripLocation ('t' :: 'h' :: 'e' :: ' ' :: s) = 't' :: 'h' :: 'e' :: ' ' :: s := by
  have paren : afterParenLocation? ('t' :: 'h' :: 'e' :: ' ' :: s) = none := by
    cases cut : Text.cutAt? '(' s <;> simp [afterParenLocation?, Text.cutAt?, cut, Text.isBlank]
  have colon : afterColonLocation? ('t' :: 'h' :: 'e' :: ' ' :: s) = none := by
    simp [afterColonLocation?, Text.isBlank]
  rw [stripLocation, Text.trimStart_of_head (by decide), paren, colon]
  rfl

theorem stripSeverity_the (s : List Char) : stripSeverity ('t' :: 'h' :: 'e' :: ' ' :: s) = 't' :: 'h' :: 'e' :: ' ' :: s := by
  have label : afterSeverity? ('t' :: 'h' :: 'e' :: ' ' :: s) = none := by
    have word : ('t' :: 'h' :: 'e' :: ' ' :: s).takeWhile isLetter = "the".toList := by
      simp [List.takeWhile, isLetter]
    have other : (severityWords.any fun w => Text.sameIgnoringCase w "the".toList) = false := by cbv
    rw [afterSeverity?, word, other]
    rfl
  rw [stripSeverity, List.length_cons, dropSeverities, Text.trimStart_of_head (by decide), label]

theorem getLast?_append_of_last (h : t.getLast? = some c) : (s ++ t).getLast? = some c := by
  rw [List.getLast?_append, h, Option.some_or]

theorem getLast?_panicPlace (line : Nat) : (panicPlace line).getLast? = some '5' := by
  unfold panicPlace
  exact getLast?_append_of_last (getLast?_append_of_last (by cbv))

theorem markerLine?_second (first : '\n' ∉ s) (second : '\n' ∉ t) (filled : t ≠ [])
    (silent : Text.hasWord marker (Text.dropReturn s) = false) (marked : Text.hasWord marker t = true) :
    markerLine? (s ++ '\n' :: t) = some t := by
  have lines : Text.lines (s ++ '\n' :: t) = [Text.dropReturn s, t] := by
    rw [Text.lines, Text.pieces_append first, Text.pieces_of_notMem second]
    simp [Text.linesOfPieces, filled]
  rw [markerLine?, lines, List.find?_cons_of_neg (by simp [silent]), List.find?_cons_of_pos marked]

/-- The line with the marker, without the blanks before it. -/
def panicRemark (s : List Char) (line : Nat) : List Char :=
  't' :: 'h' :: 'e' :: ' ' :: quotation "evaluated program panicked at ".toList s (panicPlace line)

theorem getLast?_panicRemark (s : List Char) (line : Nat) : (panicRemark s line).getLast? = some '5' := by
  have last := getLast?_panicPlace line
  simp [panicRemark, quotation, List.getLast?_cons, List.getLast?_append, last]

theorem trim_panicRemark (s : List Char) (line : Nat) : Text.trim (panicRemark s line) = panicRemark s line :=
  Text.trim_of_edges rfl (getLast?_panicRemark s line) (by decide) (by decide)

theorem markerLine?_panic (oneLine : '\n' ∉ s) (line : Nat) :
    markerLine? (quotation panicHeading (payloadText s) (panicPlace line)) =
      some (' ' :: ' ' :: panicRemark (payloadText s) line) := by
  have heading : panicHeading = "error[E0080]: evaluation of constant value failed".toList ++
      '\n' :: ' ' :: ' ' :: 't' :: 'h' :: 'e' :: ' ' :: "evaluated program panicked at ".toList := by cbv
  have text : quotation panicHeading (payloadText s) (panicPlace line) =
      "error[E0080]: evaluation of constant value failed".toList ++
        '\n' :: ' ' :: ' ' :: panicRemark (payloadText s) line := by
    rw [quotation, heading]
    simp only [panicRemark, quotation, List.append_assoc, List.cons_append]
  rw [text]
  apply markerLine?_second
  · decide
  · have place := notMem_panicPlace (c := '\n') rfl (by decide) (by decide) line
    have word : '\n' ∉ marker := by decide
    simp [panicRemark, quotation, payloadText, place, word, oneLine]
  · exact List.cons_ne_nil _ _
  · cbv
  · have inside := Text.hasWord_append marker
      (' ' :: ' ' :: 't' :: 'h' :: 'e' :: ' ' :: ("evaluated program panicked at ".toList ++ ['\'']))
      (' ' :: (s ++ '\'' :: panicPlace line))
    simpa [panicRemark, quotation, payloadText] using inside

/-- Where nothing is found, the line with the marker is what is left. -/
theorem clean_rust_unfound (oneLine : '\n' ∉ s) {message : List Char}
    (stripped : stripEscapes message = quotation panicHeading (payloadText s) (panicPlace line))
    (unfound : payloadIn? (stripEscapes message) = none) :
    Adapter.clean .rust message = panicRemark (payloadText s) line := by
  have found := markerLine?_panic oneLine line
  rw [← stripped] at found
  have trimmed : Text.trim (' ' :: ' ' :: panicRemark (payloadText s) line) = panicRemark (payloadText s) line := by
    rw [Text.trim_cons (by decide), Text.trim_cons (by decide), trim_panicRemark]
  have kept : stripLocated (panicRemark (payloadText s) line) = panicRemark (payloadText s) line := by
    rw [stripLocated, panicRemark, stripLocation_the, stripSeverity_the]
  simp only [Adapter.clean, cleanWith, unfound, found, Option.getD_some, trimmed, kept, trim_panicRemark]

theorem clean_rust_iff (oneLine : '\n' ∉ s) {message : List Char}
    (stripped : stripEscapes message = quotation panicHeading (payloadText s) (panicPlace line)) :
    Adapter.clean .rust message = payloadText t ↔ payloadIn? (stripEscapes message) = some (payloadText t) := by
  cases found : payloadIn? (stripEscapes message) with
  | none =>
    rw [clean_rust_unfound oneLine stripped found]
    simp only [reduceCtorEq, iff_false]
    intro same
    cases congrArg List.head? same
  | some p => simp [Adapter.clean, cleanWith, found]

/-! ## What the adapters make of it -/

/-- What the adapter of a language makes of a payload in the style of that language. -/
def recovered (language : String) (payload : List Char) (line : Nat) : List Char :=
  (Registry.standard.resolve language).clean (decorate (.ofName language) payload line)

theorem recovered_rust (payload : List Char) (line : Nat) :
    recovered "rust" payload line = Adapter.clean .rust (decorate .rust payload line) := by
  have adapter : Registry.standard.resolve "rust" = .rust := by cbv
  rw [recovered, adapter]
  rfl

section Object

variable (valid : IsObjectText object) (oneLine : '\n' ∉ object) (single : singleIntroducer ∉ object)
include valid single

theorem allPlain_payloadText : AllPlain (payloadText object) := by
  apply AllPlain.append (allPlain_of_all (by decide))
  exact List.forall_mem_cons.mpr ⟨by decide, allPlain_objectText valid single⟩

/-- A payload that is reported behind a line number comes back as it is. -/
theorem cleanWith_numbered {noise : List Char → List Char} {number : Nat} (front : AllPlain before)
    (middle : AllPlain s) (back : AllPlain behind) (first : 'v' ∉ before) (second : 'v' ∉ s) :
    cleanWith noise (before ++ Text.decimal number ++ s ++ payloadText object ++ behind) = payloadText object := by
  have plain := ((front.append (allPlain_decimal number)).append middle).append (allPlain_payloadText valid single)
  apply cleanWith_announced
  rw [stripEscapes, keptFrom_of_plain (plain.append back)]
  refine ⟨valid, before ++ Text.decimal number ++ s, [' '], behind, ?_, rfl, by simp [payloadText]⟩
  apply Text.hasWord_of_notMem (c := 'v') (by decide)
  rw [List.append_assoc]
  exact notMem_around rfl first second number

theorem recovered_nim (line : Nat) : recovered "nim" (payloadText object) line = payloadText object := by
  have adapter : Registry.standard.resolve "nim" = .nim := by cbv
  rw [recovered, adapter]
  exact cleanWith_numbered valid single (allPlain_of_all (by cbv)) (allPlain_of_all (by cbv))
    (allPlain_of_all (by cbv)) (by decide) (by decide)

theorem recovered_python (line : Nat) : recovered "python" (payloadText object) line = payloadText object := by
  have adapter : Registry.standard.resolve "python" = .python := by cbv
  rw [recovered, adapter, ← List.append_nil (decorate _ _ _)]
  exact cleanWith_numbered valid single (allPlain_of_all (by cbv)) (allPlain_of_all (by cbv))
    (allPlain_of_all rfl) (by decide) (by decide)

theorem stripEscapes_rust_object (line : Nat) : stripEscapes (decorate .rust (payloadText object) line) =
    quotation panicHeading (payloadText (quoteQuotes object)) (panicPlace line) := by
  rw [stripEscapes_rust, quoteQuotes_payloadText]
  intro c member
  obtain inside | rfl := mem_quoteQuotes member
  · exact allPlain_payloadText valid single c inside
  · decide

theorem recovered_rust_unquoted (plain : '"' ∉ object) (line : Nat) :
    recovered "rust" (payloadText object) line = payloadText object := by
  rw [recovered_rust]
  apply cleanWith_announced
  rw [stripEscapes_rust_object valid single, quoteQuotes_of_notMem plain]
  refine ⟨valid, panicHeading ++ ['\''], [' '], '\'' :: panicPlace line, by cbv, rfl, ?_⟩
  simp [quotation, payloadText]

omit single in
theorem direct_ne (quote : '"' ∈ object) : payload? (payloadText (quoteQuotes object)) ≠ some (payloadText object) := by
  intro same
  obtain ⟨blanks, blank, equal⟩ := empty_of_direct same (isJsonPayload_payloadText valid)
  obtain rfl := payloadText_inj.mp equal
  exact quote_notMem_emptyBraces blank quote

omit single in
/-- With no marker in the object the text as it stands gives nothing. -/
theorem direct_invalid_of_silent (quote : '"' ∈ object) (silent : Text.hasWord marker object = false) :
    (payload? (payloadText (quoteQuotes object))).any isJsonPayload = false := by
  have only : Text.afterEach marker (payloadText (quoteQuotes object)) = [' ' :: quoteQuotes object] := by
    rw [afterEach_payloadText, Text.afterEach_eq_nil (hasWord_quoteQuotes plain_marker (by decide) silent)]
  obtain ⟨blanks, blank, rfl | ⟨more, rfl⟩⟩ := objectText_cases valid
  · exact absurd quote (quote_notMem_emptyBraces blank)
  have blankOnly : '"' ∉ blanks := by
    intro member
    cases blank _ member
  have text : quoteQuotes ('\x7b' :: (blanks ++ '"' :: more)) =
      '\x7b' :: (blanks ++ '\\' :: '"' :: quoteQuotes more) := by
    rw [quoteQuotes_cons (by decide), quoteQuotes_append, quoteQuotes_of_notMem blankOnly, quoteQuotes_cons_quote]
  rw [payload?_single only, text, Text.trimStart_of_head (by decide)]
  cases found : leadingObject? ('\x7b' :: (blanks ++ '\\' :: '"' :: quoteQuotes more)) with
  | none => rfl
  | some object => exact isJsonPayload_quoted blank found

include oneLine in
/-- The payload comes back when undoing the quotes gives it back, and it is not taken for another before. -/
theorem recovered_rust_iff (quote : '"' ∈ object) (line : Nat) :
    recovered "rust" (payloadText object) line = payloadText object ↔
      ¬ ['\\', '\\'] <:+: object ∧
        (payload? (payloadText (quoteQuotes object))).any isJsonPayload = false := by
  have stripped := stripEscapes_rust_object valid single line
  have direct := payload?_quotation (surrounds_panic line) (payloadText (quoteQuotes object))
  have undone : payload? (unescapeQuotes (quotation panicHeading (payloadText (quoteQuotes object)) (panicPlace line))) =
      payload? (payloadText (merged object)) := by
    rw [unescapeQuotes_quotation (surrounds_panic line), payload?_quotation (surrounds_panic line),
      unescapeQuotes_quoted_payloadText]
  have escaped : Text.hasWord ['\\', '"']
      (quotation panicHeading (payloadText (quoteQuotes object)) (panicPlace line)) = true := by
    obtain ⟨before, behind, split⟩ := List.append_of_mem quote
    have inside := Text.hasWord_append ['\\', '"']
      (panicHeading ++ '\'' :: (marker ++ ' ' :: quoteQuotes before)) (quoteQuotes behind ++ '\'' :: panicPlace line)
    rw [split, quoteQuotes_append, quoteQuotes_cons_quote]
    simpa [quotation, payloadText] using inside
  rw [recovered_rust, clean_rust_iff (mt mem_quoteQuotes (by simp [oneLine])) stripped, stripped, payloadIn?, direct,
    undone, escaped]
  have another := direct_ne valid quote
  by_cases taken : (payload? (payloadText (quoteQuotes object))).any isJsonPayload = true
  · simp [taken, another]
  by_cases pair : ['\\', '\\'] <:+: object
  · have short := payload?_merged_ne pair
    simp only [taken, pair, not_true_eq_false, false_and, iff_false, Bool.false_eq_true, if_false, if_true]
    split
    · exact short
    · exact another
  · have whole := payload?_announced (announces_payloadText valid)
    simp [taken, pair, merged_of_single pair, whole, isJsonPayload_payloadText valid]

end Object

/-- The server's decoration of a payload and what the adapters make of it.  Nim and Python give every payload
back.  Rust does for a payload that has quotes just if it has no pair of backslashes, which undoing the quotes
would make one, and no braces with nothing in them are found behind a marker while the quotes are escaped. -/
theorem decoration_undone (valid : IsObjectText object) (oneLine : '\n' ∉ object)
    (single : singleIntroducer ∉ object) (line : Nat) :
    recovered "nim" (payloadText object) line = payloadText object ∧
    recovered "python" (payloadText object) line = payloadText object ∧
    (recovered "rust" (payloadText object) line = payloadText object ↔
      ('"' ∈ object → ¬ ['\\', '\\'] <:+: object ∧
        ∀ blanks, (∀ c ∈ blanks, isJsonBlank c = true) →
          payload? (quoteQuotes (payloadText object)) ≠ some (payloadText (emptyBraces blanks)))) ∧
    (¬ ['\\', '\\'] <:+: object → Text.hasWord marker object = false →
      recovered "rust" (payloadText object) line = payloadText object) := by
  refine ⟨recovered_nim valid single line, recovered_python valid single line, ?_, fun lone silent => ?_⟩
  · by_cases quote : '"' ∈ object
    · rw [recovered_rust_iff valid oneLine single quote, quoteQuotes_payloadText, direct_invalid_iff]
      simp [quote]
    · simp [quote, recovered_rust_unquoted valid single quote]
  · by_cases quote : '"' ∈ object
    · exact (recovered_rust_iff valid oneLine single quote line).mpr ⟨lone, direct_invalid_of_silent valid quote silent⟩
    · exact recovered_rust_unquoted valid single quote line

/-- An object with a string that is one escaped quote. -/
def quoteObject : List Char := "\x7b\"a\":\"\\\"\"\x7d".toList

theorem decoration_undone_quote :
    IsObjectText quoteObject ∧ '\n' ∉ quoteObject ∧ singleIntroducer ∉ quoteObject ∧
    recovered "rust" (payloadText quoteObject) 4 = payloadText quoteObject := by
  have valid : IsObjectText quoteObject := ⟨by cbv, by cbv, by cbv⟩
  have oneLine : '\n' ∉ quoteObject := by decide
  have single : singleIntroducer ∉ quoteObject := by decide
  have undone := (decoration_undone valid oneLine single 4).2.2.2 (by decide) (by cbv)
  exact ⟨valid, oneLine, single, undone⟩

/-- An object with a string that is one escaped backslash. -/
def backslashObject : List Char := "\x7b\"a\":\"\\\\\"\x7d".toList

/-- An escaped backslash does not come back: the server leaves its two backslashes alone, and the adapter
makes one of them. -/
theorem escaped_backslash_is_lost :
    IsObjectText backslashObject ∧ '\n' ∉ backslashObject ∧ singleIntroducer ∉ backslashObject ∧
    ¬ ∀ language ∈ ["rust", "nim", "python"],
      recovered language (payloadText backslashObject) 0 = payloadText backslashObject := by
  have valid : IsObjectText backslashObject := ⟨by cbv, by cbv, by cbv⟩
  have oneLine : '\n' ∉ backslashObject := by decide
  have single : singleIntroducer ∉ backslashObject := by decide
  refine ⟨valid, oneLine, single, fun all => ?_⟩
  have undone := (recovered_rust_iff valid oneLine single (by decide) 0).mp (all "rust" (by simp))
  exact undone.1 (by decide)

end BlockDiscovery.Server
