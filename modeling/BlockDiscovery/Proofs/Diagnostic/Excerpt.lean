import BlockDiscovery.Proofs.Diagnostic.Balance
import BlockDiscovery.Proofs.Diagnostic.Label
import BlockDiscovery.Proofs.Diagnostic.Noise
import BlockDiscovery.Proofs.Text.Lines

/-! # What is handed on is there

An adapter adds nothing to a message.  It hands on an object that stands in the message, escape sequences
apart, or in what unquoting makes of it, and else a stretch of one line or of the whole.
-/

namespace BlockDiscovery.Diagnostic

open BlockDiscovery

variable {s line object : List Char}

/-! ## Noise -/

/-- What remains without noise is a stretch of the text. -/
def Excerpts (noise : List Char → List Char) : Prop := ∀ s, noise s <:+: s

theorem afterColonLocation?_suffix {rest : List Char} (found : afterColonLocation? s = some rest) : rest <:+ s := by
  rw [afterColonLocation?] at found
  split at found
  · obtain ⟨_, same⟩ := Option.ite_none_right_eq_some.mp found
    cases same
    exact (Text.trimStart_suffix _).trans (List.dropWhile_suffix _)
  · cases found

theorem suffix_of_cutAt? {sep : Char} {before after : List Char} (cut : Text.cutAt? sep s = some (before, after)) :
    after <:+ s := by
  obtain ⟨rfl, _⟩ := Text.cutAt?_eq_some_iff.mp cut
  exact (List.suffix_cons sep after).trans (List.suffix_append before _)

theorem afterParenLocation?_suffix {rest : List Char} (found : afterParenLocation? s = some rest) : rest <:+ s := by
  rw [afterParenLocation?] at found
  split at found
  · cases found
  · next path behind cut =>
    split at found
    · cases found
    split at found
    · cases found
    · next inside tail closed =>
      have within : tail <:+ s := (suffix_of_cutAt? closed).trans (suffix_of_cutAt? cut)
      split at found
      · split at found
        · next rest =>
          cases found
          exact ((Text.trimStart_suffix _).trans (List.suffix_cons ':' _)).trans within
        · cases found
          exact (Text.trimStart_suffix tail).trans within
      · cases found

theorem stripLocation_suffix (s : List Char) : stripLocation s <:+ s := by
  rw [stripLocation]
  cases paren : afterParenLocation? (Text.trimStart s) with
  | some rest => exact (afterParenLocation?_suffix paren).trans (Text.trimStart_suffix s)
  | none =>
    cases colon : afterColonLocation? (Text.trimStart s) with
    | some rest => exact (afterColonLocation?_suffix colon).trans (Text.trimStart_suffix s)
    | none => exact Text.trimStart_suffix s

theorem stripException_suffix (s : List Char) : stripException s <:+ s := by
  rw [stripException]
  split
  · next name rest cut =>
    split
    · exact ((Text.trimStart_suffix rest).trans (suffix_of_cutAt? cut)).trans (Text.trimStart_suffix s)
    · exact Text.trimStart_suffix s
  · exact Text.trimStart_suffix s

theorem stripLocated_excerpts : Excerpts stripLocated := fun s =>
  ((stripSeverity_suffix _).trans (stripLocation_suffix s)).isInfix

/-- A line that is looked for, or the whole text when there is none. -/
theorem getD_line_isInfix {found : Option (List Char)} (known : ∀ line ∈ found, line ∈ Text.lines s) :
    found.getD s <:+: s := by
  cases found with
  | none => exact List.infix_rfl
  | some line => exact Text.isInfix_of_mem_lines (known line rfl)

theorem pythonNoise_excerpts : Excerpts pythonNoise := fun s => by
  have last : lastFilledLine s <:+: s := getD_line_isInfix fun line found =>
    List.mem_reverse.mp (List.mem_of_find?_eq_some found)
  have inside (line : List Char) : stripSeverity (stripException line) <:+: line :=
    ((stripSeverity_suffix _).trans (stripException_suffix line)).isInfix
  rw [pythonNoise]
  split
  · exact (inside _).trans last
  · exact inside s

theorem nimNoise_excerpts : Excerpts nimNoise := fun s => by
  rw [nimNoise]
  split
  · next message announced =>
    have whole : message <:+ stripLocated s :=
      ⟨nimAnnouncement, List.isPrefixOf?_eq_some_iff_append_eq.mp announced⟩
    exact ((Text.trimStart_suffix message).trans whole).isInfix.trans (stripLocated_excerpts s)
  · exact stripLocated_excerpts s

theorem crystalNoise_excerpts : Excerpts crystalNoise := fun s => by
  have labelled : ((Text.lines s).find? isLabelled).getD s <:+: s := getD_line_isInfix fun line found =>
    List.mem_of_find?_eq_some found
  exact (stripSeverity_suffix _).isInfix.trans labelled

/-- What the built-in adapters call noise stands around a stretch of the text. -/
theorem clean_excerpts {language : String} {adapter : Adapter}
    (known : Registry.standard.get? language = some adapter) :
    ∃ noise, adapter.clean = cleanWith noise ∧ Excerpts noise := by
  have builtin := mem_builtins known
  cases adapter with
  | rust | zig | d | lean | go => exact ⟨_, rfl, stripLocated_excerpts⟩
  | python => exact ⟨_, rfl, pythonNoise_excerpts⟩
  | nim => exact ⟨_, rfl, nimNoise_excerpts⟩
  | crystal => exact ⟨_, rfl, crystalNoise_excerpts⟩
  | passthrough | escapesOnly | unescape => exact absurd builtin (by decide)

/-! ## Payloads -/

theorem unescapeQuotes_subset (s : List Char) : unescapeQuotes s ⊆ s := by
  induction s using unescapeQuotes.induct with
  | case1 => exact List.Subset.refl []
  | case2 c => exact List.Subset.refl [c]
  | case3 c d rest pair ih =>
    rw [unescapeQuotes, if_pos pair]
    exact List.subset_cons_of_subset c (List.cons_subset_cons d ih)
  | case4 c d rest other ih =>
    rw [unescapeQuotes, if_neg other]
    exact List.cons_subset_cons c ih

/-- The shortest balanced start that begins with a brace is one pair of braces. -/
theorem LeadingObject.braces (h : LeadingObject s object) :
    ∃ inner, Balanced inner ∧ object = '\x7b' :: (inner ++ ['\x7d']) := by
  obtain ⟨⟨front, opening, balanced⟩, shortest⟩ := h
  cases balanced with
  | nil => cases opening
  | @plain c rest inert => exact absurd (Option.some.inj opening) inert.2.1
  | literal => cases opening
  | @braces inner tail within =>
    have start : '\x7b' :: (inner ++ ['\x7d']) <+: '\x7b' :: (inner ++ '\x7d' :: tail) := ⟨tail, by simp⟩
    have short := shortest _ ⟨start.trans front, rfl, .braces within .nil⟩
    have nothing : tail = [] := by
      simp only [List.length_cons, List.length_append, List.length_nil] at short
      exact List.eq_nil_of_length_eq_zero (by omega)
    exact ⟨inner, within, by rw [nothing]⟩

theorem payloadIn?_cases {p : List Char} (found : payloadIn? s = some p) :
    payload? s = some p ∨ payload? (unescapeQuotes s) = some p := by
  simp only [payloadIn?] at found
  split at found
  · exact .inl found
  split at found
  · split at found
    · exact .inr found
    · exact .inl found
  · exact .inl found

/-- A payload is the marker and one pair of braces that stands in the text. -/
theorem object_of_payload? {p : List Char} (found : payload? s = some p) :
    ∃ inner, Balanced inner ∧ p = marker ++ ' ' :: '\x7b' :: (inner ++ ['\x7d']) ∧
      '\x7b' :: (inner ++ ['\x7d']) <:+: s := by
  obtain ⟨before, object, ⟨⟨blanks, rest, rfl, _, leading⟩, _⟩, rfl⟩ := payload?_eq_some_iff.mp found
  obtain ⟨inner, balanced, rfl⟩ := leading.braces
  have within : rest <:+ before ++ (marker ++ (blanks ++ rest)) :=
    ((List.suffix_append blanks rest).trans (List.suffix_append marker _)).trans (List.suffix_append before _)
  exact ⟨inner, balanced, rfl, leading.front.isInfix.trans within.isInfix⟩

/-- A payload that is found stands in the text or in what unquoting makes of it. -/
theorem object_of_payloadIn? {p : List Char} (found : payloadIn? s = some p) :
    ∃ inner, Balanced inner ∧ p = marker ++ ' ' :: '\x7b' :: (inner ++ ['\x7d']) ∧
      ('\x7b' :: (inner ++ ['\x7d']) <:+: s ∨ '\x7b' :: (inner ++ ['\x7d']) <:+: unescapeQuotes s) := by
  obtain direct | unescaped := payloadIn?_cases found
  · obtain ⟨inner, balanced, same, within⟩ := object_of_payload? direct
    exact ⟨inner, balanced, same, .inl within⟩
  · obtain ⟨inner, balanced, same, within⟩ := object_of_payload? unescaped
    exact ⟨inner, balanced, same, .inr within⟩

/-! ## Marked lines -/

/-- The first line of a text that has a marker. -/
def FirstMarked (s line : List Char) : Prop :=
  ∃ earlier later, Text.lines s = earlier ++ line :: later ∧ (∀ l ∈ earlier, ¬ marker <:+: l) ∧
    marker <:+: line

theorem markerLine?_eq_some_iff : markerLine? s = some line ↔ FirstMarked s line := by
  rw [markerLine?, List.find?_eq_some_iff_append, Text.hasWord_iff_isInfix]
  constructor
  · rintro ⟨marked, earlier, later, split, unmarked⟩
    refine ⟨earlier, later, split, fun l member inside => ?_, marked⟩
    have missing := unmarked l member
    rw [Text.hasWord_iff_isInfix.mpr inside] at missing
    cases missing
  · rintro ⟨earlier, later, split, unmarked, marked⟩
    refine ⟨marked, earlier, later, split, fun l member => ?_⟩
    rw [Bool.not_eq_true', Bool.eq_false_iff]
    exact fun inside => unmarked l member (Text.hasWord_iff_isInfix.mp inside)

/-! ## What is handed on -/

/-- Without the characters that begin escape sequences, and without blanks at the edges. -/
structure Tidy (s : List Char) : Prop where
  plain : AllPlain s
  first : ∀ c, s.head? = some c → Text.isBlank c = false
  last : ∀ c, s.getLast? = some c → Text.isBlank c = false

theorem tidy_trim (plain : AllPlain s) : Tidy (Text.trim s) where
  plain c member := plain c ((Text.trim_isInfix s).subset member)
  first _ head := Text.head?_dropEdgesWhile head
  last _ ending := Text.getLast?_dropEdgesWhile ending

theorem tidy_payload {inner : List Char} (plain : AllPlain ('\x7b' :: (inner ++ ['\x7d']))) :
    Tidy (marker ++ ' ' :: '\x7b' :: (inner ++ ['\x7d'])) where
  plain := by
    have word : AllPlain (marker ++ [' ']) := allPlain_of_all (by decide)
    simpa using word.append plain
  first c head := by
    obtain rfl : 'v' = c := Option.some.inj head
    decide
  last c ending := by
    have text : marker ++ ' ' :: '\x7b' :: (inner ++ ['\x7d']) =
        (marker ++ ' ' :: '\x7b' :: inner) ++ ['\x7d'] := by simp
    rw [text, List.getLast?_concat] at ending
    obtain rfl := Option.some.inj ending
    decide

theorem cleanWith_tidy {noise : List Char → List Char} (excerpts : Excerpts noise) (message : List Char) :
    Tidy (cleanWith noise message) := by
  have kept : AllPlain (stripEscapes message) := fun _ => isPlain_of_mem_stripEscapes
  rw [cleanWith]
  cases found : payloadIn? (stripEscapes message) with
  | some p =>
    obtain ⟨inner, _, rfl, within⟩ := object_of_payloadIn? found
    refine tidy_payload fun c member => kept c ?_
    obtain direct | unescaped := within
    · exact direct.subset member
    · exact unescapeQuotes_subset _ (unescaped.subset member)
  | none =>
    refine tidy_trim fun c member => kept c ?_
    have focus : (markerLine? (stripEscapes message)).getD (stripEscapes message) <:+: stripEscapes message :=
      getD_line_isInfix fun line first => List.mem_of_find?_eq_some first
    exact (((excerpts _).trans (Text.trim_isInfix _)).trans focus).subset member

/-- No built-in adapter makes up text, whatever the message.  What it hands on has no escape sequences
and no blanks at its edges; it is the marker and one pair of braces that stands in the message, perhaps
unquoted, when a payload is found, and else a stretch of the first line with a marker, or of the whole
message when no line has one. -/
theorem adapters_add_nothing {language : String} {adapter : Adapter}
    (known : Registry.standard.get? language = some adapter) (message : List Char) :
    (esc ∉ adapter.clean message ∧ singleIntroducer ∉ adapter.clean message) ∧
    (∀ c, (adapter.clean message).head? = some c → Text.isBlank c = false) ∧
    (∀ c, (adapter.clean message).getLast? = some c → Text.isBlank c = false) ∧
    ((payloadIn? (stripEscapes message)).isSome = true →
      ∃ inner, Balanced inner ∧ adapter.clean message = "vivafolio: ".toList ++ '\x7b' :: (inner ++ ['\x7d']) ∧
        ('\x7b' :: (inner ++ ['\x7d']) <:+: stripEscapes message ∨
          '\x7b' :: (inner ++ ['\x7d']) <:+: unescapeQuotes (stripEscapes message))) ∧
    (payloadIn? (stripEscapes message) = none →
      (∀ line, FirstMarked (stripEscapes message) line → adapter.clean message <:+: line) ∧
      ((∀ line, ¬ FirstMarked (stripEscapes message) line) → adapter.clean message <:+: stripEscapes message)) := by
  obtain ⟨noise, pipeline, excerpts⟩ := clean_excerpts known
  rw [pipeline]
  have tidy := cleanWith_tidy excerpts message
  have inside (focus : List Char) : Text.trim (noise (Text.trim focus)) <:+: focus :=
    ((Text.trim_isInfix _).trans (excerpts _)).trans (Text.trim_isInfix focus)
  refine ⟨⟨fun member => ?_, fun member => ?_⟩, tidy.first, tidy.last, fun some => ?_,
    fun none => ⟨fun line first => ?_, fun unmarked => ?_⟩⟩
  · cases tidy.plain _ member
  · cases tidy.plain _ member
  · obtain ⟨p, found⟩ := Option.isSome_iff_exists.mp some
    obtain ⟨inner, balanced, rfl, within⟩ := object_of_payloadIn? found
    refine ⟨inner, balanced, ?_, within⟩
    simp only [cleanWith, found]
    rfl
  · have marked := markerLine?_eq_some_iff.mpr first
    simp only [cleanWith, none, marked, Option.getD_some]
    exact inside line
  · have nowhere : markerLine? (stripEscapes message) = Option.none :=
      Option.eq_none_iff_forall_ne_some.mpr fun line first => unmarked line (markerLine?_eq_some_iff.mp first)
    simp only [cleanWith, none, nowhere, Option.getD_none]
    exact inside _

/-- The marker stands on the second line, with a brace that stays open behind it. -/
theorem adapters_add_nothing_unclosed :
    Registry.standard.get? "CR" = some .crystal ∧
    payloadIn? (stripEscapes "In é.cr:3:5\n\x1b[31m  Error: vivafolio: \x7b\"a\"\x1b[0m \r\nvivafolio".toList) = none ∧
    FirstMarked (stripEscapes "In é.cr:3:5\n\x1b[31m  Error: vivafolio: \x7b\"a\"\x1b[0m \r\nvivafolio".toList)
      "  Error: vivafolio: \x7b\"a\" ".toList ∧
    Adapter.clean .crystal "In é.cr:3:5\n\x1b[31m  Error: vivafolio: \x7b\"a\"\x1b[0m \r\nvivafolio".toList =
      "vivafolio: \x7b\"a\"".toList ∧
    Adapter.clean .crystal "In é.cr:3:5\n\x1b[31m  Error: vivafolio: \x7b\"a\"\x1b[0m \r\nvivafolio".toList <:+:
      "  Error: vivafolio: \x7b\"a\" ".toList := by
  have known : Registry.standard.get? "CR" = some .crystal := by cbv
  have kept : stripEscapes "In é.cr:3:5\n\x1b[31m  Error: vivafolio: \x7b\"a\"\x1b[0m \r\nvivafolio".toList =
      "In é.cr:3:5\n  Error: vivafolio: \x7b\"a\" \r\nvivafolio".toList := by decide +kernel
  have none : payloadIn? "In é.cr:3:5\n  Error: vivafolio: \x7b\"a\" \r\nvivafolio".toList = Option.none := by
    decide +kernel
  have first : FirstMarked "In é.cr:3:5\n  Error: vivafolio: \x7b\"a\" \r\nvivafolio".toList
      "  Error: vivafolio: \x7b\"a\" ".toList :=
    ⟨["In é.cr:3:5".toList], ["vivafolio".toList], by decide +kernel, by decide +kernel, by decide +kernel⟩
  rw [← kept] at none first
  have excerpt := ((adapters_add_nothing known _).2.2.2.2 none).1 _ first
  exact ⟨known, none, first, by decide +kernel, excerpt⟩

end BlockDiscovery.Diagnostic
