import Mathlib
import BlockDiscovery.Diagnostic.Registry
import BlockDiscovery.Proofs.Diagnostic.Escape
import BlockDiscovery.Proofs.Diagnostic.Extent
import BlockDiscovery.Proofs.Diagnostic.Marker
import BlockDiscovery.Proofs.Json.Entries
import BlockDiscovery.Proofs.Json.Fuel
import BlockDiscovery.Proofs.Text.Blank

/-! # Payloads in noise

Every registered adapter hands on the object behind the first marker of a message,
whatever stands around marker and object.  What is handed on is a message of that kind
again, with nothing around it.
-/

namespace BlockDiscovery.Diagnostic

open BlockDiscovery BlockDiscovery.Json

/-! ## Markers -/

theorem marker_eq : marker = "vivafolio".toList ++ [':'] := rfl

/-- A text whose first marker has an object behind it, after some blanks. -/
structure Announces (s object : List Char) : Prop where
  valid : IsObjectText object
  split : ∃ before blanks behind, Text.hasWord marker before = false ∧
    blanks.all Text.isBlank = true ∧ s = before ++ (marker ++ (blanks ++ (object ++ behind)))

variable {s object : List Char}

theorem trim_objectText (h : IsObjectText object) : Text.trim object = object :=
  Text.trim_of_edges h.opening h.closing (by decide) (by decide)

theorem trimStart_objectText (h : IsObjectText object) (behind : List Char) :
    Text.trimStart (object ++ behind) = object ++ behind := by
  obtain ⟨rest, rfl⟩ := List.head?_eq_some_iff.mp h.opening
  exact Text.trimStart_of_head (by decide)

theorem isJsonPayload_payloadText (h : IsObjectText object) :
    isJsonPayload (payloadText object) = true := by
  have json : marker.isPrefixOf? (payloadText object) = some (' ' :: object) := by
    simp [payloadText]
  have same : Doc.read (' ' :: object) = Doc.read object := read_blank (by decide) (read_objectText h)
  have valid := h.valid
  rw [isLooseJson, ← same, ← isLooseJson] at valid
  simp only [isJsonPayload, json, valid]

theorem afterEach_marker {before : List Char} (h : Text.hasWord marker before = false)
    (rest : List Char) : ∃ more, Text.afterEach marker (before ++ (marker ++ rest)) = rest :: more := by
  rw [marker_eq] at h ⊢
  rw [List.append_assoc "vivafolio".toList]
  exact Text.afterEach_first (by decide) h rest

theorem payload?_announced (h : Announces s object) : payload? s = some (payloadText object) := by
  obtain ⟨before, blanks, behind, first, blank, rfl⟩ := h.split
  obtain ⟨more, found⟩ := afterEach_marker first (blanks ++ (object ++ behind))
  have trimmed : Text.trimStart (blanks ++ (object ++ behind)) = object ++ behind := by
    rw [Text.trimStart_append blank, trimStart_objectText h.valid]
  rw [payload?, found, List.findSome?_cons, trimmed, leadingObject?_objectText h.valid]
  rfl

theorem payloadIn?_announced (h : Announces s object) :
    payloadIn? s = some (payloadText object) := by
  have valid := isJsonPayload_payloadText h.valid
  simp [payloadIn?, payload?_announced h, valid]

theorem announces_payloadText (h : IsObjectText object) : Announces (payloadText object) object where
  valid := h
  split := ⟨[], [' '], [], rfl, rfl, by simp [payloadText]⟩

theorem parsePayload_payloadText (h : IsObjectText object) : parsePayload (payloadText object) =
    (decodeText Block.Notification.decode object).mapError .invalidJson := by
  have first : Text.hasWord marker [] = false := rfl
  obtain ⟨more, found⟩ := afterEach_marker first (' ' :: object)
  have payload : Text.afterEach marker (payloadText object) = (' ' :: object) :: more := found
  rw [parsePayload, payload]
  dsimp only
  rw [Text.trim_cons (by decide), trim_objectText h]

/-! ## Adapters -/

theorem stripEscapes_payloadText {message : List Char} (h : Announces (stripEscapes message) object) :
    stripEscapes (payloadText object) = payloadText object := by
  apply stripEscapes_of_plain
  intro c member
  obtain ⟨before, blanks, behind, _, _, text⟩ := h.split
  have stripped : ∀ d ∈ object, isPlain d = true := by
    intro d inside
    apply isPlain_of_mem_stripEscapes (s := message)
    rw [text]
    simp [inside]
  rw [payloadText, List.mem_append, List.mem_cons] at member
  have letters : marker.all isPlain = true := by decide
  obtain word | rfl | inside := member
  · exact List.all_eq_true.mp letters c word
  · decide
  · exact stripped c inside

theorem cleanWith_announced {noise : List Char → List Char} {message : List Char}
    (h : Announces (stripEscapes message) object) : cleanWith noise message = payloadText object := by
  simp only [cleanWith, payloadIn?_announced h]

/-! ## The registry -/

theorem get?_register (r : Registry) (id language : String) (adapter : Adapter) :
    (r.register id adapter).get? language =
      if Registry.normalId language = Registry.normalId id then some adapter else r.get? language :=
  lookup_insertEntry _ _ adapter r.entries

theorem get?_registered {languages : List (String × Adapter)} {r : Registry} {language : String}
    {adapter : Adapter} (h : (languages.foldl (fun r (language, adapter) =>
      r.register language adapter) r).get? language = some adapter) :
    adapter ∈ languages.map Prod.snd ∨ r.get? language = some adapter := by
  induction languages generalizing r with
  | nil => exact .inr h
  | cons entry languages ih =>
    obtain later | earlier := ih h
    · exact .inl (List.mem_cons_of_mem _ later)
    rw [get?_register] at earlier
    split at earlier
    · exact .inl (Option.some.inj earlier ▸ List.mem_cons_self)
    · exact .inr earlier

theorem mem_builtins {language : String} {adapter : Adapter}
    (known : Registry.standard.get? language = some adapter) : adapter ∈ Registry.builtins.map Prod.snd := by
  obtain builtin | none := get?_registered known
  · exact builtin
  · cases none

/-- The built-in adapters share one pipeline and differ in what they call noise. -/
theorem clean_builtin {language : String} {adapter : Adapter}
    (h : Registry.standard.get? language = some adapter) :
    ∃ noise, adapter.clean = cleanWith noise := by
  have shared : ∀ a ∈ Registry.builtins.map Prod.snd, ∃ noise, a.clean = cleanWith noise := by
    simp [Registry.builtins, Adapter.clean]
  exact shared adapter (mem_builtins h)

/-- Every built-in adapter hands on the object behind the first marker, in one form
whatever the noise around it: it is then parsed as the object alone, and cleaning it
again changes nothing. -/
theorem clean_announced {language : String} {adapter : Adapter} {message : List Char}
    (known : Registry.standard.get? language = some adapter)
    (h : Announces (stripEscapes message) object) :
    adapter.clean message = payloadText object ∧
    parsePayload (adapter.clean message) =
      (decodeText Block.Notification.decode object).mapError .invalidJson ∧
    adapter.clean (adapter.clean message) = adapter.clean message := by
  obtain ⟨noise, pipeline⟩ := clean_builtin known
  have handed : adapter.clean message = payloadText object := by
    rw [pipeline, cleanWith_announced h]
  have again : Announces (stripEscapes (payloadText object)) object := by
    rw [stripEscapes_payloadText h]
    exact announces_payloadText h.valid
  refine ⟨handed, ?_, ?_⟩
  · rw [handed, parsePayload_payloadText h.valid]
  · rw [handed, pipeline, cleanWith_announced again]

/-- A coloured message with text behind an object that holds a brace and a marker. -/
theorem clean_announced_coloured :
    Registry.standard.get? "Rust" = some .rust ∧
    Announces
      (stripEscapes "\x1b[31merror\x1b[0m: vivafolio:\t\x7b\"a\":\"\x7dvivafolio:\"\x7d, x\x7d".toList)
      "\x7b\"a\":\"\x7dvivafolio:\"\x7d".toList ∧
    Adapter.clean .rust
        "\x1b[31merror\x1b[0m: vivafolio:\t\x7b\"a\":\"\x7dvivafolio:\"\x7d, x\x7d".toList =
      "vivafolio: \x7b\"a\":\"\x7dvivafolio:\"\x7d".toList := by
  have known : Registry.standard.get? "Rust" = some .rust := by cbv
  have announced : Announces
      (stripEscapes "\x1b[31merror\x1b[0m: vivafolio:\t\x7b\"a\":\"\x7dvivafolio:\"\x7d, x\x7d".toList)
      "\x7b\"a\":\"\x7dvivafolio:\"\x7d".toList :=
    ⟨⟨rfl, rfl, by cbv⟩, "error: ".toList, ['\t'], ", x\x7d".toList, by cbv, by cbv, by cbv⟩
  exact ⟨known, announced, (clean_announced known announced).1⟩

end BlockDiscovery.Diagnostic
