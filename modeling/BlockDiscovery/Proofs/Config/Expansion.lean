import BlockDiscovery.Config.Environment
import BlockDiscovery.Proofs.Json.Entries
import BlockDiscovery.Proofs.Text.Blank
import BlockDiscovery.Text.Utf8

/-! # Texts with references

Every text is a template: plain text between references to variables, and at the end maybe a
reference that is not closed.  Expanding puts the value of the variable for each reference, and
leaves all else, the values too, as it is.
-/

namespace BlockDiscovery.Config

open BlockDiscovery BlockDiscovery.Json

/-! ## Variables -/

/-- Variables as the system keeps them: a value is any bytes. -/
abbrev SystemVariables := List (String × List UInt8)

namespace SystemVariables

/-- The variables that can be read.  One whose value is not UTF-8 cannot, and is as good as unset,
even where the system has the name once more. -/
def readable : SystemVariables → Environment
  | [] => []
  | (name, bytes) :: vars =>
    match Text.ofUtf8? bytes with
    | some text => (name, String.ofList text) :: readable vars
    | none => (readable vars).filter fun entry => entry.1 ≠ name

/-- What a reference stands for: the value of the variable where it is UTF-8, and else nothing. -/
def value (vars : SystemVariables) (name : List Char) : List Char :=
  if name = [] then []
  else
    match lookup (String.ofList name) vars with
    | some bytes => (Text.ofUtf8? bytes).getD []
    | none => []

theorem get?_readable (vars : SystemVariables) (key : String) :
    vars.readable.get? key = (lookup key vars).bind fun bytes => (Text.ofUtf8? bytes).map String.ofList := by
  rw [Environment.get?]
  induction vars with
  | nil => rfl
  | cons entry vars ih =>
    obtain ⟨name, bytes⟩ := entry
    rw [readable]
    split
    · next text read => by_cases found : name = key <;> simp [lookup, found, read, ih]
    · next unread =>
      rw [lookup_filter, ih]
      by_cases found : name = key <;> simp [lookup, found, unread]

theorem value_readable (vars : SystemVariables) (name : List Char) :
    vars.readable.value name = vars.value name := by
  rw [Environment.value, value, get?_readable]
  cases name with
  | nil => rfl
  | cons c name =>
    cases lookup (String.ofList (c :: name)) vars with
    | none => rfl
    | some bytes => cases read : Text.ofUtf8? bytes <;> simp [read]

end SystemVariables

/-! ## Templates -/

/-- What opens a reference. -/
def opening : List Char := ['$', '\x7b']

/-- A reference, with the text behind it up to the next. -/
structure Reference where
  name : List Char
  behind : List Char
  closed : '\x7d' ∉ name
  silent : ¬ opening <:+: behind

/-- Where the references end there is nothing, or one that is not closed. -/
def Unclosed (rest : List Char) : Prop := rest = [] ∨ ∃ tail, rest = opening ++ tail ∧ '\x7d' ∉ tail

/-- Text with references, and what is left behind the last. -/
structure Template where
  lead : List Char
  references : List Reference
  rest : List Char
  silent : ¬ opening <:+: lead
  unclosed : Unclosed rest

namespace Reference

def text (r : Reference) : List Char := opening ++ (r.name ++ '\x7d' :: r.behind)

/-- The reference with a value put for it. -/
def filled (value : List Char → List Char) (r : Reference) : List Char := value r.name ++ r.behind

end Reference

namespace Template

def text (t : Template) : List Char := t.lead ++ (t.references.flatMap Reference.text ++ t.rest)

/-- The template with a value put for each reference. -/
def filled (value : List Char → List Char) (t : Template) : List Char :=
  t.lead ++ (t.references.flatMap (Reference.filled value) ++ t.rest)

end Template

/-! ## Expanding -/

namespace Environment

variable {env : Environment} {c : Char} {s t : List Char}

theorem opening_prefix_iff : opening <+: c :: s ↔ c = '$' ∧ s.head? = some '\x7b' := by
  cases s <;> simp [opening, List.cons_prefix_cons, eq_comm]

theorem expandChars_cons (plain : ¬ opening <+: c :: s) : env.expandChars (c :: s) = c :: env.expandChars s := by
  cases s with
  | nil => rw [expandChars, expandChars]
  | cons d s =>
    have other : ¬ (c = '$' ∧ d = '\x7b') := by simpa [opening_prefix_iff] using plain
    rw [expandChars, if_neg other]

/-- Text without an opening stays as it is where no brace follows it. -/
theorem expandChars_silent (silent : ¬ opening <:+: s) (apart : t.head? ≠ some '\x7b') :
    env.expandChars (s ++ t) = s ++ env.expandChars t := by
  induction s with
  | nil => rfl
  | cons c s ih =>
    have later : ¬ opening <:+: s := fun inner => silent (inner.trans (List.suffix_cons c s).isInfix)
    have here : ¬ opening <+: c :: (s ++ t) := by
      rw [opening_prefix_iff]
      rintro ⟨rfl, brace⟩
      cases s with
      | nil => exact apart brace
      | cons d s =>
        have front : opening <+: '$' :: d :: s := opening_prefix_iff.mpr ⟨rfl, brace⟩
        exact silent front.isInfix
    rw [List.cons_append, expandChars_cons here, ih later, List.cons_append]

theorem expandChars_opening (s : List Char) : env.expandChars (opening ++ s) =
    match Text.cutAt? '\x7d' s with
    | some (name, after) => env.value name ++ env.expandChars after
    | none => opening ++ s := by
  simp only [opening, List.cons_append, List.nil_append]
  rw [expandChars, if_pos ⟨rfl, rfl⟩]
  split
  · next found => simp only [found]
  · next none => simp only [none]

theorem head?_references (refs : List Reference) {rest : List Char} (unclosed : Unclosed rest) :
    (refs.flatMap Reference.text ++ rest).head? ≠ some '\x7b' := by
  cases refs with
  | nil => obtain rfl | ⟨tail, rfl, _⟩ := unclosed <;> simp [opening]
  | cons r refs => simp [Reference.text, opening]

theorem expandChars_references (refs : List Reference) {rest : List Char} (unclosed : Unclosed rest) :
    env.expandChars (refs.flatMap Reference.text ++ rest) =
      refs.flatMap (Reference.filled env.value) ++ rest := by
  induction refs with
  | nil =>
    rw [List.flatMap_nil, List.flatMap_nil, List.nil_append]
    obtain rfl | ⟨tail, rfl, noEnd⟩ := unclosed
    · rw [expandChars]
    · rw [expandChars_opening, Text.cutAt?_eq_none_iff.mpr noEnd]
  | cons r refs ih =>
    calc env.expandChars ((r :: refs).flatMap Reference.text ++ rest)
      _ = env.expandChars (opening ++ (r.name ++ '\x7d' :: (r.behind ++ (refs.flatMap Reference.text ++ rest)))) := by
        simp [Reference.text]
      _ = env.value r.name ++ env.expandChars (r.behind ++ (refs.flatMap Reference.text ++ rest)) := by
        rw [expandChars_opening, Text.cutAt?_append _ r.closed]
      _ = env.value r.name ++ (r.behind ++ (refs.flatMap (Reference.filled env.value) ++ rest)) := by
        rw [expandChars_silent r.silent (head?_references refs unclosed), ih]
      _ = (r :: refs).flatMap (Reference.filled env.value) ++ rest := by
        simp [Reference.filled]

theorem expandChars_text (t : Template) : env.expandChars t.text = t.filled env.value := by
  rw [Template.text, expandChars_silent t.silent (head?_references t.references t.unclosed),
    expandChars_references t.references t.unclosed, Template.filled]

end Environment

/-! ## Every text is a template -/

namespace Template

/-- A template with a character before it that opens no reference. -/
theorem exists_cons {c : Char} (t : Template) (plain : ¬ opening <+: c :: t.text) :
    ∃ u : Template, u.text = c :: t.text := by
  have silent : ¬ opening <:+: c :: t.lead := by
    rw [List.infix_cons_iff, not_or]
    refine ⟨fun front => plain (front.trans ?_), t.silent⟩
    exact (List.prefix_cons_inj c).mpr (List.prefix_append t.lead _)
  exact ⟨⟨c :: t.lead, t.references, t.rest, silent, t.unclosed⟩, rfl⟩

/-- A template with a reference before it. -/
theorem exists_reference {name : List Char} (closed : '\x7d' ∉ name) (t : Template) :
    ∃ u : Template, u.text = opening ++ (name ++ '\x7d' :: t.text) :=
  ⟨⟨[], ⟨name, t.lead, closed, t.silent⟩ :: t.references, t.rest, by simp [opening], t.unclosed⟩,
    by simp [text, Reference.text]⟩

theorem exists_text (s : List Char) : ∃ t : Template, t.text = s := by
  have blank : ∃ t : Template, t.text = [] := ⟨⟨[], [], [], by simp [opening], .inl rfl⟩, rfl⟩
  fun_induction Environment.references s with
  | case1 => exact blank
  | case2 c =>
    obtain ⟨t, empty⟩ := blank
    obtain ⟨u, whole⟩ := t.exists_cons (c := c) (by simp [empty, opening])
    exact ⟨u, by rw [whole, empty]⟩
  | case3 c d rest opened name after cut _ ih =>
    obtain ⟨t, behind⟩ := ih
    obtain ⟨split, closed⟩ := Text.cutAt?_eq_some_iff.mp cut
    obtain ⟨u, whole⟩ := t.exists_reference closed
    exact ⟨u, by rw [whole, behind, split, opened.1, opened.2]; rfl⟩
  | case4 c d rest opened cut =>
    have unclosed := Text.cutAt?_eq_none_iff.mp cut
    refine ⟨⟨[], [], opening ++ rest, by simp [opening], .inr ⟨rest, rfl, unclosed⟩⟩, ?_⟩
    rw [opened.1, opened.2]
    rfl
  | case5 c d rest plain ih =>
    obtain ⟨t, behind⟩ := ih
    obtain ⟨u, whole⟩ := t.exists_cons (c := c) (by simpa [behind, Environment.opening_prefix_iff] using plain)
    exact ⟨u, by rw [whole, behind]⟩

end Template

/-- A text with references expands, in one pass, to the text with the values of the variables in
their places: what a value brings along is not expanded, and a reference that is not closed stays.
Every text is of that form. -/
theorem expand_template (vars : SystemVariables) :
    (∀ t : Template, vars.readable.expand (String.ofList t.text) = String.ofList (t.filled vars.value)) ∧
    ∀ s : String, ∃ t : Template, s = String.ofList t.text := by
  constructor
  · intro t
    have same : vars.readable.value = vars.value := funext vars.value_readable
    rw [Environment.expand, String.toList_ofList, Environment.expandChars_text, same]
  · intro s
    obtain ⟨t, whole⟩ := Template.exists_text s.toList
    exact ⟨t, by rw [whole, String.ofList_toList]⟩

/-- A value that looks like a reference, no name, a name with an opening inside, and no end. -/
example : Environment.expand [("A", "$\x7bB\x7d"), ("B", "b")]
    "$$\x7bA\x7d$\x7b\x7d$\x7bB$\x7bA\x7d\x7d$\x7bB" = "$$\x7bB\x7d\x7d$\x7bB" := by cbv

end BlockDiscovery.Config
