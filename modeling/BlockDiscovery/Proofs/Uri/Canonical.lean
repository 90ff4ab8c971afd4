import BlockDiscovery.Proofs.Uri.Escape
import BlockDiscovery.Proofs.Uri.RoundTrip

/-! # Canonical spellings

The segments of an address have no dots left in them.  But a segment with an escaped slash decodes to
several components, and one of these may be two dots.  The canonical spelling of such an address
writes them out, and reading it resolves them: it is not its own canonical spelling, but the one after
it is.
-/

namespace BlockDiscovery.Uri

open BlockDiscovery

variable {kind : SchemeKind} {above pieces segments : List (List Char)} {s text uri : List Char}
  {p : List Char → Prop}

/-! ## Dots -/

theorem mem_of_mem_parent (member : s ∈ parent above) : s ∈ above := by
  rw [parent] at member
  split at member
  · split at member
    · exact member
    · exact List.mem_of_mem_dropLast member
  · cases member

theorem isDrive_cases (drive : isDrive s = true) :
    ∃ letter mark, s = [letter, mark] ∧ letter.isAlpha = true ∧ (mark = ':' ∨ mark = '|') := by
  match s with
  | [] => cases drive
  | [c] => cases drive
  | c :: d :: e :: s => cases drive
  | [letter, mark] =>
    rw [isDrive, Bool.and_eq_true, Bool.or_eq_true, decide_eq_true_eq, decide_eq_true_eq] at drive
    exact ⟨letter, mark, rfl, drive⟩

theorem isDoubleDot_of_isDrive (drive : isDrive s = true) : isDoubleDot s = false := by
  obtain ⟨letter, mark, rfl, alpha, _⟩ := isDrive_cases drive
  have other : dropDot? [letter, mark] = none := by
    refine dropDot?.eq_3 _ (fun rest dot => ?_) fun e rest escape => ?_
    · obtain ⟨rfl, _⟩ := List.cons.inj dot
      revert alpha
      decide
    · cases escape
  rw [isDoubleDot, other]
  rfl

theorem slash_notMem_isDrive (drive : isDrive s = true) : slash ∉ percentDecode (Text.utf8 s) := by
  intro member
  obtain ⟨letter, mark, rfl, alpha, marks⟩ := isDrive_cases drive
  obtain written | escaped | escaped := (decodes [letter, mark]).slash member
  · obtain rfl | written := List.mem_cons.mp written
    · revert alpha
      decide
    · obtain rfl := List.mem_singleton.mp written
      revert marks
      decide
  · exact absurd escaped.length_le (by simp)
  · exact absurd escaped.length_le (by simp)

theorem settle_cases (kind : SchemeKind) (above : List (List Char)) (s : List Char) :
    kind.settle above s = s ∨ isDrive (kind.settle above s) = true := by
  rw [SchemeKind.settle]
  split
  · next drive =>
    right
    obtain ⟨letter, mark, rfl, alpha, _⟩ := isDrive_cases drive.2.2
    exact Bool.and_eq_true_iff.mpr ⟨alpha, rfl⟩
  · exact .inl rfl

/-- What holds of nothing, of drives and of the pieces that are no dots holds of the segments that are
left when dots are resolved. -/
theorem forall_resolveDots (nothing : p []) (drive : ∀ s, isDrive s = true → p s)
    (kept : ∀ s ∈ pieces, isDot s = false → isDoubleDot s = false → p s) (before : ∀ s ∈ above, p s) :
    ∀ s ∈ resolveDots kind above pieces, p s := by
  have settled (above : List (List Char)) (s : List Char) (own : p s) : p (kind.settle above s) := by
    obtain same | drives := settle_cases kind above s
    · rwa [same]
    · exact drive _ drives
  have joined {above more : List (List Char)} (before : ∀ s ∈ above, p s) (after : ∀ s ∈ more, p s) :
      ∀ s ∈ above ++ more, p s := List.forall_mem_append.mpr ⟨before, after⟩
  fun_induction resolveDots kind above pieces with
  | case1 above => exact before
  | case2 above last double =>
    exact joined (fun s member => before s (mem_of_mem_parent member)) (List.forall_mem_singleton.mpr nothing)
  | case3 above last double single => exact joined before (List.forall_mem_singleton.mpr nothing)
  | case4 above last double single =>
    have own := kept last List.mem_cons_self (Bool.eq_false_iff.mpr single) (Bool.eq_false_iff.mpr double)
    exact joined before (List.forall_mem_singleton.mpr (settled above last own))
  | case5 above segment rest _ double ih =>
    exact ih (fun s member => kept s (List.mem_cons_of_mem segment member))
      fun s member => before s (mem_of_mem_parent member)
  | case6 above segment rest _ double single ih =>
    exact ih (fun s member => kept s (List.mem_cons_of_mem segment member)) before
  | case7 above segment rest _ double single ih =>
    have own := kept segment List.mem_cons_self (Bool.eq_false_iff.mpr single) (Bool.eq_false_iff.mpr double)
    exact ih (fun s member => kept s (List.mem_cons_of_mem segment member))
      (joined before (List.forall_mem_singleton.mpr (settled above segment own)))

theorem resolveDots_ne_nil (some : above ≠ [] ∨ pieces ≠ []) : resolveDots kind above pieces ≠ [] := by
  fun_induction resolveDots kind above pieces with
  | case1 above => exact some.resolve_right (fun absurd => absurd rfl)
  | case2 => simp
  | case3 => simp
  | case4 => simp
  | case5 above segment rest more double ih => exact ih (.inr more)
  | case6 above segment rest more double single ih => exact ih (.inr more)
  | case7 above segment rest more double single ih => exact ih (.inr more)

theorem forall_dropEmptyStart (nothing : p []) (kept : ∀ s ∈ segments, p s) :
    ∀ s ∈ dropEmptyStart segments, p s := by
  rw [dropEmptyStart]
  split
  · exact List.forall_mem_singleton.mpr nothing
  · exact fun s member => kept s ((List.dropWhile_suffix _).subset member)

theorem dropEmptyStart_ne_nil (segments : List (List Char)) : dropEmptyStart segments ≠ [] := by
  rw [dropEmptyStart]
  split
  · exact List.cons_ne_nil _ _
  · assumption

/-! ## Where segments come from -/

theorem piecesBy_ne_nil (separates : Char → Bool) (text : List Char) : piecesBy separates text ≠ [] := by
  fun_induction piecesBy separates text <;> simp

/-- A piece is a stretch of the text without separators, and the first one is the start of it. -/
theorem piecesBy_isInfix (separates : Char → Bool) (text : List Char) :
    (∀ piece ∈ piecesBy separates text, piece <:+: text ∧ ∀ c ∈ piece, separates c = false) ∧
      ∀ first ∈ (piecesBy separates text).head?, first <+: text := by
  fun_induction piecesBy separates text with
  | case1 => simp
  | case2 c rest here ih =>
    refine ⟨List.forall_mem_cons.mpr ⟨⟨List.nil_infix, List.forall_mem_nil _⟩, fun piece member => ?_⟩, ?_⟩
    · exact (ih.1 piece member).imp_left List.infix_cons
    · rintro first ⟨⟩
      exact List.nil_prefix
  | case3 c rest inside none ih => exact absurd none (piecesBy_ne_nil separates rest)
  | case4 c rest inside first more cut ih =>
    rw [cut] at ih
    obtain ⟨pieces, start⟩ := ih
    obtain ⟨⟨_, whole⟩, later⟩ := List.forall_mem_cons.mp pieces
    have longer : c :: first <+: c :: rest := (List.prefix_cons_inj c).mpr (start first rfl)
    refine ⟨List.forall_mem_cons.mpr ⟨⟨longer.isInfix, ?_⟩, fun piece member => ?_⟩, ?_⟩
    · exact List.forall_mem_cons.mpr ⟨Bool.eq_false_iff.mpr inside, whole⟩
    · exact (later piece member).imp_left List.infix_cons
    · rintro _ ⟨⟩
      exact longer

/-- Segments that a stretch of a text writes. -/
def StretchOf (text : List Char) (segments : List (List Char)) : Prop :=
  ∃ kind part, part <:+: text ∧ segments = segmentsOf kind part

theorem StretchOf.mono {whole : List Char} (h : StretchOf text segments) (part : text <:+: whole) :
    StretchOf whole segments := by
  obtain ⟨kind, inner, inside, same⟩ := h
  exact ⟨kind, inner, inside.trans part, same⟩

theorem stretchOf_pathSegments (kind : SchemeKind) (path : List Char) : StretchOf path (pathSegments kind path) := by
  rw [pathSegments.eq_def]
  split
  · next c rest =>
    split
    · exact ⟨kind, rest, (List.suffix_cons c rest).isInfix, rfl⟩
    · exact ⟨kind, c :: rest, List.infix_rfl, rfl⟩
  · exact ⟨kind, [], List.infix_rfl, rfl⟩

theorem stretchOf_hostedFile? (read : hostedFile? text = some segments) : StretchOf text segments := by
  have path := (List.dropWhile_suffix (l := text) fun c => !SchemeKind.file.separates c).isInfix
  simp only [hostedFile?] at read
  split at read
  · cases read
    exact ⟨.file, text, List.infix_rfl, rfl⟩
  · split at read
    · cases read
      exact ⟨.file, _, path, rfl⟩
    · split at read
      · cases read
        exact (stretchOf_pathSegments .file _).mono path
      · cases read

theorem stretchOf_fileAddress? (read : fileAddress? text = some segments) :
    ∃ whole, StretchOf text whole ∧ segments = dropEmptyStart whole := by
  obtain ⟨whole, found, rfl⟩ := Option.map_eq_some_iff.mp read
  refine ⟨whole, ?_, rfl⟩
  split at found
  · next a b after =>
    split at found
    · have behind : after <:+: a :: b :: after := (List.suffix_append [a, b] after).isInfix
      exact (stretchOf_hostedFile? found).mono behind
    · cases found
      exact stretchOf_pathSegments .file _
  · cases found
    exact stretchOf_pathSegments .file _

theorem stretchOf_authorityAddress? (read : authorityAddress? kind text = some segments) :
    StretchOf text segments := by
  have path := (List.dropWhile_suffix (l := text) fun c => !kind.separates c).isInfix
  simp only [authorityAddress?] at read
  split at read
  · cases read
  · split at read
    · cases read
    · cases read
      exact (stretchOf_pathSegments kind _).mono path

theorem stretchOf_otherAddress? (read : otherAddress? text = some segments) : StretchOf text segments := by
  rw [otherAddress?.eq_def] at read
  split at read
  · next after =>
    have behind : after <:+: '/' :: '/' :: after := (List.suffix_append ['/', '/'] after).isInfix
    exact (stretchOf_authorityAddress? read).mono behind
  · cases read
    exact stretchOf_pathSegments .other _
  · cases read

theorem schemeOf?_suffix {rest : List Char} (found : schemeOf? uri = some (kind, rest)) : rest <:+ uri := by
  rw [schemeOf?] at found
  split at found
  · next c name behind cut =>
    obtain ⟨rfl, _⟩ := Text.cutAt?_eq_some_iff.mp cut
    split at found
    · cases found
      exact ⟨c :: name ++ [':'], by simp⟩
    · cases found
  · cases found

/-- The segments of an address are those of a stretch of it; of a file address, without empty ones at
the start. -/
theorem segments?_cases (read : segments? uri = some segments) :
    ∃ whole, StretchOf (tidy uri) whole ∧ (segments = whole ∨ segments = dropEmptyStart whole) := by
  rw [segments?] at read
  split at read
  · cases read
  · next kind rest scheme =>
    have inside : rest.takeWhile (fun c => !endsPath c) <:+: tidy uri :=
      (List.takeWhile_prefix _).isInfix.trans (schemeOf?_suffix scheme).isInfix
    cases kind with
    | file =>
      obtain ⟨whole, stretch, same⟩ := stretchOf_fileAddress? read
      exact ⟨whole, stretch.mono inside, .inr same⟩
    | web =>
      have behind := (List.dropWhile_suffix (l := rest.takeWhile fun c => !endsPath c) SchemeKind.web.separates).isInfix
      exact ⟨segments, (stretchOf_authorityAddress? read).mono (behind.trans inside), .inl rfl⟩
    | other => exact ⟨segments, (stretchOf_otherAddress? read).mono inside, .inl rfl⟩

theorem segments_ne_nil (read : segments? uri = some segments) : segments ≠ [] := by
  obtain ⟨whole, ⟨kind, part, _, rfl⟩, rfl | rfl⟩ := segments?_cases read
  · exact resolveDots_ne_nil (.inr (piecesBy_ne_nil _ _))
  · exact dropEmptyStart_ne_nil _

/-- What holds of nothing, of drives and of all stretches of an address that are no dots and have no
slash holds of its segments. -/
theorem forall_segments? (read : segments? uri = some segments) (nothing : p []) (drive : ∀ s, isDrive s = true → p s)
    (kept : ∀ s, s <:+: tidy uri → '/' ∉ s → isDot s = false → isDoubleDot s = false → p s) :
    ∀ s ∈ segments, p s := by
  obtain ⟨whole, ⟨kind, part, inside, rfl⟩, same⟩ := segments?_cases read
  have all : ∀ s ∈ segmentsOf kind part, p s := by
    refine forall_resolveDots nothing drive (fun s member single double => ?_) (List.forall_mem_nil _)
    obtain ⟨stretch, whole⟩ := (piecesBy_isInfix kind.separates part).1 s member
    refine kept s (stretch.trans inside) (fun slash => ?_) single double
    cases (whole '/' slash).symm.trans (rfl : kind.separates '/' = true)
  obtain rfl | rfl := same
  · exact all
  · exact forall_dropEmptyStart nothing all

/-! ## Paths -/

variable {path : Path} {components : List (List UInt8)}

theorem pathOf?_cases (named : pathOf? uri = some path) : ∃ segments, segments? uri = some segments ∧
    path = ⟨closeDrive ((segments.map fun s => percentDecode (Text.utf8 s)).flatMap (slash :: ·))⟩ := by
  obtain ⟨segments, read, rfl⟩ := Option.map_eq_some_iff.mp named
  exact ⟨segments, read, by rw [List.flatMap_map]⟩

theorem isAbsolute_of_pathOf? (named : pathOf? uri = some path) : path.isAbsolute = true := by
  obtain ⟨segments, read, rfl⟩ := pathOf?_cases named
  cases segments with
  | nil => exact absurd rfl (segments_ne_nil read)
  | cons s segments => exact decide_eq_true (head?_closeDrive rfl)

/-- Where every segment decodes to a single component there are no two dots. -/
theorem forward_of_single (read : segments? uri = some segments) (named : pathOf? uri = some path)
    (single : ∀ s ∈ segments, slash ∉ percentDecode (Text.utf8 s)) : [dot, dot] ∉ path.components := by
  obtain ⟨_, again, rfl⟩ := pathOf?_cases named
  cases read.symm.trans again
  rw [components_closeDrive (List.forall_mem_map.mpr single)]
  intro member
  obtain ⟨s, inside, dots⟩ := List.mem_map.mp (List.mem_filter.mp member).1
  have plain := forall_segments? read (p := fun s => isDoubleDot s = false) rfl
    (fun _ => isDoubleDot_of_isDrive) fun _ _ _ _ plain => plain
  cases (plain s inside).symm.trans (isDoubleDot_of_decodes (dots ▸ decodes s))

/-- Two dots in a path come from a segment with an escaped slash. -/
theorem forward_of_unescaped (named : pathOf? uri = some path) (unescaped : ¬ EscapedSlash (tidy uri)) :
    [dot, dot] ∉ path.components := by
  obtain ⟨segments, read, _⟩ := pathOf?_cases named
  refine forward_of_single read named ?_
  refine forall_segments? read List.not_mem_nil (fun _ => slash_notMem_isDrive) fun s inside whole _ _ member => ?_
  obtain written | escaped := (decodes s).slash member
  · exact whole written
  · exact unescaped (escaped.mono inside)

/-! ## Spelling a path -/

theorem normalize_of_pathOf? (named : pathOf? uri = some path) :
    normalize uri = addressOf (segmentsFor path.components) := by
  rw [normalize, named, Option.bind_some, uri?_eq (isAbsolute_of_pathOf? named), Option.getD_some]

theorem normalize_of_none (unnamed : pathOf? uri = none) : normalize uri = uri := by
  rw [normalize, unnamed]
  rfl

theorem segmentsFor_ne_nil (components : List (List UInt8)) : segmentsFor components ≠ [] := by
  cases components with
  | nil => exact List.cons_ne_nil _ _
  | cons => exact List.cons_ne_nil _ _

/-- The address that a path is written as names a path without two dots. -/
theorem exists_forward (sound : ∀ c ∈ components, IsComponent c) :
    ∃ q, pathOf? (addressOf (segmentsFor components)) = some q ∧ [dot, dot] ∉ q.components := by
  have read := segments?_visible (visible_segmentsFor components) (segmentsFor_ne_nil components)
  obtain ⟨q, named⟩ : ∃ q, pathOf? (addressOf (segmentsFor components)) = some q :=
    ⟨_, by rw [pathOf?, read, Option.map_some]⟩
  refine ⟨q, named, forward_of_single read named ?_⟩
  have whole : ∀ piece ∈ (segmentsFor components).map fun s => percentDecode (Text.utf8 s), slash ∉ piece := by
    rw [decoded_segmentsFor]
    exact piecesFor_whole sound
  have single : ∀ s ∈ segmentsFor components, slash ∉ percentDecode (Text.utf8 s) :=
    fun s member => whole _ (List.mem_map_of_mem member)
  have nothing : slash ∉ percentDecode (Text.utf8 []) := List.not_mem_nil
  exact forall_dropEmptyStart nothing (forall_resolveDots nothing (fun _ => slash_notMem_isDrive)
    (fun s member _ _ => single s member) (List.forall_mem_singleton.mpr nothing))

/-- Paths that are written as the same address have the same components. -/
theorem piecesFor_of_addressOf {others : List (List UInt8)}
    (same : addressOf (segmentsFor components) = addressOf (segmentsFor others)) :
    piecesFor components = piecesFor others := by
  have pieces := congrArg (piecesBy SchemeKind.file.separates) (List.append_cancel_left same)
  rw [piecesBy_visible (visible_segmentsFor components), piecesBy_visible (visible_segmentsFor others)] at pieces
  rw [← decoded_segmentsFor, ← decoded_segmentsFor, (List.cons.inj pieces).2]

theorem dots_mem_piecesFor : [dot, dot] ∈ piecesFor components ↔ [dot, dot] ∈ components := by
  cases components with
  | nil => simp [piecesFor]
  | cons => rfl

/-- The canonical spelling is its own exactly when there are no two dots in the path. -/
theorem normalize_addressOf_iff (sound : ∀ c ∈ components, IsComponent c) :
    normalize (addressOf (segmentsFor components)) = addressOf (segmentsFor components) ↔
      [dot, dot] ∉ components := by
  refine ⟨fun same => ?_, normalize_addressOf sound⟩
  obtain ⟨q, named, forward⟩ := exists_forward sound
  rw [normalize_of_pathOf? named] at same
  rwa [← dots_mem_piecesFor, ← piecesFor_of_addressOf same, dots_mem_piecesFor]

theorem sound_components (path : Path) : ∀ c ∈ path.components, IsComponent c := fun _ => isComponent_of_mem

/-- Normalizing twice changes nothing unless the address names a path with two dots. -/
theorem normalize_normalize_iff (uri : List Char) : normalize (normalize uri) = normalize uri ↔
    ∀ path, pathOf? uri = some path → [dot, dot] ∉ path.components := by
  cases named : pathOf? uri with
  | none => simp [normalize_of_none named]
  | some path =>
    rw [normalize_of_pathOf? named, normalize_addressOf_iff (sound_components path)]
    simp

/-- After the second time nothing changes any more. -/
theorem normalize_thrice (uri : List Char) :
    normalize (normalize (normalize uri)) = normalize (normalize uri) := by
  cases named : pathOf? uri with
  | none => simp only [normalize_of_none named]
  | some path =>
    obtain ⟨q, written, forward⟩ := exists_forward (sound_components path)
    rw [normalize_of_pathOf? named, normalize_of_pathOf? written]
    exact normalize_addressOf (sound_components q) forward

end BlockDiscovery.Uri
